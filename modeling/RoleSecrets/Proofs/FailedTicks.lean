import RoleSecrets.Proofs.Isolation

/-! # A tick that fails leaves no trace

A tick that cannot list the secrets or the declarations has only asked for these. It leaves the world
as it was, so a history goes on as if there had been no such tick.
-/

namespace RoleSecrets

/-- An act of a history with what came of it, and the worlds before and after it. -/
structure Entry where
  act : Act
  before : World
  outcome : Option Reconciler.TickOutcome
  after : World

/-- Whether an act was a tick that failed. -/
def Entry.failed (entry : Entry) : Bool := entry.outcome.any fun outcome => !outcome.value.isOk

namespace Reconciler

/-- The entry of an act in a world. -/
def entry (r : Reconciler) (w : World) (act : Act) : Entry :=
  ⟨act, w, (r.act w act).1, (r.act w act).2⟩

def journal (r : Reconciler) (w : World) : List Act → List Entry
  | [] => []
  | act :: later => r.entry w act :: journal r (r.entry w act).after later

/-- A history without its ticks that fail. -/
def withoutFailed (r : Reconciler) (w : World) (acts : List Act) : List Act :=
  ((r.journal w acts).filter (!·.failed)).map (·.act)

/-- Whether a question lists the secrets of a source, or looks up what is declared. -/
def Lists (r : Reconciler) (question : Query) : Prop :=
  question = .listSecrets r.source.selector ∨ question.isLookup = true

/-- What comes of a history, and the world after it, can be read off its entries. -/
theorem live_eq_journal (r : Reconciler) (w : World) (acts : List Act) :
    r.live w acts =
      ((r.journal w acts).map (·.outcome), ((r.journal w acts).map (·.after)).getLastD w) := by
  induction acts generalizing w with
  | nil => rfl
  | cons act later ih =>
    rcases same : r.act w act with ⟨answer, after⟩
    simp only [live, journal, entry, same, ih, List.map_cons, List.getLastD_cons]

variable {r : Reconciler}

theorem asks_lists (plain : r.source.Plain) : r.opening.Asks r.Lists := by
  refine Program.Asks.bind (.request (.inl rfl)) fun listing => ?_
  cases listing with
  | error e => exact .pure _
  | ok listed =>
    refine (plain.declarations.mono fun _ => .inr).bind fun answer => ?_
    cases answer <;> exact .pure _

/-- What fails in a tick is its opening. -/
theorem run_tick_of_failed (plain : r.source.Plain) (now : Timestamp) (w : World)
    (failed : (w.run (r.tick now)).value.isOk = false) :
    (w.run (r.tick now)).state = w ∧
      ∀ step ∈ (w.run (r.tick now)).steps, r.Lists step.question := by
  obtain ⟨-, unchanged, -⟩ := sameOpening plain w w.faults rfl rfl
  rw [tick_eq, World.run_bind] at failed ⊢
  rcases found : (w.run r.opening).value with e | ⟨declarations, secrets⟩
  · rw [proceed, World.run_pure, List.append_nil]
    exact ⟨unchanged, World.asked_of_mem_run (asks_lists plain) w⟩
  · rw [found, proceed, World.run_bind, World.run_pure] at failed
    cases failed

theorem entry_of_failed (plain : r.source.Plain) {w : World} {act : Act}
    (failed : (r.entry w act).failed = true) :
    (r.entry w act).after = w ∧ ∃ outcome, (r.entry w act).outcome = some outcome ∧
      ∀ step ∈ outcome.steps, r.Lists step.question := by
  cases act with
  | change change => cases failed
  | tick now =>
    obtain ⟨unchanged, lists⟩ := run_tick_of_failed plain now w
      (by simpa [Entry.failed, entry, act] using failed)
    exact ⟨unchanged, _, rfl, lists⟩

/-- Whatever an act has come to, its entry knows the world it met. -/
theorem exists_entry_of_mem_journal {w : World} {acts : List Act} :
    ∀ entry ∈ r.journal w acts, entry = r.entry entry.before entry.act := by
  induction acts generalizing w with
  | nil => exact fun _ member => absurd member List.not_mem_nil
  | cons act later ih =>
    intro entry member
    rcases List.mem_cons.mp member with rfl | inside
    · rfl
    · exact ih entry inside

theorem withoutFailed_cons_of_failed {w : World} {act : Act} (later : List Act)
    (failed : (r.entry w act).failed = true) :
    r.withoutFailed w (act :: later) = r.withoutFailed (r.entry w act).after later := by
  rw [withoutFailed, journal, List.filter_cons_of_neg (by simp [failed]), withoutFailed]

theorem withoutFailed_cons {w : World} {act : Act} (later : List Act)
    (fine : (r.entry w act).failed = false) :
    r.withoutFailed w (act :: later) = act :: r.withoutFailed (r.entry w act).after later := by
  rw [withoutFailed, journal, List.filter_cons_of_pos (by simp [fine]), List.map_cons, withoutFailed]
  rfl

theorem journal_withoutFailed (plain : r.source.Plain) (w : World) (acts : List Act) :
    r.journal w (r.withoutFailed w acts) = (r.journal w acts).filter (!·.failed) := by
  induction acts generalizing w with
  | nil => rfl
  | cons act later ih =>
    cases failed : (r.entry w act).failed with
    | true =>
      obtain ⟨unchanged, -⟩ := entry_of_failed plain failed
      rw [withoutFailed_cons_of_failed later failed, journal,
        List.filter_cons_of_neg (by simp [failed]), unchanged]
      exact ih w
    | false =>
      rw [withoutFailed_cons later failed, journal, journal,
        List.filter_cons_of_pos (by simp [failed]), ih]

theorem live_cons (r : Reconciler) (w : World) (act : Act) (later : List Act) :
    (r.live w (act :: later)).2 = (r.live (r.entry w act).after later).2 := rfl

theorem live_withoutFailed (plain : r.source.Plain) (w : World) (acts : List Act) :
    (r.live w (r.withoutFailed w acts)).2 = (r.live w acts).2 := by
  induction acts generalizing w with
  | nil => rfl
  | cons act later ih =>
    cases failed : (r.entry w act).failed with
    | true =>
      obtain ⟨unchanged, -⟩ := entry_of_failed plain failed
      rw [withoutFailed_cons_of_failed later failed, live_cons, unchanged]
      exact ih w
    | false =>
      rw [withoutFailed_cons later failed, live_cons, live_cons]
      exact ih (r.entry w act).after

/-- A tick that fails has listed and looked up, and has done nothing else. Without all of these ticks
a history comes to the same: every other act meets the same world, comes to the same with the same
steps, and leaves the same world, and so does the whole history. -/
theorem failed_ticks_leave_no_trace (r : Reconciler) (plain : r.source.Plain) (w : World)
    (acts : List Act) :
    (∀ entry ∈ r.journal w acts, entry.failed = true →
      entry.after = entry.before ∧ ∃ outcome, entry.outcome = some outcome ∧
        ∀ step ∈ outcome.steps, r.Lists step.question) ∧
    r.journal w (r.withoutFailed w acts) = (r.journal w acts).filter (!·.failed) ∧
    (r.live w (r.withoutFailed w acts)).2 = (r.live w acts).2 := by
  refine ⟨fun entry member failed => ?_, journal_withoutFailed plain w acts,
    live_withoutFailed plain w acts⟩
  have made := exists_entry_of_mem_journal entry member
  rw [made] at failed ⊢
  exact entry_of_failed plain failed

/-- The secrets cannot be listed for a while. -/
private def outage : List Act :=
  [.change (.faults { list := some "down" }), .tick .epoch, .change (.faults {}), .tick .epoch]

theorem failed_ticks_leave_no_trace_sample :
    (sample.live .sample outage).1.map (·.map (·.value)) =
        [none, some (.error (.secrets (.list sample.source.selector.text (.transport "down")))), none,
          some (.ok { created := 1, updated := 1, deleted := 1, reported := 1 })] ∧
      (∀ entry ∈ sample.journal .sample outage, entry.failed = true → entry.after = entry.before) ∧
      sample.journal .sample
          [.change (.faults { list := some "down" }), .change (.faults {}), .tick .epoch] =
        (sample.journal .sample outage).filter (!·.failed) := by
  obtain ⟨unchanged, same, -⟩ :=
    failed_ticks_leave_no_trace sample Source.plain_declared .sample outage
  exact ⟨rfl, fun entry member failed => (unchanged entry member failed).1, same⟩

end Reconciler

end RoleSecrets
