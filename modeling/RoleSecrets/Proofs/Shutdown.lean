import Mathlib.Algebra.Order.Floor.Div
import RoleSecrets.Proofs.Accounts
import RoleSecrets.Run

/-! # A run ends with shutdown, and not before

A run makes one turn after the other, whatever comes of them. Time passes only while the issuer is
waited for and in between the turns. A turn starts when it is due and the one before has ended, and
none starts once shutdown has come; but a turn that has started is made to its end.
-/

namespace RoleSecrets

namespace World

theorem clock_applyDue (w : World) (schedule : List (Nat × Change)) :
    (w.applyDue schedule).clock = w.clock := by
  refine (applyDue_induction (P := fun _ => True) (I := fun after => after.clock = w.clock) ?_
    (fun _ _ same => same) (fun _ _ => trivial) rfl).1
  intro after change _ same
  cases change <;> exact same

theorem clock_advance (w : World) (time : Nat) : (w.advance time).clock = max w.clock time :=
  clock_applyDue _ _

/-- The clock never goes back. -/
theorem clock_serve (question : Query) (w : World) : w.clock ≤ (serve question w).2.clock := by
  rcases serve_state question w with ⟨_, _, _, same⟩ | ⟨-, _, same⟩ <;> rw [same]
  · change w.clock ≤ w.awaited.clock
    rw [awaited, clock_advance]
    exact Nat.le_max_left ..

/-- Every question of a program is asked between its start and its end. -/
theorem clock_run {α : Type} (p : Controller α) (w : World) :
    w.clock ≤ (w.run p).state.clock ∧ ∀ step ∈ (w.run p).steps,
      w.clock ≤ step.before.clock ∧ step.before.clock ≤ (w.run p).state.clock := by
  induction p generalizing w with
  | done value => exact ⟨Nat.le_refl _, fun _ member => absurd member List.not_mem_nil⟩
  | ask question next ih =>
    obtain ⟨rest, steps⟩ := ih (serve question w).1 (serve question w).2
    have first := clock_serve question w
    refine ⟨first.trans rest, fun step member => ?_⟩
    rcases List.mem_cons.mp member with rfl | later
    · exact ⟨Nat.le_refl _, first.trans rest⟩
    · obtain ⟨before, after⟩ := steps step later
      exact ⟨first.trans before, after⟩

end World

namespace Reconciler

/-- The record at the end of a turn, told by what came of its tick. -/
def turnRecord (r : Reconciler) : Except TickError Summary → LogRecord
  | .ok summary => ⟨.debug, "Reconciled", [("source", r.source.name), ("summary", summary.text)]⟩
  | .error e => ⟨.error, e.message, [("source", r.source.name)]⟩

variable {r : Reconciler}

/-- A turn is a tick and a record of how it went. -/
theorem run_turn (now : Timestamp) (w : World) :
    w.run (r.turn now) = ⟨(), (w.run (r.tick now)).state, (w.run (r.tick now)).steps ++
      [⟨(w.run (r.tick now)).state, .log (r.turnRecord (w.run (r.tick now)).value), ()⟩]⟩ := by
  rw [turn, World.run_bind]
  cases (w.run (r.tick now)).value <;> rfl

/-- A tick that fails logs no error of its own. -/
theorem errors_failed (plain : r.source.Plain) {now : Timestamp} {w : World} {e : TickError}
    (failed : (w.run (r.tick now)).value = .error e) :
    errors (w.run (r.turn now)).steps = 1 := by
  have quiet : errors (w.run (r.tick now)).steps = 0 := by
    rw [errors_eq, List.countP_eq_zero]
    intro step member
    have lists := (run_tick_of_failed plain now w (by rw [failed]; rfl)).2 step member
    rcases lists with listing | lookup
    · rw [listing]
      exact Bool.false_ne_true
    · rw [Query.isAlarm_of_isLookup lookup]
      exact Bool.false_ne_true
  rw [run_turn, errors_append, quiet, failed]
  rfl

end Reconciler

namespace Run

/-- When a turn has asked its last question. -/
def Turn.ended (turn : Turn) : Nat := (turn.steps.getLast?.map (·.before.clock)).getD turn.start

/-- When the last of some turns has ended, or the time before them. -/
def endOf (time : Nat) (turns : List Turn) : Nat := (turns.getLast?.map Turn.ended).getD time

/-- When the turn after some turns is due, if the first of them was due at a time. -/
def dueAfter (interval due : Nat) (turns : List Turn) : Nat :=
  turns.foldl (fun due turn => nextDue interval due turn.start) due

/-- The world after turns that started when some turns did. -/
def worldAfter (r : Reconciler) (now : Nat → Timestamp) (w : World) (turns : List Turn) : World :=
  turns.foldl (fun w turn => ((w.advance turn.start).run (r.turn (now turn.start))).state) w

/-- A turn is due at least an interval after the one before was due. -/
theorem le_nextDue (interval due start : Nat) : due + interval ≤ nextDue interval due start := by
  unfold nextDue
  split <;> omega

theorem nextDue_le {interval due start : Nat} (started : due ≤ start) :
    nextDue interval due start ≤ start + interval := by
  unfold nextDue
  split <;> omega

/-- However late turns start, they do not catch up. -/
theorem le_dueAfter (interval due : Nat) (turns : List Turn) :
    due + interval * turns.length ≤ dueAfter interval due turns := by
  induction turns generalizing due with
  | nil => exact Nat.le_refl _
  | cons turn later ih =>
    calc due + interval * (later.length + 1)
        = due + interval + interval * later.length := by ring
      _ ≤ nextDue interval due turn.start + interval * later.length :=
          Nat.add_le_add_right (le_nextDue interval due turn.start) _
      _ ≤ dueAfter interval due (turn :: later) := ih _

theorem clock_worldAfter (r : Reconciler) (now : Nat → Timestamp) (w : World) (turns : List Turn) :
    w.clock ≤ (worldAfter r now w turns).clock := by
  induction turns generalizing w with
  | nil => exact Nat.le_refl _
  | cons turn later ih =>
    calc w.clock ≤ (w.advance turn.start).clock := by
          rw [World.clock_advance]
          exact Nat.le_max_left ..
      _ ≤ ((w.advance turn.start).run (r.turn (now turn.start))).state.clock :=
          (World.clock_run _ _).1
      _ ≤ (worldAfter r now w (turn :: later)).clock := ih _

theorem worldAfter_append (r : Reconciler) (now : Nat → Timestamp) (w : World)
    (earlier later : List Turn) :
    worldAfter r now w (earlier ++ later) = worldAfter r now (worldAfter r now w earlier) later :=
  List.foldl_append

/-- The last thing a turn does is to leave its record. -/
theorem Turn.ended_eq {r : Reconciler} {now : Timestamp} {w : World} {turn : Turn}
    (steps : turn.steps = (w.run (r.turn now)).steps) :
    turn.ended = (w.run (r.turn now)).state.clock := by
  rw [ended, steps, Reconciler.run_turn, List.getLast?_concat]
  rfl

section Turns

variable {r : Reconciler} {now : Nat → Timestamp} {interval : { n : Nat // 0 < n }}
  {shutdown due : Nat} {w : World}

theorem turnsFrom_of_le (late : shutdown ≤ max due w.clock) :
    turnsFrom r now interval shutdown due w = ([], w) := by
  rw [turnsFrom]
  exact if_pos late

theorem turnsFrom_of_lt (early : max due w.clock < shutdown) :
    turnsFrom r now interval shutdown due w =
      let start := max due w.clock
      let outcome := (w.advance start).run (r.turn (now start))
      let rest := turnsFrom r now interval shutdown (nextDue interval due start) outcome.state
      (⟨start, outcome.steps⟩ :: rest.1, rest.2) := by
  rw [turnsFrom]
  exact if_neg (Nat.not_le.mpr early)

/-- After any number of its turns, a run goes on as one that starts there. -/
theorem turnsFrom_after {earlier later : List Turn}
    (turns : (turnsFrom r now interval shutdown due w).1 = earlier ++ later) :
    turnsFrom r now interval shutdown (dueAfter interval due earlier)
        (worldAfter r now w earlier) =
      (later, (turnsFrom r now interval shutdown due w).2) := by
  induction earlier generalizing due w with
  | nil => exact Prod.ext turns rfl
  | cons turn earlier ih =>
    rcases Nat.lt_or_ge (max due w.clock) shutdown with early | late
    · rw [turnsFrom_of_lt early] at turns ⊢
      obtain ⟨rfl, rest⟩ := List.cons.inj turns
      exact ih rest
    · rw [turnsFrom_of_le late] at turns
      cases turns

/-- A turn starts as soon as it is due and the one before has ended, if that is before shutdown, and
is made to its end. -/
theorem turn_after {earlier later : List Turn} {turn : Turn}
    (turns : (turnsFrom r now interval shutdown due w).1 = earlier ++ turn :: later) :
    let before := worldAfter r now w earlier
    turn.start = max (dueAfter interval due earlier) before.clock ∧
      turn.start < shutdown ∧
      turn.steps = ((before.advance turn.start).run (r.turn (now turn.start))).steps := by
  have rest := turnsFrom_after turns
  rcases Nat.lt_or_ge (max (dueAfter interval due earlier)
    (worldAfter r now w earlier).clock) shutdown with early | late
  · rw [turnsFrom_of_lt early] at rest
    obtain ⟨rfl, -⟩ := List.cons.inj (congrArg Prod.fst rest)
    exact ⟨rfl, early, rfl⟩
  · rw [turnsFrom_of_le late] at rest
    cases congrArg Prod.fst rest

/-- The last of some turns has ended with the time of the world after them. -/
theorem endOf_eq {earlier later : List Turn}
    (turns : (turnsFrom r now interval shutdown due w).1 = earlier ++ later) :
    endOf w.clock earlier = (worldAfter r now w earlier).clock := by
  rcases List.eq_nil_or_concat' earlier with rfl | ⟨before, turn, rfl⟩
  · rfl
  · rw [List.append_assoc] at turns
    obtain ⟨-, -, steps⟩ := turn_after turns
    rw [endOf, List.getLast?_concat, worldAfter_append]
    exact Turn.ended_eq steps

/-- The turns are over when shutdown comes before the next would start. -/
theorem turnsFrom_over {turns : List Turn}
    (all : (turnsFrom r now interval shutdown due w).1 = turns) :
    (turnsFrom r now interval shutdown due w).2 = worldAfter r now w turns ∧
      endOf w.clock turns = (turnsFrom r now interval shutdown due w).2.clock ∧
      shutdown ≤ max (dueAfter interval due turns) (endOf w.clock turns) := by
  rw [← List.append_nil turns] at all
  have rest := turnsFrom_after all
  have ends := endOf_eq all
  rcases Nat.lt_or_ge (max (dueAfter interval due turns) (worldAfter r now w turns).clock)
    shutdown with early | late
  · rw [turnsFrom_of_lt early] at rest
    cases congrArg Prod.fst rest
  · rw [turnsFrom_of_le late] at rest
    have last := congrArg Prod.snd rest
    exact ⟨last.symm, ends.trans (congrArg World.clock last), ends ▸ late⟩

/-- A turn asks its questions before the next can start. -/
theorem asked_of_mem {earlier later : List Turn}
    (turns : (turnsFrom r now interval shutdown due w).1 = earlier ++ later) :
    ∀ turn ∈ earlier, ∀ step ∈ turn.steps,
      step.before.clock ≤ (worldAfter r now w earlier).clock := by
  intro turn member step asked
  obtain ⟨first, rest, rfl⟩ := List.append_of_mem member
  rw [List.append_assoc] at turns
  obtain ⟨-, -, steps⟩ := turn_after turns
  rw [steps] at asked
  refine ((World.clock_run _ _).2 step asked).2.trans ?_
  rw [worldAfter_append]
  exact clock_worldAfter r now _ rest

end Turns

/-- How a turn is made between those before it and those after it. -/
structure Made (r : Reconciler) (now : Nat → Timestamp) (interval shutdown : Nat) (w : World)
    (earlier : List Turn) (turn : Turn) (later : List Turn) : Prop where
  early : turn.start < shutdown
  /-- It starts as soon as it is due and the one before has ended. -/
  start : turn.start = max (dueAfter interval 0 earlier) (endOf w.clock earlier)
  spaced : interval * earlier.length ≤ turn.start
  after : ∀ other ∈ earlier, ∀ step ∈ other.steps, step.before.clock ≤ turn.start
  /-- It is made to its end, whatever the time is by then. -/
  whole : let before := (worldAfter r now w earlier).advance turn.start
    turn.steps = (before.run (r.tick (now turn.start))).steps ++
      [⟨(before.run (r.tick (now turn.start))).state,
        .log (r.turnRecord (before.run (r.tick (now turn.start))).value), ()⟩]
  asked : ∀ step ∈ turn.steps, turn.start ≤ step.before.clock ∧ step.before.clock ≤ turn.ended
  /-- Its record is the only error in the log if the tick fails. -/
  failed : ∀ e, (((worldAfter r now w earlier).advance turn.start).run
    (r.tick (now turn.start))).value = .error e → errors turn.steps = 1
  /-- Whether or not the tick fails, the next turn follows when there is time for it. -/
  next : max (turn.start + interval) turn.ended < shutdown → ∃ following rest,
    later = following :: rest ∧ following.start ≤ max (turn.start + interval) turn.ended

/-- What a run does until shutdown. -/
structure UntilShutdown (r : Reconciler) (now : Nat → Timestamp) (interval shutdown : Nat)
    (w : World) (run : Run) : Prop where
  made : ∀ earlier turn later, run.turns = earlier ++ turn :: later →
    Made r now interval shutdown w earlier turn later
  few : run.turns.length ≤ shutdown ⌈/⌉ interval
  /-- Shutdown has come before one more turn would start. -/
  late : shutdown ≤ max (dueAfter interval 0 run.turns) (endOf w.clock run.turns)
  world : run.world = worldAfter r now w run.turns
  returned : run.returned = max shutdown (endOf w.clock run.turns)

section Turns

variable {r : Reconciler} {now : Nat → Timestamp} {interval : { n : Nat // 0 < n }}
  {shutdown : Nat} {w : World}

theorem made_turnsFrom (plain : r.source.Plain) {earlier later : List Turn} {turn : Turn}
    (turns : (turnsFrom r now interval shutdown 0 w).1 = earlier ++ turn :: later) :
    Made r now interval shutdown w earlier turn later := by
  obtain ⟨start, early, steps⟩ := turn_after turns
  have ends := endOf_eq turns
  have onwards : (turnsFrom r now interval shutdown 0 w).1 = (earlier ++ [turn]) ++ later := by
    rw [turns, List.append_assoc, List.singleton_append]
  have last : endOf w.clock (earlier ++ [turn]) = turn.ended := by
    rw [endOf, List.getLast?_concat]
    rfl
  have ended := last.symm.trans (endOf_eq onwards)
  have within : ∀ step ∈ turn.steps,
      turn.start ≤ step.before.clock ∧ step.before.clock ≤ turn.ended := by
    intro step asked
    refine ⟨?_, ended ▸ asked_of_mem onwards turn (List.mem_append_right _ (.head _)) step asked⟩
    rw [steps] at asked
    refine Nat.le_trans ?_ ((World.clock_run _ _).2 step asked).1
    rw [World.clock_advance]
    exact Nat.le_max_right ..
  refine {
    early
    start := by rw [ends, start]
    spaced := ?_
    after := fun other member step asked => ?_
    whole := by rw [steps, Reconciler.run_turn]
    asked := within
    failed := fun e failed => by rw [steps]; exact Reconciler.errors_failed plain failed
    next := fun time => ?_ }
  · rw [start]
    refine Nat.le_trans ?_ (Nat.le_max_left ..)
    simpa only [Nat.zero_add] using le_dueAfter interval 0 earlier
  · rw [start]
    exact (asked_of_mem turns other member step asked).trans (Nat.le_max_right ..)
  · -- the turn after this one is due an interval after the start at the latest
    have due : dueAfter interval 0 (earlier ++ [turn]) ≤ turn.start + interval := by
      rw [dueAfter, List.foldl_append]
      exact nextDue_le (start ▸ Nat.le_max_left ..)
    cases later with
    | nil =>
      rw [List.append_nil] at onwards
      obtain ⟨-, -, late⟩ := turnsFrom_over onwards
      rw [last] at late
      omega
    | cons following rest =>
      refine ⟨following, rest, rfl, ?_⟩
      rw [(turn_after onwards).1]
      omega

theorem length_turnsFrom :
    (turnsFrom r now interval shutdown 0 w).1.length ≤ shutdown ⌈/⌉ interval.1 := by
  rcases List.eq_nil_or_concat' (turnsFrom r now interval shutdown 0 w).1 with
    none | ⟨before, turn, turns⟩
  · rw [none]
    exact Nat.zero_le _
  · -- the last turn starts before shutdown, and not before those ahead of it have had their time
    obtain ⟨start, early, -⟩ := turn_after turns
    have due := le_dueAfter interval 0 before
    have last : interval.1 * before.length < shutdown := by omega
    rw [turns, List.length_append, List.length_singleton]
    by_contra more
    have fits := (ceilDiv_le_iff_le_mul interval.2).mp (Nat.le_of_lt_succ (Nat.not_le.mp more))
    omega

end Turns

end Run

/-- Every run ends with shutdown, or with the turn that is at work by then. However long turns take,
whatever fails in them and whatever is changed meanwhile, no turn starts from then on, none starts
before the one ahead of it has ended, and none is left off. -/
theorem Reconciler.runs_until_shutdown (r : Reconciler) (plain : r.source.Plain)
    (now : Nat → Timestamp) (interval : Span) (positive : 0 < interval.millis) (shutdown : Nat)
    (w : World) : ∃ run, r.run? now interval shutdown w = some run ∧
      Run.UntilShutdown r now interval.millis shutdown w run := by
  obtain ⟨last, ends, late⟩ := Run.turnsFrom_over
    (rfl : (Run.turnsFrom r now ⟨interval.millis, positive⟩ shutdown 0 w).1 = _)
  refine ⟨_, dif_pos positive, ?_⟩
  exact {
    made := fun earlier turn later turns => Run.made_turnsFrom plain turns
    few := Run.length_turnsFrom
    late
    world := last
    returned := by rw [ends] }

section Sample

/-- A cluster in which the first request to the issuer takes longer than an interval, while secrets
can no longer be listed. -/
private def disturbed : World :=
  { World.sample with
    delays := [12000]
    schedule := [(11000, .faults { list := some "down" })] }

/-- A turn that lasts too long puts the next ones off. These fail, and go on to shutdown. -/
theorem Reconciler.runs_until_shutdown_sample :
    0 < (Span.mk 10000).millis ∧
      (∃ run, sample.run? (fun _ => .epoch) ⟨10000⟩ 25000 disturbed = some run ∧
        Run.UntilShutdown sample (fun _ => .epoch) 10000 25000 disturbed run) ∧
      (sample.run? (fun _ => .epoch) ⟨10000⟩ 25000 disturbed).map
        (fun run => (run.turns.map fun turn => (turn.start, errors turn.steps), run.returned)) =
          some ([(0, 0), (12000, 1), (22000, 1)], 25000) := by
  refine ⟨by decide, runs_until_shutdown sample Source.plain_declared (fun _ => .epoch) ⟨10000⟩
    (by decide) 25000 disturbed, ?_⟩
  rw [run?, dif_pos (by decide), Run.turnsFrom_of_lt (by decide)]
  dsimp only
  rw [Run.turnsFrom_of_lt (by decide +kernel)]
  dsimp only
  rw [Run.turnsFrom_of_lt (by decide +kernel)]
  dsimp only
  rw [Run.turnsFrom_of_le (by decide +kernel)]
  decide +kernel

end Sample

end RoleSecrets
