import RoleSecrets.Proofs.FaultyIssuer
import RoleSecrets.Proofs.Quiescence

/-! # Failures stay with their items

A tick comes to the same plan whatever its writes, reports and requests for credentials come to, and
carries it out in one turn for each item. What fails in the turn of one item changes nothing in those
of the others.
-/

namespace RoleSecrets

open Tick

namespace World

/-- A world in which some writes and reports fail. -/
def failing (w : World) (create update delete report : Fields String) : World :=
  { w with faults := { w.faults with create, update, delete, report } }

/-- A world in which some roles are refused credentials. -/
def refusing (w : World) (issue : Fields String) : World :=
  { w with faults := { w.faults with issue } }

/-- Looking leaves a world as it is, and comes to the same with other faults on what is done. -/
theorem serve_look {question : Query} (looks : question.isAction = false) (w : World)
    {faults : Faults} (list : w.faults.list = faults.list)
    (declarations : w.faults.declarations = faults.declarations) :
    (serve question w).2 = w ∧ serve question { w with faults } =
      ((serve question w).1, { w with faults }) := by
  cases question with
  | listSecrets selector =>
    simp only [serve, ← list]
    split <;> exact ⟨rfl, rfl⟩
  | listDeclared =>
    simp only [serve, ← declarations]
    split <;> exact ⟨rfl, rfl⟩
  | api request =>
    have get : request.method = .get := by simpa [Query.isAction] using looks
    simp only [serve, serveApi, get]
    cases request.path.name with
    | some name => exact ⟨rfl, rfl⟩
    | none =>
      simp only [← declarations]
      split <;> exact ⟨rfl, rfl⟩
  | _ => first | exact ⟨rfl, rfl⟩ | cases looks

end World

namespace Drift

/-- No two items of a plan are about declarations with one key. -/
theorem nodup_declaredBy (declarations : List Declaration) (secrets : List Secret)
    (refreshLimit : Nat) (now : Timestamp) :
    (declaredBy (items (detect declarations secrets refreshLimit now))).Nodup := by
  have splits := splits_plan (now.add? refreshLimit) secrets (nodup_keys_counting declarations)
  have declared : ∀ plan : Plan, (items plan).filterMap Item.declaration? =
      plan.managed.map Managed.declaration ++ plan.missing := by
    intro plan
    simp [items, List.filterMap_append, List.filterMap_map, Function.comp_def, Item.declaration?]
  rw [declaredBy, declared]
  exact (splits.declarations_perm.map _).nodup_iff.mpr (nodup_keys_counting declarations)

end Drift

namespace Reconciler

variable {r : Reconciler}

/-- Whether ticks find out the same in two worlds, asking the same questions. -/
structure SameOpening (r : Reconciler) (w w' : World) : Prop where
  value : (w.run r.opening).value = (w'.run r.opening).value
  questions : (w.run r.opening).steps.map (·.question) = (w'.run r.opening).steps.map (·.question)

theorem asks_opening (plain : r.source.Plain) : r.opening.Asks (Query.isAction · = false) := by
  refine Program.Asks.bind (.request rfl) fun listing => ?_
  cases listing with
  | error e => exact .pure _
  | ok listed =>
    refine (plain.declarations.mono fun _ => Query.isAction_of_isLookup).bind fun answer => ?_
    cases answer <;> exact .pure _

/-- Faults on what is done are not found out by looking. -/
theorem sameOpening (plain : r.source.Plain) (w : World) (faults : Faults)
    (list : w.faults.list = faults.list) (declarations : w.faults.declarations = faults.declarations) :
    r.SameOpening w { w with faults } ∧ (w.run r.opening).state = w ∧
      (World.run { w with faults } r.opening).state = { w with faults } := by
  have agree : ∀ q before before', q.isAction = false → before = w ∧ before' = { w with faults } →
      False ∨ False ∨ (World.serve q before).1 = (World.serve q before').1 ∧
        (World.serve q before).2 = w ∧ (World.serve q before').2 = { w with faults } := by
    rintro q before before' looks ⟨rfl, rfl⟩
    obtain ⟨same, other⟩ := World.serve_look looks before list declarations
    exact .inr (.inr ⟨by rw [other], same, by rw [other]⟩)
  rcases Program.run_same_or agree (asks_opening plain) ⟨rfl, rfl⟩ with
    ⟨_, _, none⟩ | ⟨_, _, none⟩ | ⟨value, ⟨state, state'⟩, questions⟩
  · cases none
  · cases none
  · exact ⟨⟨value, questions⟩, state, state'⟩

/-- What holds of the turns of any plan with distinct declarations holds of those of a tick. -/
theorem forall₂_turns {R : Turn → Turn → Prop} {w w' after after' : World} (now : Timestamp)
    (opening : r.SameOpening w w') (state : (w.run r.opening).state = after)
    (state' : (w'.run r.opening).state = after') (each : ∀ items, (declaredBy items).Nodup →
      List.Forall₂ R (Tick.turns r [] after items) (Tick.turns r [] after' items)) :
    List.Forall₂ R (r.turns now w) (r.turns now w') := by
  subst state state'
  unfold turns
  rw [← opening.value]
  rcases (w.run r.opening).value with e | ⟨declarations, secrets⟩
  · exact .nil
  · exact each _ (Drift.nodup_declaredBy ..)

/-- Ticks with the same openings make the same calls if their turns do. -/
theorem callsOf_tick (plain : r.source.Plain) {w w' : World} (now : Timestamp)
    (opening : r.SameOpening w w')
    (turns : List.Forall₂ Turn.SameCalls (r.turns now w) (r.turns now w')) :
    callsOf (w.run (r.tick now)).steps = callsOf (w'.run (r.tick now)).steps := by
  rw [(divided plain now w).steps, (divided plain now w').steps, callsOf_append, callsOf_append,
    callsOf_turns turns, callsOf, opening.questions]
  rfl

/-- Whatever writes and reports fail, the turns of a tick make the same calls. -/
theorem sameCalls_failing (plain : r.source.Plain) (now : Timestamp) (w : World)
    (create update delete report : Fields String) :
    r.SameOpening w (w.failing create update delete report) ∧
      List.Forall₂ Turn.SameCalls (r.turns now w)
        (r.turns now (w.failing create update delete report)) := by
  obtain ⟨opening, state, state'⟩ :=
    sameOpening plain w { w.faults with create, update, delete, report } rfl rfl
  refine ⟨opening, forall₂_turns now opening state state' fun items distinct => ?_⟩
  have abreast : w.Abreast (fun _ => False) (w.failing create update delete report) :=
    ⟨rfl, .refl _ _, rfl⟩
  exact sameCalls_turns plain abreast [] distinct fun _ _ => id

/-- Whomever a steady issuer refuses credentials for one role, the others make the same calls. -/
theorem sameApart_refusing (plain : r.source.Plain) (now : Timestamp) {w : World} {arn : String}
    (steady : w.SteadyBut arn w.faults.issue.get?) {issue : Fields String}
    (others : ∀ roleArn, roleArn ≠ arn → issue.get? roleArn = w.faults.issue.get? roleArn) :
    List.Forall₂ (Turn.SameApart r.naming arn) (r.turns now w) (r.turns now (w.refusing issue)) := by
  obtain ⟨opening, state, state'⟩ := sameOpening plain w { w.faults with issue } rfl rfl
  refine forall₂_turns now opening state state' fun items _ => ?_
  have steady' : (w.refusing issue).SteadyBut arn w.faults.issue.get? := ⟨others, steady.later⟩
  have empty : ForRoles r.naming [] := fun _ _ issued => absurd issued (Option.not_mem_none _)
  exact sameApart_turns plain steady steady' ⟨empty, empty, fun _ _ => rfl⟩ items

/-- If nothing else changes meanwhile, all turns without the role are alike. -/
theorem alikeApart_refusing (plain : r.source.Plain) (now : Timestamp) {w : World} {arn : String}
    (spared : w.Spared) {issue : Fields String}
    (others : ∀ roleArn, roleArn ≠ arn → issue.get? roleArn = w.faults.issue.get? roleArn) :
    List.Forall₂ (Turn.AlikeApart r.naming arn) (r.turns now w) (r.turns now (w.refusing issue)) := by
  obtain ⟨opening, state, state'⟩ := sameOpening plain w { w.faults with issue } rfl rfl
  refine forall₂_turns now opening state state' fun items distinct => ?_
  let touched : ObjectKey → Prop := fun key =>
    ∃ d ∈ items.filterMap Item.declaration?, d.key = key ∧ r.naming.resolve d.role = arn
  have parted : w.Parted arn touched (w.refusing issue) := by
    refine ⟨fun question => ?_, fun roleArn other => (others roleArn other).symm, rfl,
      .refl _ _, spared, spared⟩
    cases question <;> rfl
  refine alikeApart_turns plain parted (fun _ _ => .none) fun item member d of => ?_
  have declared : d ∈ items.filterMap Item.declaration? :=
    List.mem_filterMap.mpr ⟨item, member, of⟩
  refine ⟨?_, fun role => ⟨d, declared, rfl, role⟩⟩
  rintro ⟨d', declared', key, role⟩
  obtain rfl := List.inj_on_of_nodup_map distinct declared' declared key
  exact role

/-- A tick consists of an opening and of one turn for each item of its plan. Whatever writes and
reports fail, the opening and the calls are the same, and so is all of a turn in which nothing is
faulted. Whatever the issuer does for one role, the turns of items that do not need it make the same
calls but for what was issued, as long as it treats the other roles the same; and they are alike in
events, reports and records too, if nothing changes meanwhile that these depend on. -/
theorem isolates_failures (r : Reconciler) (plain : r.source.Plain) (now : Timestamp) (w : World) :
    (∀ world, r.Divided now world) ∧
    (∀ create update delete report,
      r.SameOpening w (w.failing create update delete report) ∧
      callsOf (w.run (r.tick now)).steps =
        callsOf ((w.failing create update delete report).run (r.tick now)).steps ∧
      List.Forall₂ Turn.SameCalls (r.turns now w)
        (r.turns now (w.failing create update delete report))) ∧
    (∀ arn issue, (∀ roleArn, roleArn ≠ arn → issue.get? roleArn = w.faults.issue.get? roleArn) →
      r.SameOpening w (w.refusing issue) ∧
      (w.SteadyBut arn w.faults.issue.get? → List.Forall₂ (Turn.SameApart r.naming arn)
        (r.turns now w) (r.turns now (w.refusing issue))) ∧
      (w.Spared → List.Forall₂ (Turn.AlikeApart r.naming arn)
        (r.turns now w) (r.turns now (w.refusing issue)))) := by
  refine ⟨divided plain now, fun create update delete report => ?_, fun arn issue others => ?_⟩
  · obtain ⟨opening, turns⟩ := sameCalls_failing plain now w create update delete report
    exact ⟨opening, callsOf_tick plain now opening turns, turns⟩
  · exact ⟨(sameOpening plain w { w.faults with issue } rfl rfl).1,
      fun steady => sameApart_refusing plain now steady others,
      fun spared => alikeApart_refusing plain now spared others⟩

/-- A create that fails leaves the other calls as they are, and a role that gets no credentials
leaves the other items as they are. -/
theorem isolates_failures_sample :
    (World.sample.run (sample.tick .epoch)).value =
      .ok { created := 1, updated := 1, deleted := 1, reported := 1 } ∧
    ((World.sample.failing [("apps/missing", "denied")] [] [] []).run (sample.tick .epoch)).value =
      .ok { updated := 1, deleted := 1, failed := 1 } ∧
    callsOf (World.sample.run (sample.tick .epoch)).steps =
      callsOf ((World.sample.failing [("apps/missing", "denied")] [] [] []).run
        (sample.tick .epoch)).steps ∧
    ((World.sample.refusing [("arn:aws:iam::1:role/reader", "denied")]).run
      (sample.tick .epoch)).value = .ok { created := 1, deleted := 1, reported := 1, failed := 1 } ∧
    List.Forall₂ (Turn.SameApart sample.naming "arn:aws:iam::1:role/reader")
      (sample.turns .epoch World.sample)
      (sample.turns .epoch (World.sample.refusing [("arn:aws:iam::1:role/reader", "denied")])) ∧
    List.Forall₂ (Turn.AlikeApart sample.naming "arn:aws:iam::1:role/reader")
      (sample.turns .epoch World.sample)
      (sample.turns .epoch (World.sample.refusing [("arn:aws:iam::1:role/reader", "denied")])) := by
  obtain ⟨-, failing, refusing⟩ :=
    isolates_failures sample Source.plain_declared .epoch World.sample
  obtain ⟨-, calls, alike⟩ := refusing "arn:aws:iam::1:role/reader"
    [("arn:aws:iam::1:role/reader", "denied")] fun roleArn other => if_neg other.symm
  refine ⟨rfl, rfl, (failing _ [] [] []).2.1, rfl, calls ⟨fun _ _ => rfl, ?_⟩, alike ?_⟩
  · exact fun _ member => absurd member List.not_mem_nil
  · exact fun _ member => absurd member List.not_mem_nil

end Reconciler

end RoleSecrets
