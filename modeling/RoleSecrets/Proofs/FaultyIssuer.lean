import RoleSecrets.Proofs.Refusals

/-! # Turns where a role gets no credentials

Two worlds are parted by a role when they issue alike for all others, and have the same resources but
for those that were touched on its behalf. The turns of items with other roles are alike in both: that
of an item with this role changes nothing that they depend on.
-/

namespace RoleSecrets

open Tick

/-- Whether it does not matter to turns when a change from outside is made. -/
def Change.sparesTurns : Change → Bool
  | .faults _ | .expiration _ | .resources _ => false
  | _ => true

theorem Query.SameBut.isLocal {keys : List String} {q q' : Query} (alike : q.SameBut keys q')
    (isLocal : q.IsLocal) : q'.IsLocal := by
  cases alike with
  | same => exact isLocal
  | create written => trivial
  | update written => trivial

namespace World

/-- Whether no change to come matters to turns. -/
def Spared (w : World) : Prop := ∀ entry ∈ w.schedule, entry.2.sparesTurns = true

theorem faultOn_of_alike (w : World) {q q' : Query} (alike : q.SameBut Secret.sealedKeys q') :
    w.faultOn q = w.faultOn q' := by
  cases alike with
  | same => rfl
  | create written => simp only [faultOn, written.alike.key]
  | update written => simp only [faultOn, written.alike.key]

theorem faultOn_congr {w w' : World} (faults : w.faults = w'.faults) (question : Query) :
    w.faultOn question = w'.faultOn question := by
  unfold faultOn
  rw [faults]

/-- Whether a world has become another one in no way that matters to turns. -/
structure Drifts (w after : World) : Prop where
  faults : after.faults = w.faults
  expiration : after.expiration = w.expiration
  resources : after.resources = w.resources
  spared : after.Spared

theorem apply_of_sparesTurns {change : Change} (spares : change.sparesTurns = true) (w : World) :
    (w.apply change).faults = w.faults ∧ (w.apply change).expiration = w.expiration ∧
      (w.apply change).resources = w.resources := by
  cases change <;> first | exact ⟨rfl, rfl, rfl⟩ | cases spares

theorem drifts_applyDue {schedule : List (Nat × Change)} (w : World)
    (spare : ∀ entry ∈ schedule, entry.2.sparesTurns = true) : w.Drifts (w.applyDue schedule) := by
  obtain ⟨⟨faults, expiration, resources⟩, left⟩ := applyDue_induction
    (P := fun change => change.sparesTurns = true)
    (I := fun after => after.faults = w.faults ∧ after.expiration = w.expiration ∧
      after.resources = w.resources)
    (fun after change spares same => by
      obtain ⟨faults, expiration, resources⟩ := apply_of_sparesTurns spares after
      rwa [faults, expiration, resources])
    (fun _ _ same => same) spare ⟨rfl, rfl, rfl⟩
  exact ⟨faults, expiration, resources, left⟩

/-- What an issuer answers while nothing changes that matters to turns. -/
theorem serveIssuer_of_spared {w : World} (spared : w.Spared) (roleArn session : String) :
    w.Drifts (w.serveIssuer roleArn session).2 ∧
      match w.faults.issue.get? roleArn with
      | some text => (w.serveIssuer roleArn session).1 =
          .error (if text = "InvalidExpiration" then .badExpiration roleArn else .missing roleArn)
      | none => ∃ keys, (w.serveIssuer roleArn session).1 = .ok keys ∧
          keys.expiration = w.expiration := by
  have awaited : w.Drifts w.awaited := by
    obtain ⟨faults, expiration, resources, spared⟩ := drifts_applyDue { w with
      delays := w.delays.tail, clock := max w.clock (w.clock + w.delays.headD 0) } spared
    exact ⟨faults, expiration, resources, spared⟩
  obtain ⟨faults, expiration, resources, spared⟩ := awaited
  rw [serveIssuer_eq, show w.awaited.faults.issue.get? roleArn = w.faults.issue.get? roleArn by
    rw [faults]]
  cases w.faults.issue.get? roleArn with
  | some text => exact ⟨⟨faults, expiration, resources, spared⟩, rfl⟩
  | none => exact ⟨⟨faults, expiration, resources, spared⟩, _, rfl, expiration⟩

/-- Whether two worlds are the same to all items but those of a role, and have the same resources
but for those that were touched. -/
structure Parted (arn : String) (touched : ObjectKey → Prop) (w w' : World) : Prop where
  fails : ∀ question, w.faultOn question = w'.faultOn question
  issue : ∀ other, other ≠ arn → w.faults.issue.get? other = w'.faults.issue.get? other
  expiration : w.expiration = w'.expiration
  resources : SameResources touched w.resources w'.resources
  spared : w.Spared
  spared' : w'.Spared

namespace Parted

variable {arn : String} {touched : ObjectKey → Prop} {w w' : World}

theorem symm (parted : w.Parted arn touched w') : w'.Parted arn touched w where
  fails question := (parted.fails question).symm
  issue other differs := (parted.issue other differs).symm
  expiration := parted.expiration.symm
  resources := parted.resources.symm
  spared := parted.spared'
  spared' := parted.spared

theorem drift (parted : w.Parted arn touched w') {after : World} (drifts : w.Drifts after) :
    after.Parted arn touched w' where
  fails question := (faultOn_congr drifts.faults question).trans (parted.fails question)
  issue other differs := by rw [drifts.faults, parted.issue other differs]
  expiration := drifts.expiration.trans parted.expiration
  resources := drifts.resources ▸ parted.resources
  spared := drifts.spared
  spared' := parted.spared'

/-- For another role credentials are issued alike. -/
theorem serveIssuer (parted : w.Parted arn touched w') {roleArn : String} (differs : roleArn ≠ arn)
    (session : String) :
    ExceptAlike (fun keys keys' => keys.expiration = keys'.expiration)
        (w.serveIssuer roleArn session).1 (w'.serveIssuer roleArn session).1 ∧
      (w.serveIssuer roleArn session).2.Parted arn touched (w'.serveIssuer roleArn session).2 := by
  obtain ⟨drifts, answer⟩ := serveIssuer_of_spared parted.spared roleArn session
  obtain ⟨drifts', answer'⟩ := serveIssuer_of_spared parted.spared' roleArn session
  refine ⟨?_, ((parted.drift drifts).symm.drift drifts').symm⟩
  rw [← parted.issue roleArn differs] at answer'
  cases fault : w.faults.issue.get? roleArn with
  | some text =>
    rw [fault] at answer answer'
    rw [answer, answer']
    exact .error _
  | none =>
    rw [fault] at answer answer'
    obtain ⟨keys, answer, expiration⟩ := answer
    obtain ⟨keys', answer', expiration'⟩ := answer'
    rw [answer, answer']
    exact .ok (expiration.trans (parted.expiration.trans expiration'.symm))

/-- A local question in one of the worlds makes a difference only where it reports. -/
theorem left (parted : w.Parted arn touched w') {q : Query} (isLocal : q.IsLocal)
    (within : q.ReportsWithin touched) : (serve q w).2.Parted arn touched w' := by
  have resources := sameResources_left isLocal within parted.resources
  obtain ⟨_, _, _, same⟩ := state_of_isLocal isLocal w
  rw [same] at resources ⊢
  exact { parted with fails := parted.fails, resources }

/-- Alike local questions are answered the same, but for reports on what was touched. -/
theorem answers (parted : w.Parted arn touched w') {q q' : Query}
    (alike : q.SameBut Secret.sealedKeys q') (isLocal : q.IsLocal) (untouched : q.ReportsWithin (¬ touched ·)) :
    Reply.Alike q q' (serve q w).1 (serve q' w').1 ∧
      (serve q w).2.Parted arn touched (serve q' w').2 := by
  have fails := (faultOn_of_alike w alike).trans (parted.fails q')
  obtain ⟨answers, resources⟩ := answer_of_isLocal alike isLocal fails untouched parted.resources
  obtain ⟨_, _, _, same⟩ := state_of_isLocal isLocal w
  obtain ⟨_, _, _, same'⟩ := state_of_isLocal (alike.isLocal isLocal) w'
  rw [same, same'] at resources ⊢
  exact ⟨answers, { parted with fails := parted.fails, resources }⟩

end Parted

end World

namespace Tick

section Turns

variable {r : Reconciler} (plain : r.source.Plain) {arn : String} {touched : ObjectKey → Prop}
  {w w' : World} (parted : w.Parted arn touched w')

include plain parted

/-- The turn of an item of the role makes a difference to nothing but what is touched. -/
theorem parted_left (p : Progress) {item : Item}
    (isTouched : ∀ d, item.declaration? = some d → touched d.key) :
    (w.run (item.handle r p)).state.Parted arn touched w' := by
  refine ((item.asks_handle plain p).run World.serve (·.Parted arn touched w') ?_ parted).1
  intro question before may parted
  rcases may.cases with ⟨d, session, -, rfl⟩ | ⟨isLocal, within⟩
  · exact parted.drift (World.serveIssuer_of_spared parted.spared _ session).1
  · refine parted.left isLocal fun d status reports => ?_
    obtain ⟨d', of, key⟩ := within d status reports
    exact key ▸ isTouched d' of

/-- The turns of an item with another role are alike. -/
theorem parted_handle {p p' : Progress}
    (alike : p.Alike (fun asked => r.naming.resolve asked.1 ≠ arn) p') {item : Item}
    (apart : item.Apart r.naming arn)
    (untouched : ∀ d, item.declaration? = some d → ¬ touched d.key) :
    Progress.Alike (fun asked => r.naming.resolve asked.1 ≠ arn)
        (w.run (item.handle r p)).value (w'.run (item.handle r p')).value ∧
      (w.run (item.handle r p)).state.Parted arn touched (w'.run (item.handle r p')).state ∧
      List.Forall₂ (fun step step' => step.question.SameBut Secret.sealedKeys step'.question)
        (w.run (item.handle r p)).steps (w'.run (item.handle r p')).steps := by
  have lockstep : Program.Lockstep alikeness
      (Progress.Alike fun asked => r.naming.resolve asked.1 ≠ arn) (item.handle r p)
      (item.handle r p') := alike_handle plain (.refl item) apart alike
  have agree : Program.Lockstep.Agree (alikeness.among (item.May r) (item.May r))
      (World.Parted arn touched) World.serve World.serve := by
    rintro q q' before before' ⟨may, may', same⟩ parted
    rcases may.cases with ⟨d, session, of, rfl⟩ | ⟨isLocal, within⟩
    · cases same
      exact parted.serveIssuer (apart d of) session
    · refine parted.answers same isLocal fun d status reports => ?_
      obtain ⟨d', of, key⟩ := within d status reports
      exact key ▸ untouched d' of
  obtain ⟨values, states, steps⟩ := Program.Lockstep.run agree
    (lockstep.among (item.asks_handle plain p) (item.asks_handle plain p')) parted
  exact ⟨values, states, steps.imp fun _ _ related => related.2.2⟩

end Turns

/-- Whether turns are of one item, and are alike if it needs no credentials for a role. -/
structure Turn.AlikeApart (naming : RoleNaming) (arn : String) (t t' : Turn) : Prop where
  item : t.item = t'.item
  rest : t.item.Apart naming arn → t.counted = t'.counted ∧
    List.Forall₂ (fun step step' => step.question.SameBut Secret.sealedKeys step'.question)
      t.steps t'.steps

/-- Whatever the issuer does for one role, items that need no credentials for it have alike turns. -/
theorem alikeApart_turns {r : Reconciler} (plain : r.source.Plain) {arn : String}
    {touched : ObjectKey → Prop} {w w' : World} (parted : w.Parted arn touched w')
    {issued issued' : List ((String × Nat) × Credentials)}
    (shared : ∀ asked, r.naming.resolve asked.1 ≠ arn →
      Option.Rel Credentials.Alike (issued.lookup asked) (issued'.lookup asked))
    {items : List Item} (split : ∀ item ∈ items, ∀ d, item.declaration? = some d →
      (touched d.key ↔ r.naming.resolve d.role = arn)) :
    List.Forall₂ (Turn.AlikeApart r.naming arn) (turns r issued w items)
      (turns r issued' w' items) := by
  induction items generalizing w w' issued issued' with
  | nil => exact .nil
  | cons item items ih =>
    have own := split item (List.mem_cons_self ..)
    have later := fun item member => split item (List.mem_cons_of_mem _ member)
    by_cases apart : item.Apart r.naming arn
    · have alike : Progress.Alike (fun asked => r.naming.resolve asked.1 ≠ arn)
          { issued } { issued := issued' } := ⟨rfl, shared⟩
      obtain ⟨values, states, steps⟩ := parted_handle plain parted alike apart fun d of isTouched =>
        apart d of ((own d of).mp isTouched)
      exact .cons ⟨rfl, fun _ => ⟨values.summary, steps⟩⟩ (ih states values.issued later)
    · have isTouched : ∀ d, item.declaration? = some d → touched d.key := by
        intro d of
        refine (own d of).mpr (Classical.byContradiction fun other => apart fun d' of' => ?_)
        obtain rfl := Option.some.inj (of.symm.trans of')
        exact other
      have left := parted_left plain parted { issued } isTouched
      have states := (parted_left plain left.symm { issued := issued' } isTouched).symm
      refine .cons ⟨rfl, fun other => absurd other apart⟩ (ih states (fun asked other => ?_) later)
      have unasked : ∀ d, item.declaration? = some d → asked ≠ (d.role, d.duration) := by
        rintro d of rfl
        exact other ((own d of).mp (isTouched d of))
      rw [lookup_handle _ _ unasked, lookup_handle _ _ unasked]
      exact shared asked other

end Tick

end RoleSecrets
