import RoleSecrets.Proofs.Calls
import RoleSecrets.Proofs.FaultyWrites
import RoleSecrets.Proofs.Likeness

/-! # Calls where a role is refused credentials

An issuer is steady for all roles but one when it refuses the same ones whatever changes are to come.
Two worlds with such an issuer may differ in anything else: the items that need no credentials for
the one role make the same calls in both, but for the contents of the credentials they write.
-/

namespace RoleSecrets

open Tick

/-- Whether faults refuse as told, except for a role. -/
def Faults.RefuseBut (arn : String) (refusals : String → Option String) (faults : Faults) : Prop :=
  ∀ roleArn, roleArn ≠ arn → faults.issue.get? roleArn = refusals roleArn

/-- Whether the issuer of a world refuses as told, except for a role, and keeps to it. -/
structure World.SteadyBut (arn : String) (refusals : String → Option String) (w : World) : Prop where
  now : w.faults.RefuseBut arn refusals
  later : ∀ entry ∈ w.schedule, ∀ faults, entry.2 = .faults faults → faults.RefuseBut arn refusals

namespace World

variable {arn : String} {refusals : String → Option String} {w : World}

theorem steady_applyDue {schedule : List (Nat × Change)} (now : w.faults.RefuseBut arn refusals)
    (later : ∀ entry ∈ schedule, ∀ faults, entry.2 = .faults faults →
      faults.RefuseBut arn refusals) : (w.applyDue schedule).SteadyBut arn refusals := by
  have step : ∀ (after : World) (change : Change),
      (∀ faults, change = .faults faults → faults.RefuseBut arn refusals) →
        after.faults.RefuseBut arn refusals → (after.apply change).faults.RefuseBut arn refusals := by
    intro after change refuses kept
    cases change with
    | faults faults => exact refuses faults rfl
    | _ => exact kept
  obtain ⟨last, left⟩ := applyDue_induction step (fun _ _ kept => kept) later now
  exact ⟨last, left⟩

theorem SteadyBut.awaited (steady : w.SteadyBut arn refusals) : w.awaited.SteadyBut arn refusals :=
  steady_applyDue steady.now steady.later

/-- Whom a steady issuer gives credentials. -/
theorem SteadyBut.isSome_serveIssuer (steady : w.SteadyBut arn refusals) {roleArn : String}
    (other : roleArn ≠ arn) (session : String) :
    (w.serveIssuer roleArn session).1.toOption.isSome = (refusals roleArn).isNone := by
  rw [serveIssuer_eq, ← steady.awaited.now roleArn other]
  cases w.awaited.faults.issue.get? roleArn <;> rfl

/-- Nothing that is asked makes an issuer less steady. -/
theorem SteadyBut.run (steady : w.SteadyBut arn refusals) {α : Type} (p : Controller α) :
    (w.run p).state.SteadyBut arn refusals := by
  refine (run_keeps (fun question before steady => ?_) p steady).1
  rcases serve_state question before with ⟨_, _, _, same⟩ | ⟨-, _, same⟩ <;> rw [same]
  · exact ⟨steady.now, steady.later⟩
  · exact ⟨steady.awaited.now, steady.awaited.later⟩

end World

namespace Tick

variable {arn : String} {refusals : String → Option String} {naming : RoleNaming}

/-- What is called to come by credentials for a declaration, if its role has a session name. -/
def call? (naming : RoleNaming) (d : Declaration) : Option Query :=
  match naming.sessionName (naming.resolve d.role) with
  | .ok session => some (.assumeRole (naming.resolve d.role) session d.duration)
  | .error _ => none

theorem callsOf_unissued (w : World) (d : Declaration) (e : CredentialsError) :
    callsOf (unissuedSteps w d e) = [] := by
  unfold unissuedSteps eventSteps
  cases d.subject? <;> rfl

/-- The calls to come by credentials, and whether there are any, follow from what has been issued
before and whom the issuer refuses. -/
theorem calls_issue {w : World} (steady : w.SteadyBut arn refusals) (p : Progress) {d : Declaration}
    (other : naming.resolve d.role ≠ arn) :
    callsOf (w.run (issue naming p d)).steps =
        (if (p.issued? d).isSome then [] else (call? naming d).toList) ∧
      (w.run (issue naming p d)).value.1.isSome =
        ((p.issued? d).isSome || (call? naming d).isSome &&
          (refusals (naming.resolve d.role)).isNone) := by
  have issuance := run_issue naming p d w
  generalize w.run (issue naming p d) = o at issuance
  cases issuance with
  | reused kept => simp [kept, callsOf]
  | unnamed fresh nameless => simp [fresh, call?, nameless, callsOf_unissued]
  | refused fresh named served =>
    rename_i session e after
    have answer := steady.isSome_serveIssuer other session
    rw [show w.serveIssuer _ session = _ from served] at answer
    have calls : callsOf (⟨w, .assumeRole (naming.resolve d.role) session d.duration, .error e⟩ ::
        unissuedSteps after d e) = [.assumeRole (naming.resolve d.role) session d.duration] :=
      congrArg (_ :: ·) (callsOf_unissued after d e)
    simp [fresh, call?, named, calls, ← answer, Except.toOption]
  | issued fresh named served =>
    rename_i session keys after
    have answer := steady.isSome_serveIssuer other session
    rw [show w.serveIssuer _ session = _ from served] at answer
    simp [fresh, call?, named, callsOf, Query.isCall, Query.isReport, ← answer, Except.toOption]

/-- Whether all credentials that were issued are for the role that was asked for. -/
def ForRoles (naming : RoleNaming) (issued : List ((String × Nat) × Credentials)) : Prop :=
  ∀ asked, ∀ c ∈ issued.lookup asked, c.roleArn = naming.resolve asked.1

/-- Whether credentials were issued for the same roles and durations, apart from a role. -/
structure SameStock (naming : RoleNaming) (arn : String)
    (issued issued' : List ((String × Nat) × Credentials)) : Prop where
  forRoles : ForRoles naming issued
  forRoles' : ForRoles naming issued'
  has : ∀ asked, naming.resolve asked.1 ≠ arn →
    (issued.lookup asked).isSome = (issued'.lookup asked).isSome

theorem forRoles_issue {p : Progress} (before : ForRoles naming p.issued) (d : Declaration)
    (w : World) : ForRoles naming (w.run (issue naming p d)).value.2.issued := by
  have issuance := run_issue naming p d w
  generalize w.run (issue naming p d) = o at issuance
  cases issuance with
  | issued =>
    intro asked c kept
    rcases Progress.lookup_remember kept with ⟨rfl, rfl⟩ | earlier
    · rfl
    · exact before asked c earlier
  | _ => exact before

theorem forRoles_handle {r : Reconciler} {p : Progress} (before : ForRoles r.naming p.issued)
    (item : Item) (w : World) : ForRoles r.naming (w.run (item.handle r p)).value.issued := by
  rcases issued_handle p w r item with same | ⟨d, -, same⟩ <;> rw [same]
  · exact before
  · exact forRoles_issue before d w

/-- Whether an item needs no credentials for a role. -/
def Item.Apart (naming : RoleNaming) (arn : String) (item : Item) : Prop :=
  ∀ d, item.declaration? = some d → naming.resolve d.role ≠ arn

private theorem isSome_of_rel {α β : Type} {R : α → β → Prop} {a : Option α} {b : Option β}
    (related : Option.Rel R a b) : a.isSome = b.isSome := by
  cases related <;> rfl

private theorem forall₂_toList {α β γ δ : Type} {R : α → β → Prop} {S : γ → δ → Prop} {f : α → γ}
    {g : β → δ} (maps : ∀ a b, R a b → S (f a) (g b)) {a : Option α} {b : Option β}
    (related : Option.Rel R a b) : List.Forall₂ S (a.map f).toList (b.map g).toList := by
  cases related with
  | none => exact .nil
  | some related => exact .cons (maps _ _ related) .nil

/-- Whether two turns have made the same calls but for what was issued, and leave credentials for
the same roles and durations, apart from a role. -/
structure SameTurn (naming : RoleNaming) (arn : String) (o o' : World.Outcome Progress) : Prop where
  calls : List.Forall₂ (Query.SameBut Secret.issuedKeys) (callsOf o.steps) (callsOf o'.steps)
  has : ∀ asked, naming.resolve asked.1 ≠ arn →
    (o.value.issued.lookup asked).isSome = (o'.value.issued.lookup asked).isSome

theorem secretData_issued (d : Declaration) {c c' : Credentials} (role : c.roleArn = c'.roleArn) :
    Fields.SameBut Secret.issuedKeys (d.secretData c) (d.secretData c') :=
  d.secretData_sameBut role (List.subset_cons_self ..) fun outside =>
    absurd (List.mem_cons_self ..) outside

section Turns

variable {r : Reconciler} {w w' : World} (steady : w.SteadyBut arn refusals)
  (steady' : w'.SteadyBut arn refusals) {p p' : Progress}
  (stock : SameStock r.naming arn p.issued p'.issued)

include steady steady' stock

theorem sameButIssued_issue {d : Declaration} (other : r.naming.resolve d.role ≠ arn) :
    callsOf (w.run (issue r.naming p d)).steps = callsOf (w'.run (issue r.naming p' d)).steps ∧
      Option.Rel (fun c c' => c.roleArn = c'.roleArn) (w.run (issue r.naming p d)).value.1
        (w'.run (issue r.naming p' d)).value.1 := by
  obtain ⟨calls, granted⟩ := calls_issue steady p other
  obtain ⟨calls', granted'⟩ := calls_issue steady' p' other
  have same : (p.issued? d).isSome = (p'.issued? d).isSome := stock.has _ other
  rw [same, ← calls'] at calls
  rw [same, ← granted'] at granted
  refine ⟨calls, ?_⟩
  have role := forRoles_issue stock.forRoles d w (d.role, d.duration)
  have role' := forRoles_issue stock.forRoles' d w' (d.role, d.duration)
  rw [lookup_issue_self] at role role'
  revert role role' granted
  generalize (w.run (issue r.naming p d)).value.1 = credentials
  generalize (w'.run (issue r.naming p' d)).value.1 = credentials'
  intro granted role role'
  cases credentials with
  | none =>
    cases credentials' with
    | none => exact .none
    | some c' => cases granted
  | some c =>
    cases credentials' with
    | none => cases granted
    | some c' => exact .some ((role c rfl).trans (role' c' rfl).symm)

theorem sameButIssued_supply (plain : r.source.Plain) (write : Write)
    {make : Credentials → Secret} (made : ∀ c c', c.roleArn = c'.roleArn →
      (write.question (make c)).SameBut Secret.issuedKeys (write.question (make c')))
    {d : Declaration} (other : r.naming.resolve d.role ≠ arn) :
    SameTurn r.naming arn (w.run (supply r write make p d)) (w'.run (supply r write make p' d)) := by
  obtain ⟨calls, credentials⟩ := sameButIssued_issue steady steady' stock other
  constructor
  · rw [calls_supply p w plain, calls_supply p' w' plain, calls]
    exact List.rel_append (List.forall₂_same.mpr fun _ _ => .same _)
      (forall₂_toList made credentials)
  · intro asked shared
    rw [issued_supply, issued_supply]
    by_cases self : asked = (d.role, d.duration)
    · rw [self, lookup_issue_self, lookup_issue_self, isSome_of_rel credentials]
    · rw [lookup_issue _ _ _ _ self, lookup_issue _ _ _ _ self, stock.has asked shared]

/-- An item that needs no credentials for the role makes the same calls. -/
theorem sameTurn_handle (plain : r.source.Plain) {item : Item} (apart : item.Apart r.naming arn) :
    SameTurn r.naming arn (w.run (item.handle r p)) (w'.run (item.handle r p')) := by
  cases item with
  | orphan s =>
    constructor
    · rw [Item.handle, Item.handle, calls_deleteOrphan, calls_deleteOrphan]
      exact List.forall₂_same.mpr fun _ _ => .same _
    · intro asked shared
      rw [Item.handle, Item.handle, issued_deleteOrphan, issued_deleteOrphan]
      exact stock.has asked shared
  | managed m =>
    rw [Item.handle, Item.handle]
    by_cases healthy : m.drift = .healthy
    · rw [syncManaged_healthy healthy, syncManaged_healthy healthy]
      constructor
      · rw [calls_reportHealthy _ _ _ plain, calls_reportHealthy _ _ _ plain]
        exact .nil
      · intro asked shared
        rw [issued_reportHealthy, issued_reportHealthy]
        exact stock.has asked shared
    · rw [syncManaged_drifted healthy, syncManaged_drifted healthy]
      refine sameButIssued_supply steady steady' stock plain _ (fun c c' role => ?_) (apart _ rfl)
      exact .update ⟨rfl, rfl, .some (secretData_issued m.declaration role)⟩
  | missing d =>
    refine sameButIssued_supply steady steady' stock plain .create (fun c c' role => ?_) (apart d rfl)
    exact .create ⟨rfl, rfl, .some (secretData_issued d role)⟩

theorem sameStock_handle (plain : r.source.Plain) (item : Item) :
    SameStock r.naming arn (w.run (item.handle r p)).value.issued
      (w'.run (item.handle r p')).value.issued := by
  refine ⟨forRoles_handle stock.forRoles item w, forRoles_handle stock.forRoles' item w', ?_⟩
  by_cases apart : item.Apart r.naming arn
  · exact (sameTurn_handle steady steady' stock plain apart).has
  · intro asked shared
    have other : ∀ d, item.declaration? = some d → asked ≠ (d.role, d.duration) := by
      rintro d of rfl
      refine apart fun d' of' => ?_
      obtain rfl := Option.some.inj (of.symm.trans of')
      exact shared
    rw [lookup_handle _ _ other, lookup_handle _ _ other, stock.has asked shared]

end Turns

/-- Whether turns are of one item, and make the same calls but for what was issued if it needs no
credentials for a role. -/
structure Turn.SameApart (naming : RoleNaming) (arn : String) (t t' : Turn) : Prop where
  item : t.item = t'.item
  calls : t.item.Apart naming arn →
    List.Forall₂ (Query.SameBut Secret.issuedKeys) (callsOf t.steps) (callsOf t'.steps)

/-- Whatever a steady issuer does for one role, items that need no credentials for it make the same
calls. -/
theorem sameApart_turns {r : Reconciler} (plain : r.source.Plain) {w w' : World}
    (steady : w.SteadyBut arn refusals) (steady' : w'.SteadyBut arn refusals)
    {issued issued' : List ((String × Nat) × Credentials)}
    (stock : SameStock r.naming arn issued issued') (items : List Item) :
    List.Forall₂ (Turn.SameApart r.naming arn) (turns r issued w items)
      (turns r issued' w' items) := by
  induction items generalizing w w' issued issued' with
  | nil => exact .nil
  | cons item items ih =>
    have stock : SameStock r.naming arn (Progress.issued { issued })
        (Progress.issued { issued := issued' }) := stock
    refine .cons ⟨rfl, fun apart => (sameTurn_handle steady steady' stock plain apart).calls⟩ ?_
    exact ih (steady.run _) (steady'.run _) (sameStock_handle steady steady' stock plain item)

end Tick

end RoleSecrets
