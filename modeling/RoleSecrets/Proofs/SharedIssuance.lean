import RoleSecrets.Proofs.Accounts
import RoleSecrets.Proofs.Isolation

/-! # Issuance is shared within a tick

Credentials are kept for the role and duration that they were issued for. Once a tick has some, no
later turn asks for them again, and all the secrets that are written for this role and duration hold
the same. A refusal is not kept: the next turn that needs the role asks again.
-/

namespace RoleSecrets

/-- The secret that a question puts in place. -/
def Query.delivered? : Query → Option Secret
  | .createSecret s | .updateSecret s => some s
  | _ => none

namespace Tick

open World

/-- A request for credentials, with what came of it. -/
structure Request where
  roleArn : String
  session : String
  duration : Nat
  answer : Except CredentialsError SessionKeys

namespace Request

/-- Whether a request was turned down. -/
def refused (q : Request) : Bool := !q.answer.isOk

/-- Whether a request is the one that some credentials come from. -/
def Gives (q : Request) (c : Credentials) : Prop :=
  q.roleArn = c.roleArn ∧ q.answer = .ok c.toSessionKeys

end Request

/-- The request for credentials that a step is. -/
def request? : World.Step → Option Request
  | ⟨_, .assumeRole roleArn session duration, answer⟩ => some ⟨roleArn, session, duration, answer⟩
  | _ => none

def requests (steps : List World.Step) : List Request := steps.filterMap request?

/-- The secrets that are put in place in some steps, whether or not that succeeds. -/
def deliveries (steps : List World.Step) : List Secret :=
  steps.filterMap (·.question.delivered?)

/-- The role and duration that credentials are needed for on behalf of an item. -/
def Item.pair? (item : Item) : Option (String × Nat) :=
  item.attempt?.map fun d => (d.role, d.duration)

/-- The requests made in the turns that need credentials for a role and duration. -/
def requestsFor (pair : String × Nat) (turns : List Turn) : List Request :=
  (turns.filter (·.item.pair? = some pair)).flatMap fun turn => requests turn.steps

/-- What turns have in common that need credentials for one role and duration, given those that were
kept for these before. -/
structure Shared (naming : RoleNaming) (pair : String × Nat) (kept : Option Credentials)
    (turns : List Turn) : Prop where
  own : ∀ q ∈ requestsFor pair turns, q.roleArn = naming.resolve pair.1 ∧
    naming.sessionName q.roleArn = .ok q.session ∧ q.duration = pair.2
  /-- A turn asks once, if at all. -/
  once : ∀ turn ∈ turns, turn.item.pair? = some pair → (requests turn.steps).length ≤ 1
  /-- A turn puts a secret in place unless its own request is refused or the role has no name. -/
  served : ∀ turn ∈ turns, turn.item.pair? = some pair →
    (∃ s, deliveries turn.steps = [s]) ∨ (∃ q ∈ requests turn.steps, q.refused = true) ∨
      ∃ cause, naming.sessionName (naming.resolve pair.1) = .error cause
  /-- Nobody asks for what is kept. -/
  spared : kept ≠ none → requestsFor pair turns = []
  /-- Nothing but a refusal lets a later turn ask again. -/
  again : (requestsFor pair turns).Pairwise fun earlier _ => earlier.refused = true
  /-- The secrets hold the credentials that were kept, or else come from a single request. -/
  data : ∃ c, (∀ old, kept = some old → old = c) ∧
    ∀ turn ∈ turns, ∀ d, turn.item.attempt? = some d → (d.role, d.duration) = pair →
      ∀ s ∈ deliveries turn.steps, s.data = some (d.secretData c) ∧
        (kept = some c ∨ ∃ q ∈ requestsFor pair turns, q.Gives c)

/-- How the turn for a declaration draws on the credentials kept for its role and duration: what is
asked for, which secrets are put in place, and what is kept then. -/
inductive Draws (naming : RoleNaming) (d : Declaration) :
    Option Credentials → List Request → List Secret → Option Credentials → Prop
  | kept {c : Credentials} {s : Secret} (data : s.data = some (d.secretData c)) :
      Draws naming d (some c) [] [s] (some c)
  /-- The role has no session name. -/
  | unnamed {cause : ArnError}
      (nameless : naming.sessionName (naming.resolve d.role) = .error cause) :
      Draws naming d none [] [] none
  | refused {session : String} {e : CredentialsError}
      (named : naming.sessionName (naming.resolve d.role) = .ok session) :
      Draws naming d none [⟨naming.resolve d.role, session, d.duration, .error e⟩] [] none
  | issued {session : String} {c : Credentials} {s : Secret}
      (arn : c.roleArn = naming.resolve d.role)
      (named : naming.sessionName (naming.resolve d.role) = .ok session)
      (data : s.data = some (d.secretData c)) :
      Draws naming d none [⟨naming.resolve d.role, session, d.duration, .ok c.toSessionKeys⟩]
        [s] (some c)

section Steps

theorem isCall_of_delivered? {question : Query} (delivers : question.delivered? ≠ none) :
    question.isCall = true := by
  cases question <;> first | rfl | exact absurd rfl delivers

/-- What is put in place can be told from the calls. -/
theorem deliveries_eq (steps : List World.Step) :
    deliveries steps = (callsOf steps).filterMap Query.delivered? := by
  rw [callsOf, List.filterMap_filter, List.filterMap_map, deliveries]
  refine List.filterMap_congr fun step _ => ?_
  dsimp only [Function.comp]
  split
  · rfl
  · rename_i noCall
    by_contra delivers
    exact noCall (isCall_of_delivered? delivers)

theorem requests_eq_nil {steps : List World.Step}
    (none : ∀ roleArn session duration, .assumeRole roleArn session duration ∉ callsOf steps) :
    requests steps = [] := by
  refine List.filterMap_eq_nil_iff.mpr fun step member => ?_
  rcases step with ⟨before, question, answer⟩
  cases question with
  | assumeRole roleArn session duration =>
    refine absurd (List.mem_filter.mpr ⟨List.mem_map.mpr ⟨_, member, rfl⟩, rfl⟩)
      (none roleArn session duration)
  | _ => rfl

/-- To look something up is neither to ask for credentials nor to put secrets in place. -/
theorem draws_nothing {steps : List World.Step}
    (looks : ∀ step ∈ steps, step.question.isAction = false) :
    requests steps = [] ∧ deliveries steps = [] := by
  refine ⟨List.filterMap_eq_nil_iff.mpr ?_, List.filterMap_eq_nil_iff.mpr ?_⟩ <;>
  · rintro ⟨before, question, answer⟩ member
    have looking := looks _ member
    cases question <;> first | rfl | cases looking

/-- To delete secrets is neither. -/
theorem draws_nothing_of_calls {steps : List World.Step}
    (deletes : ∀ question ∈ callsOf steps, ∃ key, question = .deleteSecret key) :
    requests steps = [] ∧ deliveries steps = [] := by
  constructor
  · refine requests_eq_nil fun _ _ _ member => ?_
    obtain ⟨key, same⟩ := deletes _ member
    cases same
  · rw [deliveries_eq]
    refine List.filterMap_eq_nil_iff.mpr fun question member => ?_
    obtain ⟨key, rfl⟩ := deletes question member
    rfl

theorem requests_append (first second : List World.Step) :
    requests (first ++ second) = requests first ++ requests second := List.filterMap_append

/-- To make it known that there are no credentials is no request for them. -/
theorem requests_unissuedSteps (w : World) (d : Declaration) (e : CredentialsError) :
    requests (unissuedSteps w d e) = [] := by
  unfold unissuedSteps eventSteps
  cases d.subject? <;> rfl

theorem deliveries_issue (naming : RoleNaming) (p : Progress) (d : Declaration) (w : World) :
    deliveries (w.run (issue naming p d)).steps = [] := by
  refine List.filterMap_eq_nil_iff.mpr fun step member => ?_
  have obtains := asked_of_mem_run (asks_issue naming p d) w step member
  rcases step with ⟨before, question, answer⟩
  cases question <;> first | rfl | exact absurd obtains id

end Steps

theorem Item.declaration?_of_attempt? {item : Item} {d : Declaration}
    (needed : item.attempt? = some d) : item.declaration? = some d := by
  cases item with
  | orphan s => cases needed
  | managed m =>
    rw [Item.attempt?] at needed
    split at needed
    · cases needed
    · exact needed
  | missing d' => exact needed

section Draws

/-- How credentials are come by, given how a secret is made of them. -/
theorem draws_issue (naming : RoleNaming) (p : Progress) (d : Declaration) (w : World)
    {make : Credentials → Secret} (made : ∀ c, (make c).data = some (d.secretData c)) :
    Draws naming d (p.issued.lookup (d.role, d.duration))
      (requests (w.run (issue naming p d)).steps)
      ((w.run (issue naming p d)).value.1.map make).toList (w.run (issue naming p d)).value.1 := by
  have issuance := run_issue naming p d w
  generalize w.run (issue naming p d) = o at issuance
  cases issuance with
  | reused kept =>
    rw [show p.issued.lookup (d.role, d.duration) = some _ from kept]
    exact .kept (made _)
  | unnamed fresh nameless =>
    rw [show p.issued.lookup (d.role, d.duration) = none from fresh, requests_unissuedSteps]
    exact .unnamed nameless
  | @refused session e after fresh named served =>
    have asked : requests (⟨w, .assumeRole (naming.resolve d.role) session d.duration, .error e⟩ ::
        unissuedSteps after d e) = [⟨naming.resolve d.role, session, d.duration, .error e⟩] :=
      congrArg (List.cons _) (requests_unissuedSteps after d e)
    rw [show p.issued.lookup (d.role, d.duration) = none from fresh, asked]
    exact .refused named
  | @issued session keys after fresh named served =>
    rw [show p.issued.lookup (d.role, d.duration) = none from fresh]
    exact .issued (c := { keys with roleArn := naming.resolve d.role }) rfl named (made _)

variable {r : Reconciler} (plain : r.source.Plain) (p : Progress) (d : Declaration) (w : World)

include plain

theorem requests_deliver (write : Write) (c : Credentials) (s : Secret) :
    requests (w.run (deliver r write p d c s)).steps = [] := by
  refine requests_eq_nil fun _ _ _ => ?_
  rw [calls_deliver p s w plain write c]
  cases write <;> simp [Write.question]

theorem draws_supply (write : Write) (make : Credentials → Secret)
    (made : ∀ c, (make c).data = some (d.secretData c)) :
    Draws r.naming d (p.issued.lookup (d.role, d.duration))
      (requests (w.run (supply r write make p d)).steps)
      (deliveries (w.run (supply r write make p d)).steps)
      ((w.run (supply r write make p d)).value.issued.lookup (d.role, d.duration)) := by
  have asked : requests (w.run (supply r write make p d)).steps =
      requests (w.run (issue r.naming p d)).steps := by
    rw [supply, run_bind, requests_append]
    refine List.append_right_eq_self.mpr ?_
    generalize (w.run (issue r.naming p d)).state = after
    rcases (w.run (issue r.naming p d)).value with ⟨credentials, q⟩
    cases credentials with
    | none => rfl
    | some c => exact requests_deliver plain q d after write c (make c)
  have put : deliveries (w.run (supply r write make p d)).steps =
      ((w.run (issue r.naming p d)).value.1.map make).toList := by
    rw [deliveries_eq, calls_supply p w plain, List.filterMap_append, ← deliveries_eq,
      deliveries_issue, List.nil_append]
    cases (w.run (issue r.naming p d)).value.1 with
    | none => rfl
    | some c => cases write <;> rfl
  rw [issued_supply, lookup_issue_self, asked, put]
  exact draws_issue r.naming p d w made

/-- The turn of an item that needs credentials. -/
theorem Item.draws {item : Item} {d : Declaration} (needed : item.attempt? = some d) :
    Draws r.naming d (p.issued.lookup (d.role, d.duration))
      (requests (w.run (item.handle r p)).steps) (deliveries (w.run (item.handle r p)).steps)
      ((w.run (item.handle r p)).value.issued.lookup (d.role, d.duration)) := by
  cases item with
  | orphan s => cases needed
  | managed m =>
    rw [Item.attempt?] at needed
    split at needed
    · cases needed
    · rename_i drifted
      obtain rfl := Option.some.inj needed
      rw [Item.handle, syncManaged_drifted drifted]
      exact draws_supply plain p _ w _ _ fun _ => rfl
  | missing d' =>
    obtain rfl := Option.some.inj needed
    exact draws_supply plain p _ w _ _ fun _ => rfl

/-- The turn of an item that needs none. -/
theorem Item.idle {item : Item} (unneeded : item.attempt? = none) :
    requests (w.run (item.handle r p)).steps = [] ∧
      deliveries (w.run (item.handle r p)).steps = [] ∧
      (w.run (item.handle r p)).value.issued = p.issued := by
  cases item with
  | orphan s =>
    have few : ∀ question ∈ callsOf (w.run (deleteOrphan p s)).steps,
        ∃ key, question = .deleteSecret key := by
      intro question member
      rw [calls_deleteOrphan] at member
      split at member
      · exact ⟨_, List.mem_singleton.mp member⟩
      · exact absurd member List.not_mem_nil
    obtain ⟨asked, put⟩ := draws_nothing_of_calls few
    exact ⟨asked, put, issued_deleteOrphan p s w⟩
  | managed m =>
    rw [Item.attempt?] at unneeded
    split at unneeded
    · rename_i healthy
      rw [Item.handle, syncManaged_healthy healthy]
      have none := calls_reportHealthy p m.secret w plain (d := m.declaration)
      obtain ⟨asked, put⟩ := draws_nothing_of_calls fun question member =>
        absurd (none ▸ member) List.not_mem_nil
      exact ⟨asked, put, issued_reportHealthy p m.secret w⟩
    · cases unneeded
  | missing d => cases unneeded

/-- What is kept for another role and duration stays as it is. -/
theorem Item.lookup_handle {item : Item} {pair : String × Nat} (other : item.pair? ≠ some pair) :
    (w.run (item.handle r p)).value.issued.lookup pair = p.issued.lookup pair := by
  cases needed : item.attempt? with
  | none => rw [(Item.idle plain p w needed).2.2]
  | some d =>
    refine Tick.lookup_handle p w fun d' declared same => other ?_
    rw [Item.declaration?_of_attempt? needed] at declared
    obtain rfl := Option.some.inj declared
    rw [Item.pair?, needed, same]
    rfl

end Draws

namespace Draws

variable {naming : RoleNaming} {d : Declaration} {kept kept' : Option Credentials}
  {asked : List Request} {secrets : List Secret}

theorem own (draws : Draws naming d kept asked secrets kept') : ∀ q ∈ asked,
    q.roleArn = naming.resolve d.role ∧ naming.sessionName q.roleArn = .ok q.session ∧
      q.duration = d.duration := by
  cases draws with
  | kept | unnamed => exact fun _ member => absurd member List.not_mem_nil
  | refused named => exact fun q member => List.mem_singleton.mp member ▸ ⟨rfl, named, rfl⟩
  | issued arn named => exact fun q member => List.mem_singleton.mp member ▸ ⟨rfl, named, rfl⟩

theorem once (draws : Draws naming d kept asked secrets kept') : asked.length ≤ 1 := by
  cases draws <;> simp

/-- No request of a turn follows another. -/
theorem alone {R : Request → Request → Prop} (draws : Draws naming d kept asked secrets kept') :
    asked.Pairwise R := by
  cases draws with
  | kept | unnamed => exact .nil
  | refused | issued => exact List.pairwise_singleton ..

/-- What is kept stays, and nobody asks for it. -/
theorem spared (draws : Draws naming d kept asked secrets kept') (there : kept ≠ none) :
    asked = [] ∧ kept' = kept := by
  cases draws with
  | kept => exact ⟨rfl, rfl⟩
  | unnamed | refused | issued => exact absurd rfl there

/-- A request is turned down, or what it gives is kept. -/
theorem refused_or (draws : Draws naming d kept asked secrets kept') :
    ∀ q ∈ asked, q.refused = true ∨ kept' ≠ none := by
  cases draws with
  | kept | unnamed => exact fun _ member => absurd member List.not_mem_nil
  | refused named => exact fun q member => .inl (List.mem_singleton.mp member ▸ rfl)
  | issued => exact fun _ _ => .inr (Option.some_ne_none _)

/-- What is kept comes from before, or from the request made. -/
theorem source {c : Credentials} (draws : Draws naming d kept asked secrets (some c)) :
    kept = some c ∨ ∃ q ∈ asked, q.Gives c := by
  cases draws with
  | kept => exact .inl rfl
  | issued arn => exact .inr ⟨_, List.mem_singleton_self _, arn.symm, rfl⟩

/-- The secrets hold what is kept. -/
theorem data (draws : Draws naming d kept asked secrets kept') : ∀ s ∈ secrets,
    ∃ c, kept' = some c ∧ s.data = some (d.secretData c) := by
  cases draws with
  | unnamed | refused => exact fun _ member => absurd member List.not_mem_nil
  | kept written | issued _ _ written =>
    exact fun s member => ⟨_, rfl, List.mem_singleton.mp member ▸ written⟩

theorem served (draws : Draws naming d kept asked secrets kept') :
    (∃ s, secrets = [s]) ∨ (∃ q ∈ asked, q.refused = true) ∨
      ∃ cause, naming.sessionName (naming.resolve d.role) = .error cause := by
  cases draws with
  | kept | issued => exact .inl ⟨_, rfl⟩
  | unnamed nameless => exact .inr (.inr ⟨_, nameless⟩)
  | refused => exact .inr (.inl ⟨_, List.mem_singleton_self _, rfl⟩)

end Draws

section Shared

variable {naming : RoleNaming} {pair : String × Nat} {kept kept' : Option Credentials} {turn : Turn}
  {turns : List Turn}

theorem requestsFor_cons (turns : List Turn) (needs : turn.item.pair? = some pair) :
    requestsFor pair (turn :: turns) = requests turn.steps ++ requestsFor pair turns := by
  rw [requestsFor, List.filter_cons_of_pos (by simpa using needs)]
  rfl

theorem requestsFor_cons_of_ne (other : turn.item.pair? ≠ some pair) :
    requestsFor pair (turn :: turns) = requestsFor pair turns := by
  rw [requestsFor, List.filter_cons_of_neg (by simpa using other)]
  rfl

theorem Shared.nil : Shared naming pair kept [] where
  own _ member := absurd member List.not_mem_nil
  once _ member := absurd member List.not_mem_nil
  served _ member := absurd member List.not_mem_nil
  spared _ := rfl
  again := .nil
  data := by
    have empty : Credentials := ⟨⟨"", "", "", .epoch⟩, ""⟩
    refine ⟨kept.getD empty, ?_, fun _ member => absurd member List.not_mem_nil⟩
    rintro old rfl
    rfl

/-- A turn without need of the role and duration changes nothing. -/
theorem Shared.pass (other : turn.item.pair? ≠ some pair)
    (later : Shared naming pair kept turns) : Shared naming pair kept (turn :: turns) := by
  obtain ⟨c, same, data⟩ := later.data
  refine ⟨?_, ?_, ?_, ?_, ?_, c, same, ?_⟩
  · rw [requestsFor_cons_of_ne other]
    exact later.own
  · rintro _ (_ | ⟨_, member⟩) needs
    · exact absurd needs other
    · exact later.once _ member needs
  · rintro _ (_ | ⟨_, member⟩) needs
    · exact absurd needs other
    · exact later.served _ member needs
  · rw [requestsFor_cons_of_ne other]
    exact later.spared
  · rw [requestsFor_cons_of_ne other]
    exact later.again
  · rw [requestsFor_cons_of_ne other]
    rintro _ (_ | ⟨_, member⟩) d needed role
    · exact absurd (by rw [Item.pair?, needed, ← role]; rfl) other
    · exact data _ member d needed role

/-- A turn that draws on what is kept leaves it to those that come later. -/
theorem Shared.draw {d : Declaration} (needed : turn.item.attempt? = some d)
    (draws : Draws naming d kept (requests turn.steps) (deliveries turn.steps) kept')
    (later : Shared naming (d.role, d.duration) kept' turns) :
    Shared naming (d.role, d.duration) kept (turn :: turns) := by
  have needs : turn.item.pair? = some (d.role, d.duration) := by rw [Item.pair?, needed]; rfl
  have theirs := requestsFor_cons turns needs
  obtain ⟨c, same, data⟩ := later.data
  refine ⟨?_, ?_, ?_, fun there => ?_, ?_, c, fun old before => ?_, ?_⟩
  · rw [theirs]
    exact fun q member => (List.mem_append.mp member).elim (draws.own q) (later.own q)
  · rintro _ (_ | ⟨_, member⟩) needs'
    · exact draws.once
    · exact later.once _ member needs'
  · rintro _ (_ | ⟨_, member⟩) needs'
    · exact draws.served
    · exact later.served _ member needs'
  · obtain ⟨none, stays⟩ := draws.spared there
    rw [theirs, none, later.spared (stays ▸ there)]
    rfl
  · rw [theirs]
    refine List.pairwise_append.mpr ⟨?_, later.again, fun q mine q' others => ?_⟩
    · exact draws.alone
    · refine (draws.refused_or q mine).resolve_right fun there => ?_
      rw [later.spared there] at others
      exact absurd others List.not_mem_nil
  · exact same old ((draws.spared (before ▸ Option.some_ne_none old)).2.trans before)
  · have mine : kept' = some c → kept = some c ∨
        ∃ q ∈ requestsFor (d.role, d.duration) (turn :: turns), q.Gives c := by
      rintro rfl
      refine draws.source.imp_right fun ⟨q, member, gives⟩ => ⟨q, ?_, gives⟩
      exact theirs ▸ List.mem_append_left _ member
    rintro _ (_ | ⟨_, member⟩) d' needed' role s put
    · obtain rfl := Option.some.inj (needed.symm.trans needed')
      obtain ⟨c', holds, written⟩ := draws.data s put
      obtain rfl := same c' holds
      exact ⟨written, mine holds⟩
    · obtain ⟨written, holds | ⟨q, asked, gives⟩⟩ := data _ member d' needed' role s put
      · exact ⟨written, mine holds⟩
      · exact ⟨written, .inr ⟨q, theirs ▸ List.mem_append_right _ asked, gives⟩⟩

/-- The turns of any items share what is issued, with each other and with those before them. -/
theorem shared_turns {r : Reconciler} (plain : r.source.Plain) (pair : String × Nat)
    (items : List Item) : ∀ issued w,
      Shared r.naming pair (issued.lookup pair) (Tick.turns r issued w items) := by
  induction items with
  | nil => exact fun _ _ => .nil
  | cons item items ih =>
    intro issued w
    have later := ih (w.run (item.handle r { issued })).value.issued
      (w.run (item.handle r { issued })).state
    by_cases needs : item.pair? = some pair
    · obtain ⟨d, needed, rfl⟩ := Option.map_eq_some_iff.mp needs
      exact later.draw needed (Item.draws plain { issued } w needed)
    · rw [Item.lookup_handle plain { issued } w needs] at later
      exact later.pass needs

/-- A turn is taken with what is kept and in the world as they are by then. -/
theorem exists_run_of_mem_turns {r : Reconciler} {issued : Issued} {w : World} {items : List Item} :
    ∀ turn ∈ Tick.turns r issued w items, ∃ (p : Progress) (before : World),
      turn.steps = (before.run (turn.item.handle r p)).steps := by
  induction items generalizing issued w with
  | nil => exact fun _ member => absurd member List.not_mem_nil
  | cons item items ih =>
    rintro _ (_ | ⟨_, member⟩)
    · exact ⟨_, w, rfl⟩
    · exact ih _ member

/-- A role is asked for once, and once more for each refusal. -/
theorem Shared.bounded (shared : Shared naming pair kept turns) :
    (requestsFor pair turns).length ≤ (requestsFor pair turns).countP Request.refused + 1 := by
  have again := shared.again
  generalize requestsFor pair turns = asked at again
  induction asked with
  | nil => exact Nat.zero_le _
  | cons q later ih =>
    obtain ⟨turnedDown, again⟩ := List.pairwise_cons.mp again
    cases later with
    | nil => exact Nat.le_add_left ..
    | cons q' later =>
      rw [List.countP_cons_of_pos (turnedDown q' (List.mem_cons_self ..)), List.length_cons]
      exact Nat.succ_le_succ (ih again)

/-- Of secrets with one role and duration only the generations differ. -/
theorem Shared.alike (shared : Shared naming pair kept turns) {turn' : Turn} (here : turn ∈ turns)
    (there : turn' ∈ turns) (needs : turn.item.pair? = some pair)
    (needs' : turn'.item.pair? = some pair) {s s' : Secret} (put : s ∈ deliveries turn.steps)
    (put' : s' ∈ deliveries turn'.steps) {key : String} (other : key ≠ Secret.generationKey) :
    s.data.bind (·.get? key) = s'.data.bind (·.get? key) := by
  obtain ⟨c, -, data⟩ := shared.data
  obtain ⟨d, needed, role⟩ := Option.map_eq_some_iff.mp needs
  obtain ⟨d', needed', role'⟩ := Option.map_eq_some_iff.mp needs'
  rw [(data turn here d needed role s put).1, (data turn' there d' needed' role' s' put').1]
  exact (Declaration.get?_secretData other.symm).trans (Declaration.get?_secretData other.symm).symm

end Shared

end Tick

namespace Reconciler

open Tick

/-- In a tick, whatever fails and whatever changes meanwhile, the issuer is asked on behalf of the
items that need credentials and of no others. Those that need credentials for one role and duration
share them: after the first that are issued nobody asks again, each of them has its secret put in
place, and these secrets differ in nothing but their generations. Each refusal lets one more item
ask. -/
theorem shares_issuance (r : Reconciler) (plain : r.source.Plain) (now : Timestamp) (w : World) :
    r.Divided now w ∧
    requests (w.run r.opening).steps = [] ∧ deliveries (w.run r.opening).steps = [] ∧
    (∀ turn ∈ r.turns now w, turn.item.pair? = none →
      requests turn.steps = [] ∧ deliveries turn.steps = []) ∧
    ∀ pair, Shared r.naming pair none (r.turns now w) ∧
      (requestsFor pair (r.turns now w)).length ≤
        (requestsFor pair (r.turns now w)).countP Request.refused + 1 ∧
      ∀ turn ∈ r.turns now w, ∀ turn' ∈ r.turns now w, turn.item.pair? = some pair →
        turn'.item.pair? = some pair → ∀ s ∈ deliveries turn.steps, ∀ s' ∈ deliveries turn'.steps,
          ∀ key, key ≠ Secret.generationKey →
            s.data.bind (·.get? key) = s'.data.bind (·.get? key) := by
  have looks := World.asked_of_mem_run (asks_opening plain) w
  obtain ⟨asked, put⟩ := draws_nothing looks
  have shared : ∀ pair, Shared r.naming pair none (r.turns now w) := fun pair => by
    unfold turns
    split
    · exact .nil
    · exact shared_turns plain pair _ [] _
  refine ⟨divided plain now w, asked, put, fun turn member needless => ?_, fun pair =>
    ⟨shared pair, (shared pair).bounded, fun turn here turn' there needs needs' s put s' put' key =>
      (shared pair).alike here there needs needs' put put'⟩⟩
  unfold turns at member
  split at member
  · exact absurd member List.not_mem_nil
  · obtain ⟨p, before, ran⟩ := exists_run_of_mem_turns turn member
    obtain ⟨asked, put, -⟩ := Item.idle plain p before (Option.map_eq_none_iff.mp needless)
    rw [ran]
    exact ⟨asked, put⟩

section Sample

/-- Two roles, each of them wanted in two namespaces, one of which gets no credentials. -/
private def wantedTwice : World where
  declarations := [
    { ns := "apps", secretName := "reader", role := "reader", duration := 900 },
    { ns := "jobs", secretName := "reader", role := "reader", duration := 900,
      generation := some 3 },
    { ns := "apps", secretName := "writer", role := "writer", duration := 900 },
    { ns := "jobs", secretName := "writer", role := "writer", duration := 900 }]
  faults := { issue := [("arn:aws:iam::1:role/writer", "denied")] }
  expiration := .epoch

end Sample

/-- Where a role is refused, it is asked for in each namespace that wants it. -/
theorem shares_issuance_sample :
    (wantedTwice.run (sample.tick .epoch)).value = .ok { created := 2, reported := 1, failed := 2 } ∧
    (requestsFor ("reader", 900) (sample.turns .epoch wantedTwice)).map Request.refused = [false] ∧
    (requestsFor ("writer", 900) (sample.turns .epoch wantedTwice)).map Request.refused =
      [true, true] ∧
    ∀ pair, Shared sample.naming pair none (sample.turns .epoch wantedTwice) := by
  obtain ⟨-, -, -, -, shared⟩ := shares_issuance sample Source.plain_declared .epoch wantedTwice
  exact ⟨rfl, rfl, rfl, fun pair => (shared pair).1⟩

end Reconciler

end RoleSecrets
