import RoleSecrets.Proofs.Items
import RoleSecrets.Proofs.Lockstep

/-! # What does not depend on session keys

Secrets are alike when they differ in no more than data that is never read back, and credentials when
they are for one role and expire together. On alike secrets, and with alike credentials from the
issuer, a tick goes in lockstep: it asks for the same, but for the session keys in what it writes.
-/

namespace RoleSecrets

/-- Whether fields have the same names, and the same values except under some. -/
def Fields.SameBut {α : Type} (names : List String) (fields fields' : Fields α) : Prop :=
  List.Forall₂ (fun field field' => field.1 = field'.1 ∧ (field.1 ∉ names → field.2 = field'.2))
    fields fields'

namespace Fields.SameBut

variable {α : Type} {names : List String} {fields fields' : Fields α}

theorem refl (names : List String) (fields : Fields α) : SameBut names fields fields :=
  List.forall₂_same.mpr fun _ _ => ⟨rfl, fun _ => rfl⟩

theorem put (same : SameBut names fields fields') (name : String) (value : α) :
    SameBut names (fields.put name value) (fields'.put name value) := by
  induction same with
  | nil => exact .refl _ _
  | cons first rest ih =>
    rename_i field field' _ _
    obtain ⟨name', old⟩ := field
    obtain ⟨rfl, equal⟩ : _ = field'.1 ∧ _ := first
    rw [Fields.put, Fields.put]
    split
    · exact .cons ⟨rfl, fun _ => rfl⟩ rest
    · exact .cons ⟨rfl, equal⟩ ih

theorem get? (same : SameBut names fields fields') {name : String} (outside : name ∉ names) :
    fields.get? name = fields'.get? name := by
  induction same with
  | nil => rfl
  | cons first rest ih =>
    rename_i field field' _ _
    obtain ⟨name', old⟩ := field
    obtain ⟨rfl, equal⟩ : _ = field'.1 ∧ _ := first
    rw [Fields.get?, Fields.get?]
    split
    · rename_i found
      exact congrArg some (equal (found ▸ outside))
    · exact ih

end Fields.SameBut

/-- Whether credentials are for one role and expire together. -/
structure Credentials.Alike (c c' : Credentials) : Prop where
  roleArn : c.roleArn = c'.roleArn
  expiration : c.expiration = c'.expiration

namespace Secret

/-- The keys of the data that is read back. -/
def readKeys : List String := [roleArnKey, expireKey, generationKey]

/-- The keys of the data that holds session keys. -/
def sealedKeys : List String := [fileKey, documentKey]

/-- Whether secrets differ in no more than data that is never read back. -/
structure Alike (s s' : Secret) : Prop where
  metadata : s.metadata = s'.metadata
  type : s.type = s'.type
  data : ∀ key ∈ readKeys, s.data.bind (Fields.get? key) = s'.data.bind (Fields.get? key)

/-- The keys of the data that tells what was issued. -/
def issuedKeys : List String := expireKey :: sealedKeys

/-- Whether secrets differ in no more than the data under some keys. -/
structure SameBut (keys : List String) (s s' : Secret) : Prop where
  metadata : s.metadata = s'.metadata
  type : s.type = s'.type
  data : Option.Rel (Fields.SameBut keys) s.data s'.data

theorem Alike.refl (s : Secret) : s.Alike s := ⟨rfl, rfl, fun _ _ => rfl⟩

theorem SameBut.alike {s s' : Secret} (same : s.SameBut sealedKeys s') : s.Alike s' where
  metadata := same.metadata
  type := same.type
  data key read := by
    have outside : ∀ key ∈ readKeys, key ∉ sealedKeys := by decide
    obtain ⟨_, data, _⟩ := s
    obtain ⟨_, data', _⟩ := s'
    cases same.data with
    | none => rfl
    | some data => exact data.get? (outside key read)

theorem text?_eq (s : Secret) (key : String) :
    s.text? key = (s.data.bind (Fields.get? key)).bind String.fromUTF8? := by
  unfold text?
  cases s.data <;> rfl

namespace Alike

variable {s s' : Secret} (alike : s.Alike s')

include alike

theorem key : s.key = s'.key := by rw [Secret.key, Secret.key, alike.metadata]

theorem text? {key : String} (read : key ∈ readKeys) : s.text? key = s'.text? key := by
  rw [text?_eq, text?_eq, alike.data key read]

theorem expiration? : s.expiration? = s'.expiration? := by
  rw [Secret.expiration?, Secret.expiration?, alike.text? (by decide)]

theorem generation? : s.generation? = s'.generation? := by
  rw [Secret.generation?, Secret.generation?, alike.text? (by decide)]

end Alike

/-- A choice that does not tell alike secrets apart. -/
theorem alike_filter {keep : Secret → Bool} (blind : ∀ s s', s.Alike s' → keep s = keep s')
    {secrets secrets' : List Secret} (alike : List.Forall₂ Alike secrets secrets') :
    List.Forall₂ Alike (secrets.filter keep) (secrets'.filter keep) :=
  List.rel_filter (fun s s' alike => iff_of_eq (congrArg (· = true) (blind s s' alike))) alike

end Secret

theorem Source.Plain.manages_of_alike {source : Source} (plain : source.Plain) {s s' : Secret}
    (alike : s.Alike s') : source.manages s = source.manages s' := by
  have same : s' = { s with metadata := { s.metadata with labels := s.metadata.labels }
                            data := s'.data } := by
    obtain ⟨metadata, data, type⟩ := s
    obtain ⟨metadata', data', type'⟩ := s'
    obtain ⟨rfl, rfl⟩ : metadata = metadata' ∧ type = type' := ⟨alike.metadata, alike.type⟩
    rfl
  rw [same]
  exact (plain.manages s _ _).symm

/-- The data written for credentials of one role differs in what holds the session keys, and in when
they expire. -/
theorem Declaration.secretData_sameBut (d : Declaration) {c c' : Credentials}
    (role : c.roleArn = c'.roleArn) {keys : List String} (covers : Secret.sealedKeys ⊆ keys)
    (expires : Secret.expireKey ∉ keys → c.expiration = c'.expiration) :
    Fields.SameBut keys (d.secretData c) (d.secretData c') := by
  have data : Fields.SameBut keys c.secretData c'.secretData := by
    have file : Secret.fileKey ∈ keys := covers (by decide)
    have document : Secret.documentKey ∈ keys := covers (by decide)
    refine .cons ⟨rfl, absurd file⟩ (.cons ⟨rfl, absurd document⟩ (.cons ⟨rfl, fun _ => rfl⟩
      (.cons ⟨rfl, fun outside => ?_⟩ (.cons ⟨rfl, fun _ => ?_⟩ .nil))))
    · rw [expires outside]
    · rw [role]
  unfold Declaration.secretData
  cases d.generation with
  | none => exact data
  | some generation => exact data.put _ _

theorem Credentials.Alike.secretData {c c' : Credentials} (alike : c.Alike c') (d : Declaration) :
    Fields.SameBut Secret.sealedKeys (d.secretData c) (d.secretData c') :=
  d.secretData_sameBut alike.roleArn (List.Subset.refl _) fun _ => alike.expiration

/-- Whether answers that may be errors are the same error, or related. -/
inductive ExceptAlike {ε α β : Type} (V : α → β → Prop) : Except ε α → Except ε β → Prop
  | ok {value : α} {value' : β} (related : V value value') :
      ExceptAlike V (.ok value) (.ok value')
  | error (e : ε) : ExceptAlike V (.error e) (.error e)

/-- Whether questions are the same, but for the data under some keys in secrets to be written. -/
inductive Query.SameBut (keys : List String) : Query → Query → Prop
  | same (question : Query) : Query.SameBut keys question question
  | create {s s' : Secret} (same : s.SameBut keys s') :
      Query.SameBut keys (.createSecret s) (.createSecret s')
  | update {s s' : Secret} (same : s.SameBut keys s') :
      Query.SameBut keys (.updateSecret s) (.updateSecret s')

/-- Whether answers are the same, but for what is never read back of secrets and for session keys. -/
def Reply.Alike : (question question' : Query) → Reply question → Reply question' → Prop
  | .listSecrets _, .listSecrets _, answer, answer' =>
      ExceptAlike (List.Forall₂ Secret.Alike) answer answer'
  | .assumeRole .., .assumeRole .., answer, answer' =>
      ExceptAlike (fun keys keys' => keys.expiration = keys'.expiration) answer answer'
  | _, _, answer, answer' => HEq answer answer'

/-- Questions and answers that are the same as far as session keys are left out. -/
def alikeness : Program.Likeness Query Reply := ⟨Query.SameBut Secret.sealedKeys, Reply.Alike⟩

/-- Most questions have the same answers only. -/
theorem Reply.eq_of_alike {question : Query} (noListing : ∀ selector, question ≠ .listSecrets selector)
    (noIssuing : ∀ roleArn session duration, question ≠ .assumeRole roleArn session duration)
    {answer answer' : Reply question} (alike : Reply.Alike question question answer answer') :
    answer = answer' := by
  cases question with
  | listSecrets selector => exact absurd rfl (noListing selector)
  | assumeRole roleArn session duration => exact absurd rfl (noIssuing roleArn session duration)
  | _ => exact eq_of_heq alike

namespace Drift

structure Managed.Alike (m m' : Managed) : Prop where
  declaration : m.declaration = m'.declaration
  secret : m.secret.Alike m'.secret
  drift : m.drift = m'.drift

structure Plan.Alike (plan plan' : Plan) : Prop where
  orphans : List.Forall₂ Secret.Alike plan.orphans plan'.orphans
  managed : List.Forall₂ Managed.Alike plan.managed plan'.managed
  missing : plan.missing = plan'.missing

theorem accepts_of_alike (d : Declaration) {s s' : Secret} (alike : s.Alike s') :
    d.accepts s = d.accepts s' := by
  rw [Declaration.accepts, Declaration.accepts, alike.metadata]

theorem classify_of_alike (d : Declaration) {s s' : Secret} (alike : s.Alike s')
    (deadline : Option Timestamp) : classify d s deadline = classify d s' deadline := by
  have current : isCurrent d s = isCurrent d s' := by rw [isCurrent, isCurrent, alike.generation?]
  have lasting : outlasts s deadline = outlasts s' deadline := by
    unfold outlasts
    rw [alike.expiration?]
  rw [classify, classify, current, lasting]

/-- Plans do not tell alike secrets apart. -/
theorem alike_plan (deadline : Option Timestamp) (pending : List Declaration)
    {secrets secrets' : List Secret} (alike : List.Forall₂ Secret.Alike secrets secrets') :
    (plan deadline pending secrets).Alike (plan deadline pending secrets') := by
  induction alike generalizing pending with
  | nil => exact ⟨.nil, .nil, rfl⟩
  | cons first _ ih =>
    rename_i s s' _ _ _
    rw [plan, plan, first.key]
    split
    · have rest := ih pending
      exact ⟨.cons first rest.orphans, rest.managed, rest.missing⟩
    · rename_i d _
      have rest := ih (pending.filter (·.key ≠ s'.key))
      rw [accepts_of_alike d first, classify_of_alike d first]
      dsimp only
      split
      · exact ⟨rest.orphans, .cons ⟨rfl, first, rfl⟩ rest.managed, rest.missing⟩
      · exact ⟨.cons first rest.orphans, rest.managed, congrArg (d :: ·) rest.missing⟩

end Drift

namespace Tick

inductive Item.Alike : Item → Item → Prop
  | orphan {s s' : Secret} (alike : s.Alike s') : Item.Alike (.orphan s) (.orphan s')
  | managed {m m' : Drift.Managed} (alike : m.Alike m') : Item.Alike (.managed m) (.managed m')
  | missing (d : Declaration) : Item.Alike (.missing d) (.missing d)

theorem Item.Alike.refl (item : Item) : item.Alike item := by
  cases item with
  | orphan s => exact .orphan (.refl s)
  | managed m => exact .managed ⟨rfl, .refl _, rfl⟩
  | missing d => exact .missing d

theorem alike_items {plan plan' : Drift.Plan} (alike : plan.Alike plan') :
    List.Forall₂ Item.Alike (items plan) (items plan') := by
  rw [items, items, alike.missing]
  refine List.rel_append (List.rel_append ?_ ?_) ?_
  · exact List.rel_map (fun _ _ => .orphan) alike.orphans
  · exact List.rel_map (fun _ _ => .managed) alike.managed
  · exact List.forall₂_same.mpr fun item member => .refl item

/-- Whether progress is the same, with alike credentials for all that is shared. -/
structure Progress.Alike (shared : String × Nat → Prop) (p p' : Progress) : Prop where
  summary : p.summary = p'.summary
  issued : ∀ asked, shared asked →
    Option.Rel Credentials.Alike (p.issued.lookup asked) (p'.issued.lookup asked)

namespace Progress.Alike

variable {shared : String × Nat → Prop} {p p' : Progress} (alike : p.Alike shared p')

include alike

theorem fail : p.fail.Alike shared p'.fail :=
  ⟨congrArg Summary.fail alike.summary, alike.issued⟩

theorem count {f : Summary → Summary} :
    Progress.Alike shared { p with summary := f p.summary } { p' with summary := f p'.summary } :=
  ⟨congrArg f alike.summary, alike.issued⟩

theorem remember (d : Declaration) {c c' : Credentials} (same : c.Alike c') :
    (p.remember d c).Alike shared (p'.remember d c') := by
  refine ⟨alike.summary, fun asked isShared => ?_⟩
  simp only [Progress.remember, List.lookup_cons]
  split
  · exact .some same
  · exact alike.issued asked isShared

end Progress.Alike

variable {shared : String × Nat → Prop} {r : Reconciler} {p p' : Progress} {d : Declaration}

/-- Records and events are the same, and have no answer. -/
theorem alike_log {α β : Type} {V : α → β → Prop} (level : LogLevel) (message : String)
    (fields : Fields String) {next : Unit → Controller α} {next' : Unit → Controller β}
    (rest : Program.Lockstep alikeness V (next ()) (next' ())) :
    Program.Lockstep alikeness V (Controller.log level message fields >>= next)
      (Controller.log level message fields >>= next') :=
  ⟨.same _, fun _ _ _ => rest⟩

theorem alike_record {α β : Type} {V : α → β → Prop} (d : Declaration) (type : EventType)
    (reason note : String) {next : Unit → Controller α} {next' : Unit → Controller β}
    (rest : Program.Lockstep alikeness V (next ()) (next' ())) :
    Program.Lockstep alikeness V (record d type reason note >>= next)
      (record d type reason note >>= next') := by
  unfold record
  split
  · exact ⟨.same _, fun _ _ _ => rest⟩
  · exact rest

theorem alike_fetch (isShared : shared (d.role, d.duration)) (alike : p.Alike shared p') :
    Program.Lockstep alikeness
      (fun a a' => ExceptAlike Credentials.Alike a.1 a'.1 ∧ a.2.Alike shared a'.2)
      (fetch r.naming p d) (fetch r.naming p' d) := by
  have kept := alike.issued _ isShared
  unfold fetch Progress.issued?
  revert kept
  generalize p.issued.lookup (d.role, d.duration) = found
  generalize p'.issued.lookup (d.role, d.duration) = found'
  intro kept
  cases kept with
  | some same => exact ⟨.ok same, alike⟩
  | none =>
    unfold RoleNaming.fetch
    dsimp only
    cases r.naming.sessionName (r.naming.resolve d.role) with
    | error cause => exact ⟨.error _, alike⟩
    | ok session =>
      refine ⟨.same _, fun answer answer' answers => ?_⟩
      cases answers with
      | error e => exact ⟨.error _, alike⟩
      | ok expiration => exact ⟨.ok ⟨rfl, expiration⟩, alike.remember d ⟨rfl, expiration⟩⟩

theorem alike_issue (isShared : shared (d.role, d.duration)) (alike : p.Alike shared p') :
    Program.Lockstep alikeness
      (fun a a' => Option.Rel Credentials.Alike a.1 a'.1 ∧ a.2.Alike shared a'.2)
      (issue r.naming p d) (issue r.naming p' d) := by
  refine (alike_fetch isShared alike).bind ?_
  rintro ⟨answer, q⟩ ⟨answer', q'⟩ ⟨same, alike⟩
  cases same with
  | error e => exact alike_log _ _ _ (alike_record _ _ _ _ ⟨.none, alike.fail⟩)
  | ok same => exact ⟨.some same, alike⟩

variable (plain : r.source.Plain)

include plain

theorem alike_report (roleArn : String) (expiration : Timestamp) (alike : p.Alike shared p') :
    Program.Lockstep alikeness (Progress.Alike shared)
      (report r.source p d roleArn expiration) (report r.source p' d roleArn expiration) := by
  unfold report
  split
  · exact alike
  · rename_i generation _
    dsimp only
    split
    · exact alike
    · have asked : Program.Lockstep alikeness Eq
          (r.source.report d (.of generation roleArn expiration))
          (r.source.report d (.of generation roleArn expiration)) := by
        refine .refl (plain.report d _) fun question asks => ⟨.same question, fun _ _ => ?_⟩
        refine Reply.eq_of_alike ?_ ?_
        · rintro selector rfl
          rcases asks with reports | remark <;> trivial
        · rintro roleArn session duration rfl
          rcases asks with reports | remark <;> trivial
      refine asked.bind fun answer answer' same => ?_
      subst same
      cases answer with
      | ok _ => exact alike.count (f := fun s => { s with reported := s.reported + 1 })
      | error e => exact alike_log _ _ _ alike.fail

theorem alike_deliver (write : Write) {c c' : Credentials} (same : c.Alike c') {s s' : Secret}
    (written : s.SameBut Secret.sealedKeys s') (alike : p.Alike shared p') :
    Program.Lockstep alikeness (Progress.Alike shared)
      (deliver r write p d c s) (deliver r write p' d c' s') := by
  have asked : Program.Lockstep alikeness Eq (write.ask s) (write.ask s') := by
    cases write with
    | create => exact ⟨.create written, fun _ _ => eq_of_heq⟩
    | update drift => exact ⟨.update written, fun _ _ => eq_of_heq⟩
  refine asked.bind fun answer answer' same' => ?_
  subst same'
  cases answer with
  | error e => exact alike_log _ _ _ (alike_record _ _ _ _ alike.fail)
  | ok _ =>
    dsimp only
    rw [same.roleArn, same.expiration]
    exact alike_log _ _ _ (alike_record _ _ _ _ (alike_report plain _ _ alike.count))

theorem alike_supply (write : Write) {make make' : Credentials → Secret}
    (made : ∀ c c', c.Alike c' → (make c).SameBut Secret.sealedKeys (make' c'))
    (isShared : shared (d.role, d.duration)) (alike : p.Alike shared p') :
    Program.Lockstep alikeness (Progress.Alike shared)
      (supply r write make p d) (supply r write make' p' d) := by
  refine (alike_issue isShared alike).bind ?_
  rintro ⟨credentials, q⟩ ⟨credentials', q'⟩ ⟨same, alike⟩
  cases same with
  | none => exact alike
  | some same => exact alike_deliver plain write same (made _ _ same) alike

/-- For alike items alike questions are asked, if credentials for them are shared. -/
theorem alike_handle {item item' : Item} (same : item.Alike item')
    (isShared : ∀ d, item.declaration? = some d → shared (d.role, d.duration))
    (alike : p.Alike shared p') :
    Program.Lockstep alikeness (Progress.Alike shared) (item.handle r p) (item'.handle r p') := by
  cases same with
  | orphan same =>
    have told := same.text? (by decide : Secret.roleArnKey ∈ Secret.readKeys)
    simp only [Item.handle, deleteOrphan, ← same.metadata, ← told]
    split
    · refine ⟨.same _, fun answer answer' answers => ?_⟩
      obtain rfl := eq_of_heq answers
      cases answer with
      | error e => exact alike_log _ _ _ alike.fail
      | ok _ => exact alike_log _ _ _ (alike.count (f := fun s => { s with deleted := s.deleted + 1 }))
    · exact alike_log _ _ _ alike
  | managed same =>
    rename_i m m'
    obtain ⟨d, s, drift⟩ := m
    obtain ⟨d', s', drift'⟩ := m'
    obtain ⟨rfl, secret, rfl⟩ : d = d' ∧ s.Alike s' ∧ drift = drift' :=
      ⟨same.declaration, same.secret, same.drift⟩
    rw [Item.handle, Item.handle]
    by_cases healthy : drift = .healthy
    · rw [syncManaged_healthy healthy, syncManaged_healthy healthy, reportHealthy, reportHealthy]
      dsimp only
      rw [secret.expiration?, secret.text? (by decide)]
      split
      · exact alike
      · exact alike_report plain _ _ alike
    · rw [syncManaged_drifted healthy, syncManaged_drifted healthy]
      refine alike_supply plain _ (fun c c' same => ?_) (isShared d rfl) alike
      exact ⟨by rw [refreshed, refreshed, secret.metadata], secret.type, .some (same.secretData d)⟩
  | missing d =>
    refine alike_supply plain _ (fun c c' same => ?_) (isShared d rfl) alike
    exact ⟨rfl, rfl, .some (same.secretData d)⟩

theorem alike_carryOut {plan plan' : Drift.Plan} (same : plan.Alike plan') :
    Program.Lockstep alikeness Eq (carryOut r plan) (carryOut r plan') := by
  rw [carryOut_eq, carryOut_eq]
  have start : Progress.Alike (fun _ => True) {} {} := ⟨rfl, fun _ _ => .none⟩
  refine (Program.Lockstep.foldlM (alike_items same) ?_ start).bind fun _ _ alike => alike.summary
  exact fun _ _ _ _ item alike => alike_handle plain item (fun _ _ => trivial) alike

/-- A tick asks alike questions as long as the answers are alike, and has one value. -/
theorem alike_tick (now : Timestamp) :
    Program.Lockstep alikeness Eq (r.tick now) (r.tick now) := by
  refine ⟨.same _, fun answer answer' listings => ?_⟩
  cases listings with
  | error e => rfl
  | ok alike =>
    rename_i listed listed'
    have owned := Secret.alike_filter (fun _ _ => plain.manages_of_alike) alike
    have asked : Program.Lockstep alikeness Eq r.source.declarations r.source.declarations := by
      refine .refl plain.declarations fun question lookup => ⟨.same question, fun _ _ => ?_⟩
      refine Reply.eq_of_alike ?_ ?_
      · rintro selector rfl
        cases lookup
      · rintro roleArn session duration rfl
        cases lookup
    refine asked.bind fun answer answer' same => ?_
    subst same
    cases answer with
    | error e => rfl
    | ok declarations =>
      refine (alike_carryOut plain (Drift.alike_plan _ _ owned)).bind fun _ _ same => ?_
      exact congrArg _ same

end Tick

end RoleSecrets
