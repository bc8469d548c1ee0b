import RoleSecrets.Proofs.Serving
import RoleSecrets.Tick

/-! # What sources ask, and what they take back

A source only looks things up to tell its declarations, and asks for nothing but the report itself
to report a status. Whether it manages a secret does not depend on what a refresh writes. All three
sources are plain in this sense, and take the secrets that are created for what they declare.
-/

namespace RoleSecrets

/-- The request to the API that reports a status for a declaration. -/
def Source.reportRequest (d : Declaration) (status : RoleStatus) : ApiRequest where
  method := .patch
  path := { collection := .roles, ns := some d.ns, name := some d.secretName, ofStatus := true }
  body := some (Source.statusPatch status)

namespace Query

/-- Whether a question leaves a record in the log that tells of no error. -/
def isRemark : Query → Bool
  | .log record => record.level ≠ .error
  | _ => false

/-- Whether a question does no more than to look up what is declared. -/
def isLookup : Query → Bool
  | .registrySynced | .registryRoles | .listDeclared => true
  | .api request => request.method = .get
  | question => question.isRemark

def isReport : Query → Bool
  | .reportDeclared _ _ => true
  | .api request => request.method = .patch
  | _ => false

/-- Whether a question reports a given status for a given declaration. -/
def Reports (d : Declaration) (status : RoleStatus) : Query → Prop
  | .reportDeclared declaration reported => declaration = d ∧ reported = status
  | .api request => request = Source.reportRequest d status
  | _ => False

theorem isWrite_of_isLookup {question : Query} (lookup : question.isLookup = true) :
    question.isWrite = false := by
  cases question <;> first | rfl | cases lookup

theorem isWrite_of_isRemark {question : Query} (remark : question.isRemark = true) :
    question.isWrite = false := by
  cases question <;> first | rfl | cases remark

theorem isWrite_of_reports {question : Query} {d : Declaration} {status : RoleStatus}
    (reports : question.Reports d status) : question.isWrite = false := by
  cases question <;> first | rfl | cases reports

theorem isReport_of_isRemark {question : Query} (remark : question.isRemark = true) :
    question.isReport = false := by
  cases question <;> first | rfl | cases remark

theorem isReport_of_isLookup {question : Query} (lookup : question.isLookup = true) :
    question.isReport = false := by
  cases question with
  | api request =>
    have get : request.method = .get := by simpa [isLookup] using lookup
    simp [isReport, get]
  | _ => first | rfl | cases lookup

end Query

namespace Source

/-- What a source may ask, and what it may look at. -/
structure Plain (source : Source) : Prop where
  declarations : source.declarations.Asks fun question => question.isLookup = true
  report : ∀ d status, (source.report d status).Asks fun question =>
    question.Reports d status ∨ question.isRemark = true
  /-- Labels and data do not tell whether a secret is managed. -/
  manages : ∀ (s : Secret) labels data,
    source.manages { s with metadata := { s.metadata with labels }, data } = source.manages s

/-- Looking up what is declared leaves the secrets alone. -/
theorem Plain.run_declarations {source : Source} (plain : source.Plain) {w : World}
    (undisturbed : w.Undisturbed) :
    (w.run source.declarations).state.secrets = w.secrets ∧
      (w.run source.declarations).state.Undisturbed ∧
      ∀ step ∈ (w.run source.declarations).steps, step.question.isLookup = true ∧
        step.before.secrets = w.secrets :=
  World.secrets_run plain.declarations (fun _ => Query.isWrite_of_isLookup) undisturbed

/-- Reporting a status leaves the secrets alone and asks for nothing but the report. -/
theorem Plain.run_report {source : Source} (plain : source.Plain) (d : Declaration)
    (status : RoleStatus) {w : World} (undisturbed : w.Undisturbed) :
    (w.run (source.report d status)).state.secrets = w.secrets ∧
      (w.run (source.report d status)).state.Undisturbed ∧
      ∀ step ∈ (w.run (source.report d status)).steps,
        (step.question.Reports d status ∨ step.question.isRemark = true) ∧
          step.before.secrets = w.secrets := by
  refine World.secrets_run (plain.report d status) ?_ undisturbed
  rintro question (reports | remark)
  · exact Query.isWrite_of_reports reports
  · exact Query.isWrite_of_isRemark remark

theorem plain_ofPods : ofPods.Plain where
  declarations := by
    refine Program.Asks.bind (.request rfl) fun synced => ?_
    cases synced with
    | true => exact Program.Asks.bind (.request rfl) fun roles => .pure _
    | false => exact .pure _
  report _ _ := .pure _
  manages _ _ _ := rfl

theorem asks_declare (resource : RoleResource) :
    (declare resource).Asks fun question => question.isLookup = true := by
  unfold declare
  dsimp only
  split
  · exact Program.Asks.bind (.request rfl) fun _ => .pure _
  · exact Program.Asks.bind (.pure _) fun _ => .pure _

theorem declarations_ofResources (ns : Option String) :
    (ofResources ns).declarations = resourceDeclarations ns := by
  rw [ofResources]

theorem report_ofResources (ns : Option String) : (ofResources ns).report = reportToResource := by
  rw [ofResources]

theorem plain_ofResources (ns : Option String) : (ofResources ns).Plain where
  declarations := by
    rw [declarations_ofResources, resourceDeclarations]
    split
    · exact .pure _
    · refine Program.Asks.bind (.request (by simp [Query.isLookup])) fun reply => ?_
      split
      · exact .pure _
      · exact Program.Asks.bind (.mapM _ asks_declare) fun _ => .pure _
  report d status := by
    rw [report_ofResources, reportToResource]
    split
    · exact .pure _
    · refine Program.Asks.bind (.request (.inl rfl)) fun reply => ?_
      split
      · exact .pure _
      · exact Program.Asks.bind (.request (.inr rfl)) fun _ => .pure _
  manages _ _ _ := rfl

theorem plain_declared : declared.Plain where
  declarations := .request rfl
  report _ _ := .request (.inl ⟨rfl, rfl⟩)
  manages _ _ _ := rfl

/-- Whether a secret is one that a source selects and manages. -/
def owns (source : Source) (s : Secret) : Bool := source.selector.selects s && source.manages s

/-- Whether a source owns the secrets that are created for a declaration. -/
def Takes (source : Source) (d : Declaration) : Prop :=
  ∀ c, source.owns (Tick.newSecret d c) = true

/-- What a source takes it goes on owning with new credentials. -/
theorem Plain.owns_refreshed {source : Source} (plain : source.Plain) {d : Declaration}
    (takes : source.Takes d) {s : Secret} (owned : source.owns s = true) (c : Credentials) :
    source.owns (Tick.refreshed s d c) = true := by
  have new := takes c
  simp only [owns, Bool.and_eq_true] at owned new ⊢
  exact ⟨new.1, (plain.manages s _ _).trans owned.2⟩

theorem label?_newSecret (d : Declaration) (c : Credentials) (name : String) :
    (Tick.newSecret d c).metadata.label? name = d.labels.get? name := rfl

theorem takes_podDeclaration (role ns : String) : ofPods.Takes (podDeclaration role ns) := by
  intro c
  have label : (podDeclaration role ns).labels.get? RoleResource.heritage.1 =
      some RoleResource.heritage.2 := rfl
  simp only [owns, Bool.and_eq_true]
  refine ⟨?_, rfl⟩
  simp only [ofPods, Selector.selects, List.all_cons, List.all_nil, label?_newSecret, label,
    decide_true, Bool.and_self]

/-- All that the pods' source declares is taken by it. -/
theorem takes_ofPods {w : World} {declarations : List Declaration}
    (declared : (w.run ofPods.declarations).value = .ok declarations) :
    ∀ d ∈ declarations, ofPods.Takes d := by
  change (w.run podDeclarations).value = _ at declared
  rw [podDeclarations, World.run_bind, World.run_request] at declared
  cases synced : w.registry.synced with
  | false =>
    simp only [World.serve, synced] at declared
    cases declared
  | true =>
    simp only [World.serve, synced] at declared
    rw [if_pos trivial, World.run_bind, World.run_request, World.run_pure] at declared
    obtain rfl := Except.ok.inj declared
    intro d member
    obtain ⟨⟨role, ns⟩, -, rfl⟩ := List.mem_map.mp member
    exact takes_podDeclaration role ns

/-- The resources in a listing are read without any change to the world. -/
theorem run_mapM_declare (w : World) (resources : List RoleResource) :
    (w.run (resources.mapM declare)).value = resources.map RoleResource.declaration? ∧
      (w.run (resources.mapM declare)).state = w := by
  induction resources with
  | nil => exact ⟨rfl, rfl⟩
  | cons resource rest ih =>
    have first : (w.run (declare resource)).value = resource.declaration? ∧
        (w.run (declare resource)).state = w := by
      unfold declare
      dsimp only
      split <;> exact ⟨rfl, rfl⟩
    rw [List.mapM_cons, World.run_bind, World.run_bind, first.2]
    exact ⟨by rw [first.1, ih.1]; rfl, ih.2⟩

/-- The fixed labels come before those of the resource. -/
theorem takes_of_declaration? {ns : Option String} {resource : RoleResource} {d : Declaration}
    (declares : resource.declaration? = some d) : (ofResources ns).Takes d := by
  intro c
  have labels : d.labels =
      (resource.metadata.labels.getD []).putAll [RoleResource.heritage, RoleResource.secretType] := by
    simp only [RoleResource.declaration?, Option.bind_eq_bind, Option.bind_eq_some_iff] at declares
    obtain ⟨name, -, ns, -, uid, -, same⟩ := declares
    cases same
    rfl
  have heritage : d.labels.get? RoleResource.heritage.1 = some RoleResource.heritage.2 := by
    rw [labels, Fields.putAll, List.foldl_cons, List.foldl_cons, List.foldl_nil,
      Fields.get?_put_of_ne (by decide), Fields.get?_put_self]
  have type : d.labels.get? RoleResource.secretType.1 = some RoleResource.secretType.2 := by
    rw [labels, Fields.putAll, List.foldl_cons, List.foldl_cons, List.foldl_nil,
      Fields.get?_put_self]
  simp only [owns, ofResources, Selector.selects, List.all_cons, List.all_nil, label?_newSecret,
    heritage, type, decide_true, Bool.and_self]

/-- What the resources' source declares stems from resources of its listing. -/
theorem mem_ofResources_declarations {ns : Option String} {w : World}
    {declarations : List Declaration}
    (declared : (w.run (ofResources ns).declarations).value = .ok declarations) :
    ∀ d ∈ declarations, ∃ resource : RoleResource, resource.declaration? = some d := by
  rw [declarations_ofResources, resourceDeclarations] at declared
  split at declared
  · cases declared
  · rw [World.run_bind] at declared
    dsimp only at declared
    split at declared
    · cases declared
    · rename_i resources _
      rw [World.run_bind, (run_mapM_declare _ resources).1] at declared
      obtain rfl := Except.ok.inj declared
      intro d member
      obtain ⟨declaration, inside, same⟩ := List.mem_filterMap.mp member
      obtain ⟨resource, -, rfl⟩ := List.mem_map.mp inside
      exact ⟨resource, same⟩

/-- All that the resources' source declares is taken by it. -/
theorem takes_ofResources {ns : Option String} {w : World} {declarations : List Declaration}
    (declared : (w.run (ofResources ns).declarations).value = .ok declarations) :
    ∀ d ∈ declarations, (ofResources ns).Takes d := by
  intro d member
  obtain ⟨resource, declares⟩ := mem_ofResources_declarations declared d member
  exact takes_of_declaration? declares

end Source

end RoleSecrets
