import RoleSecrets.Proofs.DesiredState
import RoleSecrets.Proofs.StatusPatch

/-! # Sources tell what is desired

A source mirrors the desired state when it tells the same as long as that stays the same, and tells
a status once it has been reported. The source of pods does so, having no statuses to tell; the
source of resources does so as long as the resources have keys of their own.
-/

namespace RoleSecrets

/-- Whether all resources of a world have keys, each one of its own. -/
structure World.ResourcesKeyed (w : World) : Prop where
  named : ∀ resource ∈ w.resources, (resourceKey? resource).isSome
  distinct : (w.resources.map resourceKey?).Nodup

namespace Source

/-- What a source tells of a world, if nothing fails. -/
def told (source : Source) (w : World) : Except SourceError (List Declaration) :=
  (World.run { w with faults := {} } source.declarations).value

/-- Whether a source mirrors the desired state of worlds that are in order. -/
structure Mirrors (source : Source) (InOrder : World → Prop) : Prop where
  plain : source.Plain
  told_of_desired : ∀ {w after : World}, w.SameDesired after → source.told after = source.told w
  order_of_desired : ∀ {w after : World}, w.SameDesired after → InOrder w → InOrder after
  /-- Without a fault it tells what there is to tell, and does nothing else. -/
  lookup : ∀ {w : World}, w.faults.declarations = none →
    ∃ steps, w.run source.declarations = ⟨source.told w, w, steps⟩
  told_of_run : ∀ {w : World} {declarations : List Declaration},
    (w.run source.declarations).value = .ok declarations → source.told w = .ok declarations
  taken : ∀ {w : World} {declarations : List Declaration}, source.told w = .ok declarations →
    ∀ d ∈ declarations, source.Takes d ∧ d.HasWordGeneration
  /-- No declaration comes up with two statuses. -/
  single : ∀ {w : World} {declarations : List Declaration}, InOrder w →
    source.told w = .ok declarations →
      ∀ d ∈ declarations, ∀ other ∈ declarations, d.Twin other → other = d
  /-- What is reported of a declaration is told of it, and no more has changed. -/
  report : ∀ {w : World} {declarations : List Declaration} (d : Declaration) (status : RoleStatus),
    InOrder w → source.told w = .ok declarations → Decimal.fitsInt64 status.generation = true →
      status.expiration.HasFourDigitYear →
        InOrder (w.run (source.report d status)).state ∧ ∃ after,
          source.told (w.run (source.report d status)).state = .ok after ∧
            Declaration.Alike [d.key] declarations after ∧
              ((w.run (source.report d status)).value = .ok () → ∀ e ∈ after, e.key = d.key →
                e.generation ≠ none → e.status = some status)

/-- Looking up what is declared changes neither that nor the secrets. -/
theorem Mirrors.run_declarations {source : Source} {InOrder : World → Prop}
    (mirrors : source.Mirrors InOrder) {w before : World} {declarations : List Declaration}
    {steps : List World.Step} (inOrder : InOrder w) (calm : w.Calm)
    (asked : w.run source.declarations = ⟨.ok declarations, before, steps⟩) :
    before.secrets = w.secrets ∧ before.Calm ∧ InOrder before ∧
      source.told before = .ok declarations := by
  obtain ⟨secrets, -, -⟩ := mirrors.plain.run_declarations calm.undisturbed
  obtain ⟨still, desired⟩ := World.desired_run
    (mirrors.plain.declarations.mono fun _ => Query.isReport_of_isLookup) calm
  have told := mirrors.told_of_run (w := w) (by rw [asked])
  rw [asked] at secrets still desired
  rw [← mirrors.told_of_desired desired] at told
  exact ⟨secrets, still, mirrors.order_of_desired desired inOrder, told⟩

/-- The source of pods tells what the registry holds, once that is known. -/
def podsTold (w : World) : Except SourceError (List Declaration) :=
  if w.registry.synced then .ok (w.registry.snapshot.map fun (role, ns) => podDeclaration role ns)
  else .error .notSynced

theorem run_ofPods (w : World) :
    ∃ steps, w.run ofPods.declarations = ⟨podsTold w, w, steps⟩ := by
  change ∃ steps, w.run podDeclarations = _
  rw [podsTold, podDeclarations, World.run_bind, World.run_request]
  cases synced : w.registry.synced with
  | false =>
    simp only [World.serve, synced]
    exact ⟨_, rfl⟩
  | true =>
    simp only [World.serve, synced]
    exact ⟨_, rfl⟩

theorem told_ofPods (w : World) : ofPods.told w = podsTold w := by
  obtain ⟨steps, ran⟩ := run_ofPods { w with faults := {} }
  rw [told, ran]
  rfl

/-- Pods declare no generation and report no status. -/
theorem unmarked_of_ofPods {w : World} {declarations : List Declaration}
    (told : ofPods.told w = .ok declarations) :
    ∀ d ∈ declarations, d.generation = none ∧ d.status = none := by
  rw [told_ofPods, podsTold] at told
  split at told
  · obtain rfl := Except.ok.inj told
    intro d member
    obtain ⟨⟨role, ns⟩, -, rfl⟩ := List.mem_map.mp member
    exact ⟨rfl, rfl⟩
  · cases told

theorem mirrors_ofPods : ofPods.Mirrors fun _ => True where
  plain := plain_ofPods
  told_of_desired same := by rw [told_ofPods, told_ofPods, podsTold, podsTold, same.registry]
  order_of_desired _ _ := trivial
  lookup _ := by
    rw [told_ofPods]
    exact run_ofPods _
  told_of_run := by
    intro w declarations ran
    obtain ⟨steps, same⟩ := run_ofPods w
    rw [same] at ran
    rw [told_ofPods]
    exact ran
  taken := by
    intro w declarations told d member
    have ran : (World.run { w with faults := {} } ofPods.declarations).value = .ok declarations := told
    refine ⟨takes_ofPods ran d member, fun generation generated => ?_⟩
    rw [(unmarked_of_ofPods told d member).1] at generated
    cases generated
  single := by
    intro w declarations _ told d member other member' twin
    rw [twin, (unmarked_of_ofPods told other member').2, ← (unmarked_of_ofPods told d member).2]
  report := by
    intro w declarations d status _ told _ _
    refine ⟨trivial, declarations, told, .refl _ _, fun _ e member _ generated => ?_⟩
    exact absurd (unmarked_of_ofPods told e member).1 generated

/-- What a JSON value declares, if it is a resource. -/
def declared? (value : Json) : Option Declaration :=
  (RoleResource.ofJson? value).bind RoleResource.declaration?

/-- The resources a source looks at: those of its namespace, or all. -/
def inScope (ns : Option String) (resources : List Json) : List Json :=
  match ns with
  | some ns => resources.filter fun resource => resourceNs? resource = some ns
  | none => resources

/-- The source of resources tells what they declare, if all of them can be read. -/
def resourcesTold (ns : Option String) (w : World) : Except SourceError (List Declaration) :=
  if !(ApiPath.isValid { collection := .roles, ns }) then .error (.list ns .noRequest)
  else if (inScope ns w.resources).all fun value => (RoleResource.ofJson? value).isSome then
    .ok ((inScope ns w.resources).filterMap declared?)
  else .error (.list ns .undecodable)

/-- Reading all items gives what each of them is read as, if every one can be read. -/
theorem mapM_eq_filterMap {α β : Type} (read? : α → Option β) (items : List α) :
    items.mapM read? =
      if items.all fun item => (read? item).isSome then some (items.filterMap read?) else none := by
  induction items with
  | nil => rfl
  | cons item items ih =>
    rw [List.mapM_cons, ih]
    cases reads : read? item with
    | none => simp [reads]
    | some value =>
      by_cases rest : (items.all fun item => (read? item).isSome) = true
      · simp [reads, rest]
      · simp [reads, rest]

/-- The listing of resources as it is answered. -/
def listing (items : List Json) : Json :=
  .obj [("apiVersion", .str "zalando.org/v1"), ("kind", .str "AWSIAMRoleList"),
    ("metadata", .obj []), ("items", .arr items)]

theorem read_listing (items : List Json) :
    (ApiReply.answered 200 (.json (listing items))).read (listItems? RoleResource.ofJson?) =
      match items.mapM RoleResource.ofJson? with
      | some resources => .ok resources
      | none => .error .undecodable := by
  have listed : listItems? RoleResource.ofJson? (listing items) =
      items.mapM RoleResource.ofJson? := by
    have allowed : Json.Members.allows [("apiVersion", .str "zalando.org/v1"),
        ("kind", .str "AWSIAMRoleList"), ("metadata", .obj []), ("items", .arr items)]
          "metadata" Json.members? = true := rfl
    simp only [listItems?, listing, Json.members?, Option.bind_eq_bind, Option.bind_some, allowed,
      Json.Members.required?]
    cases reads : items.mapM RoleResource.ofJson? <;> simp [Json.list?, Json.items?, reads]
  have body : (ApiReply.answered 200 (.json (listing items))).body = .ok (.json (listing items)) := rfl
  rw [ApiReply.read, body]
  simp only [bind, Except.bind, ApiBody.json?, Option.bind_some, listed]
  cases items.mapM RoleResource.ofJson? <;> rfl

theorem run_ofResources (ns : Option String) {w : World} (faultless : w.faults.declarations = none) :
    ∃ steps, w.run (ofResources ns).declarations = ⟨resourcesTold ns w, w, steps⟩ := by
  rw [declarations_ofResources, resourceDeclarations, resourcesTold]
  split
  · exact ⟨_, rfl⟩
  · have served : World.serve (.api { method := .get, path := { collection := .roles, ns } }) w =
        (.answered 200 (.json (listing (inScope ns w.resources))), w) := by
      simp only [World.serve, World.serveApi, faultless]
      rfl
    rw [World.run_bind_of_eq (World.run_request_of_eq served), read_listing, mapM_eq_filterMap]
    by_cases readable :
        ((inScope ns w.resources).all fun value => (RoleResource.ofJson? value).isSome) = true
    · rw [if_pos readable, if_pos readable]
      dsimp only
      obtain ⟨value, state⟩ :=
        run_mapM_declare w ((inScope ns w.resources).filterMap RoleResource.ofJson?)
      rw [World.run_bind, value, state, World.run_pure]
      have same : ((inScope ns w.resources).filterMap RoleResource.ofJson?).filterMap
          RoleResource.declaration? = (inScope ns w.resources).filterMap declared? :=
        List.filterMap_filterMap ..
      rw [List.filterMap_map, Function.id_comp, same]
      exact ⟨_, rfl⟩
    · rw [if_neg readable, if_neg readable]
      exact ⟨_, rfl⟩

theorem told_ofResources (ns : Option String) (w : World) :
    (ofResources ns).told w = resourcesTold ns w := by
  obtain ⟨steps, ran⟩ := run_ofResources ns (w := { w with faults := {} }) rfl
  rw [told, ran]
  rfl

/-- A source that told its declarations met no fault. -/
theorem told_of_run_ofResources {ns : Option String} {w : World} {declarations : List Declaration}
    (ran : (w.run (ofResources ns).declarations).value = .ok declarations) :
    (ofResources ns).told w = .ok declarations := by
  cases fault : w.faults.declarations with
  | none =>
    obtain ⟨steps, same⟩ := run_ofResources ns fault
    rw [same] at ran
    rw [told_ofResources]
    exact ran
  | some detail =>
    rw [declarations_ofResources, resourceDeclarations] at ran
    split at ran
    · cases ran
    · have served : World.serve (.api { method := .get, path := { collection := .roles, ns } }) w =
          (.failed detail, w) := by
        simp only [World.serve, World.serveApi, fault]
      rw [World.run_bind_of_eq (World.run_request_of_eq served)] at ran
      cases ran

/-- A resource with a status reported to it, if it has the given key. -/
def patchIf (key : ObjectKey) (status : RoleStatus) (resource : Json) : Json :=
  if resourceKey? resource = some key then patchStatus (statusPatch status) resource else resource

/-- The patch of a status fails, or is made to the resource of its key. -/
theorem serve_reportRequest (w : World) (d : Declaration) (status : RoleStatus) :
    (∃ detail, World.serve (.api (reportRequest d status)) w = (.failed detail, w)) ∨
      ∃ body, World.serve (.api (reportRequest d status)) w = (.answered 200 (.json body),
        { w with resources := w.resources.map (patchIf d.key status) }) := by
  simp only [World.serve, World.serveApi, reportRequest, Option.getD_some]
  split
  · exact .inl ⟨_, rfl⟩
  · split
    · exact .inl ⟨_, rfl⟩
    · exact .inr ⟨_, rfl⟩

/-- Reporting a status to a resource fails and changes nothing, or patches the resource. -/
theorem run_reportToResource (w : World) (d : Declaration) (status : RoleStatus) :
    (∃ e steps, w.run (reportToResource d status) = ⟨.error e, w, steps⟩) ∨
      ∃ value steps, w.run (reportToResource d status) =
        ⟨value, { w with resources := w.resources.map (patchIf d.key status) }, steps⟩ := by
  unfold reportToResource
  dsimp only
  split
  · exact .inl ⟨_, _, rfl⟩
  · rcases serve_reportRequest w d status with ⟨detail, served⟩ | ⟨body, served⟩
    · have asked := World.run_request_of_eq served
      rw [reportRequest] at asked
      rw [World.run_bind_of_eq asked]
      exact .inl ⟨_, _, rfl⟩
    · have asked := World.run_request_of_eq served
      rw [reportRequest] at asked
      rw [World.run_bind_of_eq asked]
      cases (ApiReply.answered 200 (.json body)).read RoleResource.ofJson? with
      | error cause => exact .inr ⟨_, _, rfl⟩
      | ok resource => exact .inr ⟨_, _, rfl⟩

theorem isObject_of_resourceKey? {resource : Json} {key : ObjectKey}
    (keyed : resourceKey? resource = some key) : ∃ members, resource = .obj members := by
  cases resource <;> first | exact ⟨_, rfl⟩ | cases keyed

theorem patchIf_keys (key : ObjectKey) (status : RoleStatus) (resource : Json) :
    resourceKey? (patchIf key status resource) = resourceKey? resource ∧
      resourceNs? (patchIf key status resource) = resourceNs? resource := by
  unfold patchIf
  split
  · rename_i keyed
    obtain ⟨members, rfl⟩ := isObject_of_resourceKey? keyed
    exact resourceKey?_patchStatus status members
  · exact ⟨rfl, rfl⟩

theorem key_of_declared? {value : Json} (named : (resourceKey? value).isSome) {d : Declaration}
    (declares : declared? value = some d) : resourceKey? value = some d.key := by
  obtain ⟨own, keyed⟩ := Option.isSome_iff_exists.mp named
  obtain ⟨resource, read, declares⟩ := Option.bind_eq_some_iff.mp declares
  rw [keyed, RoleResource.key_of_declaration? keyed read declares]

/-- What a patched resource declares differs in the status. -/
theorem declared?_patchIf (key : ObjectKey) {status : RoleStatus} {value : Json}
    (named : (resourceKey? value).isSome) (readable : (RoleResource.ofJson? value).isSome)
    (word : Decimal.fitsInt64 status.generation = true)
    (inYears : status.expiration.HasFourDigitYear) :
    (RoleResource.ofJson? (patchIf key status value)).isSome ∧
      declared? (patchIf key status value) =
        (declared? value).map fun d => if d.key = key then { d with status := some status } else d := by
  obtain ⟨own, keyed⟩ := Option.isSome_iff_exists.mp named
  obtain ⟨resource, read⟩ := Option.isSome_iff_exists.mp readable
  obtain ⟨members, rfl⟩ := isObject_of_resourceKey? keyed
  have ownKey : ∀ d, resource.declaration? = some d → d.key = own :=
    fun d declares => RoleResource.key_of_declaration? keyed read declares
  unfold patchIf
  by_cases same : resourceKey? (.obj members) = some key
  · obtain rfl : own = key := Option.some.inj (keyed.symm.trans same)
    have patched := RoleResource.ofJson?_patchStatus read word inYears
    rw [if_pos same, patched]
    refine ⟨rfl, ?_⟩
    rw [declared?, patched, Option.bind_some, RoleResource.declaration?_status, declared?, read,
      Option.bind_some]
    cases declares : resource.declaration? with
    | none => rfl
    | some d => simp [ownKey d declares]
  · rw [if_neg same, read]
    refine ⟨rfl, ?_⟩
    rw [declared?, read, Option.bind_some]
    cases declares : resource.declaration? with
    | none => rfl
    | some d =>
      have differs : d.key ≠ key := fun equal => same (by rw [keyed, ← ownKey d declares, equal])
      simp [differs]

theorem inScope_map {patch : Json → Json}
    (same : ∀ resource, resourceNs? (patch resource) = resourceNs? resource) (ns : Option String)
    (resources : List Json) :
    inScope ns (resources.map patch) = (inScope ns resources).map patch := by
  cases ns with
  | none => rfl
  | some ns =>
    simp only [inScope, List.filter_map]
    refine congrArg (List.map patch) (List.filter_congr fun resource _ => ?_)
    rw [Function.comp, same]

theorem inScope_sublist (ns : Option String) (resources : List Json) :
    (inScope ns resources).Sublist resources := by
  cases ns with
  | none => exact List.Sublist.refl _
  | some ns => exact List.filter_sublist

/-- What the source of resources tells, in detail. -/
theorem told_ofResources_eq_ok {ns : Option String} {w : World} {declarations : List Declaration} :
    (ofResources ns).told w = .ok declarations ↔
      ApiPath.isValid { collection := .roles, ns } = true ∧
        (∀ value ∈ inScope ns w.resources, (RoleResource.ofJson? value).isSome) ∧
          (inScope ns w.resources).filterMap declared? = declarations := by
  rw [told_ofResources, resourcesTold, ← List.all_eq_true]
  cases ApiPath.isValid { collection := .roles, ns } <;>
    cases (inScope ns w.resources).all fun value => (RoleResource.ofJson? value).isSome <;> simp

/-- Once the resources of a key are patched, their status is told, and nothing else is new. -/
theorem told_patched {ns : Option String} {w : World} {declarations : List Declaration}
    (keyed : w.ResourcesKeyed) (told : (ofResources ns).told w = .ok declarations)
    (key : ObjectKey) {status : RoleStatus}
    (word : Decimal.fitsInt64 status.generation = true)
    (inYears : status.expiration.HasFourDigitYear) :
    (ofResources ns).told { w with resources := w.resources.map (patchIf key status) } =
      .ok (World.setStatus key status declarations) := by
  obtain ⟨valid, readable, rfl⟩ := told_ofResources_eq_ok.mp told
  have patched : ∀ value ∈ inScope ns w.resources, _ := fun value member =>
    declared?_patchIf key (keyed.named value ((inScope_sublist ns w.resources).subset member))
      (readable value member) word inYears
  have scope := inScope_map (fun value => (patchIf_keys key status value).2) ns w.resources
  refine told_ofResources_eq_ok.mpr ⟨valid, ?_, ?_⟩
  · intro value member
    dsimp only at member
    rw [scope] at member
    obtain ⟨before, inside, rfl⟩ := List.mem_map.mp member
    exact (patched before inside).1
  · dsimp only
    rw [scope, List.filterMap_map, World.setStatus, List.map_filterMap]
    exact List.filterMap_congr fun value member => (patched value member).2

theorem keys_patched (key : ObjectKey) (status : RoleStatus) (resources : List Json) :
    (resources.map (patchIf key status)).map resourceKey? = resources.map resourceKey? := by
  rw [List.map_map]
  exact List.map_congr_left fun value _ => (patchIf_keys key status value).1

theorem keyed_patched {w : World} (keyed : w.ResourcesKeyed) (key : ObjectKey)
    (status : RoleStatus) :
    World.ResourcesKeyed { w with resources := w.resources.map (patchIf key status) } where
  named value member := by
    obtain ⟨before, inside, rfl⟩ := List.mem_map.mp member
    rw [(patchIf_keys key status before).1]
    exact keyed.named before inside
  distinct := by
    rw [keys_patched]
    exact keyed.distinct

/-- Setting a status changes the declarations of one key, in their status. -/
theorem alike_setStatus (key : ObjectKey) (status : RoleStatus) (declarations : List Declaration) :
    Declaration.Alike [key] declarations (World.setStatus key status declarations) := by
  refine List.forall₂_map_right_iff.mpr (List.forall₂_same.mpr fun d _ => ?_)
  rw [List.mem_singleton]
  split
  · rename_i same
    exact ⟨rfl, fun differs => absurd same differs⟩
  · exact ⟨.refl d, fun _ => rfl⟩

theorem status_of_mem_setStatus {key : ObjectKey} {status : RoleStatus}
    {declarations : List Declaration} {d : Declaration}
    (member : d ∈ World.setStatus key status declarations) (same : d.key = key) :
    d.status = some status := by
  obtain ⟨before, -, rfl⟩ := List.mem_map.mp member
  split
  · rfl
  · rename_i differs
    rw [if_neg differs] at same
    exact absurd same differs

/-- Resources with keys of their own declare secrets with keys of their own. -/
theorem nodup_keys_of_resources {resources : List Json}
    (distinct : (resources.map resourceKey?).Nodup)
    (named : ∀ value ∈ resources, (resourceKey? value).isSome) :
    ((resources.filterMap declared?).map Declaration.key).Nodup := by
  induction resources with
  | nil => exact List.nodup_nil
  | cons value rest ih =>
    obtain ⟨apart, restDistinct⟩ := List.nodup_cons.mp distinct
    have later := ih restDistinct fun other member => named other (List.mem_cons_of_mem _ member)
    cases declares : declared? value with
    | none =>
      rw [List.filterMap_cons_none declares]
      exact later
    | some d =>
      rw [List.filterMap_cons_some declares, List.map_cons]
      refine List.nodup_cons.mpr ⟨fun inside => apart ?_, later⟩
      obtain ⟨e, member, same⟩ := List.mem_map.mp inside
      obtain ⟨other, inRest, declares'⟩ := List.mem_filterMap.mp member
      rw [key_of_declared? (named value (List.mem_cons_self ..)) declares, ← same,
        ← key_of_declared? (named other (List.mem_cons_of_mem _ inRest)) declares']
      exact List.mem_map_of_mem inRest

theorem mirrors_ofResources (ns : Option String) :
    (ofResources ns).Mirrors World.ResourcesKeyed where
  plain := plain_ofResources ns
  told_of_desired same := by
    rw [told_ofResources, told_ofResources, resourcesTold, resourcesTold, same.resources]
  order_of_desired same keyed := ⟨same.resources ▸ keyed.named, same.resources ▸ keyed.distinct⟩
  lookup faultless := by
    rw [told_ofResources]
    exact run_ofResources ns faultless
  told_of_run := told_of_run_ofResources
  taken := by
    intro w declarations told d member
    obtain ⟨-, -, rfl⟩ := told_ofResources_eq_ok.mp told
    obtain ⟨value, -, declares⟩ := List.mem_filterMap.mp member
    obtain ⟨resource, read, declares⟩ := Option.bind_eq_some_iff.mp declares
    exact ⟨takes_of_declaration? declares, RoleResource.hasWordGeneration read declares⟩
  single := by
    intro w declarations keyed told d member other member' twin
    obtain ⟨-, -, rfl⟩ := told_ofResources_eq_ok.mp told
    have distinct := nodup_keys_of_resources
      (keyed.distinct.sublist ((inScope_sublist ns w.resources).map _))
      fun value inside => keyed.named value ((inScope_sublist ns w.resources).subset inside)
    exact List.inj_on_of_nodup_map distinct member' member twin.key
  report := by
    intro w declarations d status keyed told word inYears
    rw [report_ofResources]
    rcases run_reportToResource w d status with ⟨e, steps, same⟩ | ⟨value, steps, same⟩
    · rw [same]
      exact ⟨keyed, declarations, told, .refl _ _, fun done => by cases done⟩
    · rw [same]
      refine ⟨keyed_patched keyed d.key status, _, told_patched keyed told d.key word inYears,
        alike_setStatus _ _ _, fun _ e member key _ => ?_⟩
      exact status_of_mem_setStatus member key

end Source

end RoleSecrets
