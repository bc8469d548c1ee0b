import RoleSecrets.Proofs.Faults
import RoleSecrets.Proofs.JsonText

/-! # The next listing tells what was reported

A source of resources is shown a resource under a key of its own. The report of a status patches this
resource and no other, and leaves all as it has to be for the next report. What is listed then is what
was listed before but for the one status. Apart from patches, a status is read back as it was written,
whichever parts of it are set.
-/

namespace RoleSecrets

open Json

namespace Json

/-- The members of an object that are set. -/
def setMembers (entries : List (String × Option Json)) : Members :=
  entries.filterMap fun (name, value) => value.map fun v => (name, v)

variable {entries : List (String × Option Json)}

theorem mem_setMembers {name : String} {value : Json} :
    (name, value) ∈ setMembers entries ↔ (name, some value) ∈ entries := by
  simp [setMembers, List.mem_filterMap]

theorem filter_setMembers (name : String) (entries : List (String × Option Json)) :
    (setMembers entries).filter (·.1 = name) = setMembers (entries.filter (·.1 = name)) := by
  induction entries with
  | nil => rfl
  | cons entry entries ih =>
    obtain ⟨other, value⟩ := entry
    rw [setMembers] at ih ⊢
    by_cases same : other = name <;> cases value <;> simp [same, ih, setMembers]

/-- An object whose names come up once is a record of them. -/
theorem record?_ofMembers {names : List String}
    (once : ∀ name ∈ names, ∃ value, entries.filter (·.1 = name) = [(name, value)]) :
    record? names (ofMembers entries) = some (setMembers entries) := by
  have none : (names.any fun name =>
      1 < ((setMembers entries).filter (·.1 = name)).length) = false := by
    rw [List.any_eq_false]
    intro name member
    obtain ⟨value, single⟩ := once name member
    rw [filter_setMembers, single]
    cases value <;> simp [setMembers]
  rw [show ofMembers entries = .obj (setMembers entries) from rfl, record?, none]
  rfl

/-- A member that comes up once is read back, if it is set, and missing otherwise. -/
theorem Members.optional?_setMembers {α : Type} {write : α → Json} {read? : Json → Option α}
    {name : String} {value : Option α}
    (once : entries.filter (·.1 = name) = [(name, value.map write)])
    (back : ∀ a ∈ value, write a ≠ .null ∧ read? (write a) = some a) :
    optional? (setMembers entries) name read? = some value := by
  rw [optional?, filter_setMembers, once]
  cases value with
  | none => rfl
  | some a =>
    obtain ⟨set, read⟩ := back a rfl
    have members : setMembers [(name, (some a).map write)] = [(name, write a)] := rfl
    rw [members]
    cases written : write a <;> first | exact absurd written set | simp [← written, read]

end Json

section Names

/-- Whether a character can stand in the name of an object: lower-case letters, digits, hyphens and
points can. -/
def isObjectNameChar (c : Char) : Bool := c.isLower || c.isDigit || c = '-' || c = '.'

/-- Whether objects of the cluster can have a name. -/
def IsObjectName (name : String) : Prop :=
  name ≠ "" ∧ name.toList.all isObjectNameChar = true

theorem isPathChar_of_isObjectNameChar {c : Char} (isName : isObjectNameChar c = true) :
    isPathChar c = true := by
  simp only [isObjectNameChar, Bool.or_eq_true, decide_eq_true_eq, or_assoc] at isName
  rcases isName with lower | digit | rfl | rfl
  · have bounds : (decide (97 ≤ c.val) && decide (c.val ≤ 122)) = true := lower
    have code : 97 ≤ c.toNat ∧ c.toNat ≤ 122 := by
      simpa [UInt32.le_iff_toNat_le] using bounds
    simp only [isPathChar, Bool.or_eq_true, Bool.and_eq_true, decide_eq_true_eq]
    omega
  · have code := Decimal.toNat_of_isDigit digit
    simp only [isPathChar, Bool.or_eq_true, Bool.and_eq_true, decide_eq_true_eq]
    omega
  · decide
  · decide

theorem isPathChar_of_isObjectName {name : String} (isName : IsObjectName name) :
    name.toList.all isPathChar = true :=
  List.all_eq_true.mpr fun c member =>
    isPathChar_of_isObjectNameChar (List.all_eq_true.mp isName.2 c member)

/-- A request can be made for the objects of any namespace there can be, and for each of them. -/
theorem ApiPath.isValid_of_names {path : ApiPath} (ns : ∀ ns ∈ path.ns, IsObjectName ns)
    (name : ∀ name ∈ path.name, IsObjectName name) : path.isValid = true := by
  have nonempty : path.name ≠ some "" := fun same => (name "" same).1 rfl
  rw [isValid, Bool.and_eq_true, decide_eq_true_eq]
  refine ⟨nonempty, ?_⟩
  have collection : path.collection.path.1.toList.all isPathChar = true ∧
      path.collection.path.2.toList.all isPathChar = true := by
    cases path.collection <;> decide
  have ending : (if path.ofStatus then "/status" else "").toList.all isPathChar = true := by
    split <;> decide
  have slash : "/".toList.all isPathChar = true := by decide
  simp only [text, String.toList_append, List.all_append, Bool.and_eq_true, collection, ending, slash,
    true_and, and_true]
  constructor
  · split
    · rename_i ns' same
      rw [String.toList_append, List.all_append, isPathChar_of_isObjectName (ns ns' same)]
      rfl
    · rfl
  · split
    · rename_i name' same
      rw [String.toList_append, List.all_append, isPathChar_of_isObjectName (name name' same)]
      rfl
    · rfl

end Names

theorem ApiReply.read_answered {α : Type} {read? : Json → Option α} {value : Json} {a : α}
    (read : read? value = some a) : (answered 200 (.json value)).read read? = .ok a := by
  have body : (answered 200 (.json value)).body = .ok (.json value) := rfl
  rw [ApiReply.read, body]
  simp only [bind, Except.bind, ApiBody.json?, Option.bind_some, read]

section Status

/-- Whether a status can be written: its generation is a signed word of 64 bits, and it expires in a
year of four digits. -/
structure ResourceStatus.IsWritable (status : ResourceStatus) : Prop where
  word : ∀ generation ∈ status.generation, Decimal.fitsInt64 generation = true
  inYears : ∀ expiration ∈ status.expiration, expiration.HasFourDigitYear

/-- The members of a status as JSON, set or not. -/
def ResourceStatus.entries (status : ResourceStatus) : List (String × Option Json) :=
  [("observedGeneration", status.generation.map .int), ("roleARN", status.roleArn.map .str),
    ("expiration", status.expiration.map fun t => .str (Rfc3339.formatExact t))]

theorem ResourceStatus.fits_toJson {status : ResourceStatus} (writable : status.IsWritable) :
    status.toJson.Fits maxDepth := by
  change status.toJson.Fits (126 + 1)
  refine .obj fun member inside => ?_
  have set : (member.1, some member.2) ∈ status.entries := mem_setMembers.mp inside
  simp only [entries, List.mem_cons, List.not_mem_nil, or_false, Prod.mk.injEq] at set
  rcases set with ⟨-, same⟩ | ⟨-, same⟩ | ⟨-, same⟩ <;>
    obtain ⟨part, isSet, written⟩ := Option.map_eq_some_iff.mp same.symm <;> rw [← written]
  · exact .int (by rw [isWord, writable.word part isSet, Bool.true_or])
  · exact .str
  · exact .str

/-- Whichever parts of a status are set, as JSON they are read back, and no others. -/
theorem ResourceStatus.ofJson?_toJson {status : ResourceStatus} (writable : status.IsWritable) :
    ResourceStatus.ofJson? status.toJson = some status := by
  have record : record? ["observedGeneration", "roleARN", "expiration"] status.toJson =
      some (setMembers status.entries) := by
    refine record?_ofMembers fun name member => ?_
    simp only [List.mem_cons, List.not_mem_nil, or_false] at member
    rcases member with rfl | rfl | rfl <;> exact ⟨_, rfl⟩
  have generation : (setMembers status.entries).optional? "observedGeneration" int64? =
      some status.generation :=
    Members.optional?_setMembers rfl fun n isSet => ⟨nofun, if_pos (writable.word n isSet)⟩
  have roleArn : (setMembers status.entries).optional? "roleARN" str? = some status.roleArn :=
    Members.optional?_setMembers rfl fun _ _ => ⟨nofun, rfl⟩
  have expiration : (setMembers status.entries).optional? "expiration"
      (fun v => v.str?.bind Relaxed.parse?) = some status.expiration :=
    Members.optional?_setMembers rfl fun t isSet => ⟨nofun, by
      rw [str?, Option.bind_some, Relaxed.parse?_formatExact (writable.inYears t isSet)]⟩
  rw [ofJson?, record]
  simp only [Option.bind_eq_bind, Option.bind_some, generation, roleArn, expiration]
  rfl

theorem ResourceStatus.complete?_eq_none_iff {status : ResourceStatus} :
    status.complete? = none ↔
      status.generation = none ∨ status.roleArn = none ∨ status.expiration = none := by
  obtain ⟨generation, roleArn, expiration⟩ := status
  cases generation <;> cases roleArn <;> cases expiration <;> simp [complete?]

/-- A declaration has no status where a part of the resource's is unset, or all of it. -/
theorem RoleResource.status_of_declaration? {resource : RoleResource} {d : Declaration}
    (declares : resource.declaration? = some d) :
    d.status = none ↔ ∀ status, resource.status = some status →
      status.generation = none ∨ status.roleArn = none ∨ status.expiration = none := by
  simp only [declaration?, Option.bind_eq_bind, Option.bind_eq_some_iff] at declares
  obtain ⟨_, -, _, -, _, -, same⟩ := declares
  obtain rfl := Option.some.inj same
  simp only [Option.bind_eq_none_iff, ResourceStatus.complete?_eq_none_iff]

theorem RoleResource.declaration?_of_names {resource : RoleResource} {ns name : String}
    (hasNs : resource.metadata.ns = some ns) (hasName : resource.metadata.name = some name)
    (identified : resource.metadata.uid ≠ none) : ∃ d, resource.declaration? = some d := by
  obtain ⟨uid, hasUid⟩ := Option.ne_none_iff_exists'.mp identified
  simp only [declaration?, hasNs, hasName, hasUid, Option.bind_eq_bind, Option.bind_some]
  exact ⟨_, rfl⟩

end Status

/-- Whether a source of resources is shown a resource that it can report on: neither the listing nor
the report fails, all resources can be read, and this one has an identifier, and a key that no other
has. -/
structure World.Shows (w : World) (scope : Option String) (key : ObjectKey)
    (resource : RoleResource) : Prop where
  listed : w.faults.declarations = none
  reported : w.faults.report.get? key.text = none
  readable : ∀ value ∈ w.resources, (RoleResource.ofJson? value).isSome
  only : ∃ value, w.resources.filter (fun other => resourceKey? other = some key) = [value] ∧
    RoleResource.ofJson? value = some resource
  covered : scope = none ∨ scope = some key.ns
  identified : resource.metadata.uid ≠ none
  ns : IsObjectName key.ns
  name : IsObjectName key.name

namespace Source

variable {scope : Option String} {key : ObjectKey} {resource : RoleResource}

theorem resourceNs?_of_resourceKey? {value : Json} (keyed : resourceKey? value = some key) :
    resourceNs? value = some key.ns := by
  simp only [resourceKey?, Option.bind_eq_bind, Option.bind_eq_some_iff] at keyed
  obtain ⟨ns, hasNs, _, -, _, -, _, -, same⟩ := keyed
  rw [hasNs, ← Option.some.inj same]

theorem inScope_append (scope : Option String) (front back : List Json) :
    inScope scope (front ++ back) = inScope scope front ++ inScope scope back := by
  cases scope with
  | none => rfl
  | some ns => exact List.filter_append ..

theorem map_patchIf_of_ne {resources : List Json}
    (others : ∀ other ∈ resources, resourceKey? other ≠ some key) (status : RoleStatus) :
    resources.map (patchIf key status) = resources :=
  (List.map_congr_left fun other member => if_neg (others other member)).trans (List.map_id _)

theorem filter_map_patchIf (key other : ObjectKey) (status : RoleStatus) (resources : List Json) :
    (resources.map (patchIf other status)).filter (fun value => resourceKey? value = some key) =
      (resources.filter fun value => resourceKey? value = some key).map (patchIf other status) := by
  rw [List.filter_map]
  exact congrArg _ (List.filter_congr fun value _ => by
    rw [Function.comp, (patchIf_keys other status value).1])

end Source

namespace World.Shows

open Source

variable {w : World} {scope : Option String} {key : ObjectKey} {resource : RoleResource}
  (shown : w.Shows scope key resource)

include shown

/-- The resource is an object with the key. -/
theorem only_obj : ∃ members, w.resources.filter (fun other => resourceKey? other = some key) =
      [.obj members] ∧ resourceKey? (.obj members) = some key ∧
    RoleResource.ofJson? (.obj members) = some resource := by
  obtain ⟨value, only, read⟩ := shown.only
  have inside : value ∈ w.resources.filter (fun other => resourceKey? other = some key) := by
    rw [only]
    exact List.mem_singleton_self value
  have keyed : resourceKey? value = some key := of_decide_eq_true (List.mem_filter.mp inside).2
  obtain ⟨members, rfl⟩ := isObject_of_resourceKey? keyed
  exact ⟨members, only, keyed, read⟩

theorem split : ∃ front members back, w.resources = front ++ .obj members :: back ∧
    (∀ other ∈ front ++ back, resourceKey? other ≠ some key) ∧
      resourceKey? (.obj members) = some key ∧
        RoleResource.ofJson? (.obj members) = some resource := by
  obtain ⟨members, only, keyed, read⟩ := shown.only_obj
  obtain ⟨front, back, split, before, -, after⟩ := List.filter_eq_cons_iff.mp only
  refine ⟨front, members, back, split, fun other member => ?_, keyed, read⟩
  rcases List.mem_append.mp member with inside | inside
  · simpa using before other inside
  · simpa using List.filter_eq_nil_iff.mp after other inside

theorem declares : ∃ d, resource.declaration? = some d ∧ d.key = key := by
  obtain ⟨members, -, keyed, read⟩ := shown.only_obj
  obtain ⟨ns, name⟩ := RoleResource.names_of_resourceKey? keyed read
  obtain ⟨d, declares⟩ := RoleResource.declaration?_of_names ns name shown.identified
  exact ⟨d, declares, RoleResource.key_of_declaration? keyed read declares⟩

/-- The report of a status patches the resource. -/
theorem run_report {d : Declaration} (own : d.key = key) {status : RoleStatus}
    (word : Decimal.fitsInt64 status.generation = true)
    (inYears : status.expiration.HasFourDigitYear) :
    ∃ steps, w.run (reportToResource d status) =
      ⟨.ok (), { w with resources := w.resources.map (patchIf key status) }, steps⟩ := by
  subst own
  obtain ⟨members, only, keyed, read⟩ := shown.only_obj
  have found : w.resources.find? (fun other => resourceKey? other = some d.key) =
      some (.obj members) := by
    rw [← List.head?_filter, only, List.head?_cons]
  have served : World.serve (.api (reportRequest d status)) w =
      (.answered 200 (.json (patchStatus (statusPatch status) (.obj members))),
        { w with resources := w.resources.map (patchIf d.key status) }) := by
    rw [serve_reportRequest_eq, shown.reported]
    dsimp only
    rw [found]
  have valid : (reportRequest d status).path.isValid = true :=
    ApiPath.isValid_of_names (fun ns same => Option.some.inj same ▸ shown.ns)
      (fun name same => Option.some.inj same ▸ shown.name)
  have asked := World.run_request_of_eq served
  rw [reportRequest] at asked valid
  dsimp only at valid
  unfold reportToResource
  simp only [valid, Bool.not_true, Bool.false_eq_true, if_false]
  rw [World.run_bind_of_eq asked,
    ApiReply.read_answered (RoleResource.ofJson?_patchStatus read word inYears)]
  exact ⟨_, rfl⟩

/-- What the resource declares is told in its place. -/
theorem told {front back : List Json} {value : Json} (split : w.resources = front ++ value :: back)
    (keyed : resourceKey? value = some key) (read : RoleResource.ofJson? value = some resource)
    {d : Declaration} (declares : resource.declaration? = some d) :
    (ofResources scope).told w = .ok ((inScope scope front).filterMap declared? ++
      d :: (inScope scope back).filterMap declared?) := by
  have listing : ApiPath.isValid { collection := .roles, ns := scope } = true := by
    refine ApiPath.isValid_of_names (fun ns same => ?_) nofun
    rcases shown.covered with all | only
    · cases all.symm.trans same
    · exact Option.some.inj (only.symm.trans same) ▸ shown.ns
  have visible : inScope scope (value :: back) = value :: inScope scope back := by
    rcases shown.covered with rfl | rfl
    · rfl
    · have visible := resourceNs?_of_resourceKey? keyed
      rw [Source.inScope, List.filter_cons_of_pos (by simpa using visible)]
      rfl
  have declared : declared? value = some d := by
    rw [declared?, read, Option.bind_some, declares]
  refine told_ofResources_eq_ok.mpr ⟨listing, fun other member => ?_, ?_⟩
  · exact shown.readable other ((inScope_sublist scope w.resources).subset member)
  · rw [split, inScope_append, visible, List.filterMap_append, List.filterMap_cons_some declared]

theorem readable_patched (other : ObjectKey) {status : RoleStatus}
    (word : Decimal.fitsInt64 status.generation = true)
    (inYears : status.expiration.HasFourDigitYear) :
    ∀ value ∈ w.resources.map (patchIf other status), (RoleResource.ofJson? value).isSome := by
  intro value member
  obtain ⟨before, inside, rfl⟩ := List.mem_map.mp member
  obtain ⟨read, reads⟩ := Option.isSome_iff_exists.mp (shown.readable before inside)
  unfold patchIf
  split
  · rename_i keyed
    obtain ⟨members, rfl⟩ := isObject_of_resourceKey? keyed
    rw [RoleResource.ofJson?_patchStatus reads word inYears]
    rfl
  · rw [reads]
    rfl

/-- A report leaves everything as it has to be for the next one. -/
theorem patched {status : RoleStatus} (word : Decimal.fitsInt64 status.generation = true)
    (inYears : status.expiration.HasFourDigitYear) :
    World.Shows { w with resources := w.resources.map (patchIf key status) } scope key
      { resource with status := some status.toResource } where
  listed := shown.listed
  reported := shown.reported
  readable := shown.readable_patched key word inYears
  only := by
    obtain ⟨members, only, keyed, read⟩ := shown.only_obj
    refine ⟨patchStatus (statusPatch status) (.obj members), ?_,
      RoleResource.ofJson?_patchStatus read word inYears⟩
    rw [filter_map_patchIf, only, List.map_singleton, patchIf, if_pos keyed]
  covered := shown.covered
  identified := shown.identified
  ns := shown.ns
  name := shown.name

/-- So does a report about another resource. -/
theorem patched_of_ne {other : ObjectKey} (differs : other ≠ key) {status : RoleStatus}
    (word : Decimal.fitsInt64 status.generation = true)
    (inYears : status.expiration.HasFourDigitYear) :
    World.Shows { w with resources := w.resources.map (patchIf other status) } scope key
      resource where
  listed := shown.listed
  reported := shown.reported
  readable := shown.readable_patched other word inYears
  only := by
    obtain ⟨members, only, keyed, read⟩ := shown.only_obj
    refine ⟨.obj members, ?_, read⟩
    have apart : resourceKey? (.obj members) ≠ some other :=
      fun same => differs (Option.some.inj (same.symm.trans keyed))
    rw [filter_map_patchIf, only, List.map_singleton, patchIf, if_neg apart]
  covered := shown.covered
  identified := shown.identified
  ns := shown.ns
  name := shown.name

/-- What is told after a report differs in the status of the one resource. -/
theorem told_patched {d : Declaration} (declares : resource.declaration? = some d)
    {status : RoleStatus} (word : Decimal.fitsInt64 status.generation = true)
    (inYears : status.expiration.HasFourDigitYear) :
    ∃ before after, (ofResources scope).told w = .ok (before ++ d :: after) ∧
      (ofResources scope).told { w with resources := w.resources.map (patchIf key status) } =
        .ok (before ++ { d with status := some status } :: after) := by
  obtain ⟨front, members, back, split, others, keyed, read⟩ := shown.split
  obtain ⟨inFront, inBack⟩ := List.forall_mem_append.mp others
  have resources : w.resources.map (patchIf key status) =
      front ++ patchStatus (statusPatch status) (.obj members) :: back := by
    rw [split, List.map_append, List.map_cons, map_patchIf_of_ne inFront, map_patchIf_of_ne inBack,
      patchIf, if_pos keyed]
  refine ⟨_, _, shown.told split keyed read declares,
    (shown.patched word inYears).told resources ?_
      (RoleResource.ofJson?_patchStatus read word inYears) ?_⟩
  · exact (resourceKey?_patchStatus status members).1.trans keyed
  · rw [RoleResource.declaration?_status, declares, Option.map_some]

end World.Shows

namespace Source

/-- A status that is reported for a resource is what the next listing tells of it. Of its declaration
nothing else has changed, nor have any others. Any status is read back as it was written, whichever
parts of it are set, and only one with all its parts is a declaration's. -/
theorem reported_status_is_told :
    (∀ (w : World) (scope : Option String) (key : ObjectKey) (resource : RoleResource),
      w.Shows scope key resource → ∀ (generation : Int) (roleArn : String) (expiration : Timestamp),
        Decimal.fitsInt64 generation = true → expiration.HasFourDigitYear →
          ∃ d before after reported steps, resource.declaration? = some d ∧ d.key = key ∧
            (w.run (ofResources scope).declarations).value = .ok (before ++ d :: after) ∧
            w.run ((ofResources scope).report d (.of generation roleArn expiration)) =
              ⟨.ok (), reported, steps⟩ ∧
            (reported.run (ofResources scope).declarations).value =
              .ok (before ++ { d with status := some (.of generation roleArn expiration) } :: after)) ∧
    (∀ status : ResourceStatus, status.IsWritable →
      (Json.parse? status.toJson.write).bind ResourceStatus.ofJson? = some status) ∧
    (∀ (resource : RoleResource) (ns name uid : String), resource.metadata.ns = some ns →
      resource.metadata.name = some name → resource.metadata.uid = some uid →
        ∃ d, resource.declaration? = some d ∧ (d.status = none ↔
          ∀ status, resource.status = some status →
            status.generation = none ∨ status.roleArn = none ∨ status.expiration = none)) := by
  refine ⟨?_, ?_, ?_⟩
  · intro w scope key resource shown generation roleArn expiration word inYears
    obtain ⟨d, declares, own⟩ := shown.declares
    have word : Decimal.fitsInt64 (RoleStatus.of generation roleArn expiration).generation = true :=
      word
    obtain ⟨steps, ran⟩ := shown.run_report own word inYears
    rw [← report_ofResources scope] at ran
    obtain ⟨before, after, told, toldNext⟩ := shown.told_patched declares word inYears
    obtain ⟨_, listed⟩ := (mirrors_ofResources scope).lookup shown.listed
    obtain ⟨_, listedNext⟩ := (mirrors_ofResources scope).lookup (shown.patched word inYears).listed
    refine ⟨d, before, after, _, steps, declares, own, ?_, ran, ?_⟩
    · rw [listed, told]
    · rw [listedNext, toldNext]
  · intro status writable
    rw [parse?_write (ResourceStatus.fits_toJson writable), Option.bind_some,
      ResourceStatus.ofJson?_toJson writable]
  · intro resource ns name uid hasNs hasName hasUid
    obtain ⟨d, declares⟩ :=
      RoleResource.declaration?_of_names hasNs hasName (by rw [hasUid]; exact nofun)
    exact ⟨d, declares, RoleResource.status_of_declaration? declares⟩

private def namedResource (name : String) (status : Json) : Json :=
  .obj [("apiVersion", .str "zalando.org/v1"), ("kind", .str "AWSIAMRole"),
    ("metadata", .obj [("name", .str name), ("namespace", .str "apps"), ("uid", .str "u-1")]),
    ("spec", .obj [("roleReference", .str name)]), ("status", status)]

/-- Two resources: one has no status yet, and the other a part of one. -/
private def twoResources : World where
  resources := [namedResource "writer" .null,
    namedResource "reader" (.obj [("roleARN", .str "arn:aws:iam::1:role/old")])]
  expiration := .epoch

theorem reported_status_is_told_two : (∃ d told reported steps,
      twoResources.run ((ofResources (some "apps")).report d (.of 7 "arn" .epoch)) =
        ⟨.ok (), reported, steps⟩ ∧
      (reported.run (ofResources (some "apps")).declarations).value = .ok told ∧
      { d with status := some (.of 7 "arn" .epoch) } ∈ told) ∧
    (Json.parse? (ResourceStatus.toJson { roleArn := some "a\nb" }).write).bind
      ResourceStatus.ofJson? = some { roleArn := some "a\nb" } := by
  have shown : twoResources.Shows (some "apps") ⟨"apps", "reader"⟩
      ⟨{ name := some "reader", ns := some "apps", uid := some "u-1" }, { role := "reader" },
        some { roleArn := some "arn:aws:iam::1:role/old" }⟩ := by
    refine ⟨rfl, rfl, ?_, ⟨_, rfl, rfl⟩, .inr rfl, Option.some_ne_none _, ⟨by decide, by decide⟩,
      ⟨by decide, by decide⟩⟩
    intro value member
    rcases List.mem_cons.mp member with rfl | member
    · rfl
    · rw [List.mem_singleton.mp member]
      rfl
  obtain ⟨reports, reads, -⟩ := reported_status_is_told
  obtain ⟨d, before, after, reported, steps, -, -, -, ran, listed⟩ :=
    reports _ _ _ _ shown 7 "arn" .epoch (by decide) (by decide)
  have writable : ResourceStatus.IsWritable { roleArn := some "a\nb" } := ⟨by simp, by simp⟩
  exact ⟨⟨d, _, reported, steps, ran, listed, List.mem_append_right _ List.mem_cons_self⟩,
    reads _ writable⟩

end Source

end RoleSecrets
