import Mathlib.Data.List.Basic
import RoleSecrets.Proofs.SecretData
import RoleSecrets.Source
import RoleSecrets.World

/-! # A reported status is read back

The patch that reports a status is merged into the resource it concerns. Of the resource's members
only the status changes, whatever it was before, and what the resource is then read as has exactly
the reported status. So its declaration changes in its status alone.
-/

namespace RoleSecrets

namespace Json

/-- The members of an object with a value in the place of all those of a name. -/
def assign (name : String) (value : Json) (members : Members) : Members :=
  without name members ++ [(name, value)]

variable {name other : String} {value : Json} {members : Members}

theorem filter_assign_self (name : String) (value : Json) (members : Members) :
    (assign name value members).filter (·.1 = name) = [(name, value)] := by
  simp [assign, without, List.filter_filter]

theorem filter_assign_of_ne (differs : other ≠ name) (value : Json) (members : Members) :
    (assign name value members).filter (·.1 = other) = members.filter (·.1 = other) := by
  simp only [assign, without, List.filter_append, List.filter_filter]
  rw [List.filter_cons_of_neg (by simpa using differs.symm), List.filter_nil, List.append_nil]
  refine List.filter_congr fun member _ => ?_
  by_cases same : member.1 = other
  · simp [same, differs]
  · simp [same]

/-- The last member of a name is found among those of the name. -/
theorem get?_eq_getLast? (name : String) (members : Members) :
    (obj members).get? name = ((members.filter (·.1 = name)).getLast?).map (·.2) := by
  rw [get?, List.getLast?_eq_head?_reverse, ← List.filter_reverse, List.head?_filter]

theorem get?_assign_of_ne (differs : other ≠ name) (value : Json) (members : Members) :
    (obj (assign name value members)).get? other = (obj members).get? other := by
  rw [get?_eq_getLast?, get?_eq_getLast?, filter_assign_of_ne differs]

theorem mergeMembers_cons {patch : Json} (set : patch ≠ .null) (name : String) (members : Members)
    (changes : Members) :
    mergeMembers members ((name, patch) :: changes) =
      mergeMembers (assign name (merge (((obj members).get? name).getD .null) patch) members)
        changes := by
  cases patch <;> first | rfl | exact absurd rfl set

namespace Members

variable {α : Type} {read? : Json → Option α}

theorem optional?_assign_self (set : value ≠ .null) (members : Members) :
    optional? (assign name value members) name read? = (read? value).map some := by
  rw [optional?, filter_assign_self]
  cases value <;> first | exact absurd rfl set | simp

theorem optional?_assign_of_ne (differs : other ≠ name) (value : Json) (members : Members) :
    optional? (assign name value members) other read? = optional? members other read? := by
  rw [optional?, filter_assign_of_ne differs, optional?]

theorem required?_assign_of_ne (differs : other ≠ name) (value : Json) (members : Members) :
    required? (assign name value members) other read? = required? members other read? := by
  rw [required?, filter_assign_of_ne differs, required?]

/-- Of members that must be there the last counts. -/
theorem get?_of_required? {a : α} (read : members.required? name read? = some a) :
    ∃ value, (obj members).get? name = some value ∧ read? value = some a := by
  rw [get?_eq_getLast?]
  rw [required?] at read
  generalize members.filter (·.1 = name) = found at read ⊢
  obtain ⟨values, mapped, last⟩ := Option.bind_eq_some_iff.mp read
  rcases List.eq_nil_or_concat found with rfl | ⟨rest, final, rfl⟩
  · cases mapped
    cases last
  · rw [List.concat_eq_append, List.mapM_append] at mapped
    obtain ⟨early, -, mapped⟩ := Option.bind_eq_some_iff.mp mapped
    obtain ⟨late, single, same⟩ := Option.bind_eq_some_iff.mp mapped
    obtain rfl : early ++ late = values := Option.some.inj same
    obtain ⟨label, value⟩ := final
    simp only [List.mapM_cons, List.mapM_nil] at single
    obtain ⟨b, reads, single⟩ := Option.bind_eq_some_iff.mp single
    obtain rfl : [b] = late := Option.some.inj single
    rw [List.getLast?_concat, Option.some.injEq] at last
    subst last
    exact ⟨value, by rw [List.concat_eq_append, List.getLast?_concat]; rfl, reads⟩

/-- Of optional members the last counts. -/
theorem optional?_of_get? {found : Option α} (got : (obj members).get? name = some value)
    (set : value ≠ .null) (read : members.optional? name read? = some found) :
    (read? value).map some = some found := by
  rw [get?_eq_getLast?] at got
  rw [optional?] at read
  generalize members.filter (·.1 = name) = entries at got read
  rcases List.eq_nil_or_concat entries with rfl | ⟨rest, final, rfl⟩
  · cases got
  · rw [List.concat_eq_append, List.getLast?_concat, Option.map_some, Option.some.injEq] at got
    subst got
    rw [List.concat_eq_append, List.foldlM_append] at read
    obtain ⟨early, -, last⟩ := Option.bind_eq_some_iff.mp read
    obtain ⟨name, value⟩ := final
    simp only [List.foldlM_cons, List.foldlM_nil] at last
    cases value <;> first | exact absurd rfl set | simpa using last

theorem read_of_optional? {a : α} (read : members.optional? name read? = some (some a)) :
    ∃ value, read? value = some a := by
  rw [optional?] at read
  generalize members.filter (·.1 = name) = entries at read
  rcases List.eq_nil_or_concat entries with rfl | ⟨rest, final, rfl⟩
  · cases read
  · rw [List.concat_eq_append, List.foldlM_append] at read
    obtain ⟨early, -, last⟩ := Option.bind_eq_some_iff.mp read
    obtain ⟨name, value⟩ := final
    simp only [List.foldlM_cons, List.foldlM_nil] at last
    cases value <;> first | cases last | exact ⟨_, by simpa using last⟩

end Members

/-- Assigning a member leaves a record one, and makes one where all other names are given once. -/
theorem record?_assign {names : List String} (value : Json)
    (once : ∀ other ∈ names, other ≠ name → (members.filter (·.1 = other)).length ≤ 1) :
    record? names (.obj (assign name value members)) = some (assign name value members) := by
  have none : (names.any fun other =>
      1 < ((assign name value members).filter (·.1 = other)).length) = false := by
    rw [List.any_eq_false]
    intro other member
    rw [decide_eq_true_eq, Nat.not_lt]
    by_cases same : other = name
    · rw [same, filter_assign_self, List.length_singleton]
    · rw [filter_assign_of_ne same]
      exact once other member same
  rw [record?, none]
  rfl

theorem once_of_record? {names : List String} {read : Members}
    (record : record? names (.obj members) = some read) :
    read = members ∧ ∀ other ∈ names, (members.filter (·.1 = other)).length ≤ 1 := by
  rw [record?] at record
  split at record
  · cases record
  · rename_i none
    refine ⟨(Option.some.inj record).symm, fun other member => ?_⟩
    by_contra more
    exact none (List.any_eq_true.mpr ⟨other, member, by simpa using more⟩)

end Json

open Json

/-- A complete status is what is read of all its parts. -/
theorem RoleStatus.complete?_toResource (status : RoleStatus) :
    status.toResource.complete? = some status := by
  obtain ⟨generation, roleArn, expiration, whole⟩ := status
  have same : expiration.wholeSeconds = expiration := by
    ext
    · rfl
    · exact whole.symm
  change some (RoleStatus.of generation roleArn expiration) = _
  simp only [RoleStatus.of, same]

/-- Merged into any value, a status is read back. -/
theorem ResourceStatus.ofJson?_merge (old : Json) {status : RoleStatus}
    (word : Decimal.fitsInt64 status.generation = true)
    (inYears : status.expiration.HasFourDigitYear) :
    ResourceStatus.ofJson? (old.merge status.toResource.toJson) = some status.toResource := by
  have written : old.merge status.toResource.toJson =
      .obj (assign "expiration" (.str (Rfc3339.formatExact status.expiration))
        (assign "roleARN" (.str status.roleArn)
          (assign "observedGeneration" (.int status.generation) (old.members?.getD [])))) := by
    change old.merge (.obj [("observedGeneration", .int status.generation),
      ("roleARN", .str status.roleArn),
      ("expiration", .str (Rfc3339.formatExact status.expiration))]) = _
    rw [merge, mergeMembers_cons (by simp), mergeMembers_cons (by simp), mergeMembers_cons (by simp)]
    rfl
  generalize old.members?.getD [] = members at written
  have once : ∀ other ∈ ["observedGeneration", "roleARN", "expiration"], other ≠ "expiration" →
      ((assign "roleARN" (.str status.roleArn) (assign "observedGeneration" (.int status.generation)
        members)).filter (·.1 = other)).length ≤ 1 := by
    intro other member differs
    simp only [List.mem_cons, List.not_mem_nil, or_false] at member
    rcases member with rfl | rfl | rfl
    · rw [filter_assign_of_ne (by decide), filter_assign_self, List.length_singleton]
    · rw [filter_assign_self, List.length_singleton]
    · exact absurd rfl differs
  rw [written, ResourceStatus.ofJson?, record?_assign _ once]
  simp only [Option.bind_eq_bind, Option.bind_some]
  rw [Members.optional?_assign_of_ne (by decide), Members.optional?_assign_of_ne (by decide),
    Members.optional?_assign_self (by simp), Members.optional?_assign_of_ne (by decide),
    Members.optional?_assign_self (by simp), Members.optional?_assign_self (by simp)]
  have text : ∀ content, (str content).str? = some content := fun _ => rfl
  simp only [int64?, word, if_true, text, Option.map_some, Option.bind_some,
    Relaxed.parse?_formatExact inYears]
  rfl

/-- The patch of a status puts it, merged with the old one, in the place of this. -/
theorem patchStatus_obj (status : RoleStatus) (members : Members) :
    patchStatus (Source.statusPatch status) (.obj members) =
      .obj (assign "status" (merge (((obj members).get? "status").getD .null)
        status.toResource.toJson) members) := by
  have found : (Source.statusPatch status).get? "status" = some status.toResource.toJson := rfl
  have set : status.toResource.toJson ≠ .null := by
    rw [ResourceStatus.toJson, ofMembers]
    exact fun same => by cases same
  rw [patchStatus, found]
  dsimp only
  rw [merge, mergeMembers_cons set]
  rfl

/-- A patched resource is the resource with the reported status. -/
theorem RoleResource.ofJson?_patchStatus {members : Members} {resource : RoleResource}
    (read : RoleResource.ofJson? (.obj members) = some resource) {status : RoleStatus}
    (word : Decimal.fitsInt64 status.generation = true)
    (inYears : status.expiration.HasFourDigitYear) :
    RoleResource.ofJson? (patchStatus (Source.statusPatch status) (.obj members)) =
      some { resource with status := some status.toResource } := by
  rw [patchStatus_obj]
  generalize ((obj members).get? "status").getD .null = old
  simp only [RoleResource.ofJson?, Option.bind_eq_bind] at read ⊢
  obtain ⟨found, record, rest⟩ := Option.bind_eq_some_iff.mp read
  obtain ⟨same, once⟩ := once_of_record? record
  subst same
  rw [record?_assign _ fun other member _ => once other member, Option.bind_some]
  obtain ⟨apiVersion, hasVersion, rest⟩ := Option.bind_eq_some_iff.mp rest
  obtain ⟨kind, hasKind, rest⟩ := Option.bind_eq_some_iff.mp rest
  obtain ⟨metadata, hasMetadata, rest⟩ := Option.bind_eq_some_iff.mp rest
  obtain ⟨spec, hasSpec, rest⟩ := Option.bind_eq_some_iff.mp rest
  obtain ⟨before, -, same⟩ := Option.bind_eq_some_iff.mp rest
  obtain rfl := Option.some.inj same
  have set : old.merge status.toResource.toJson ≠ .null := by
    change old.merge (.obj _) ≠ .null
    rw [merge]
    exact fun same => by cases same
  rw [Members.required?_assign_of_ne (by decide), hasVersion, Option.bind_some,
    Members.required?_assign_of_ne (by decide), hasKind, Option.bind_some,
    Members.required?_assign_of_ne (by decide), hasMetadata, Option.bind_some,
    Members.required?_assign_of_ne (by decide), hasSpec, Option.bind_some,
    Members.optional?_assign_self set, ResourceStatus.ofJson?_merge old word inYears]
  rfl

/-- Nor does the patch change which resource it is. -/
theorem resourceKey?_patchStatus (status : RoleStatus) (members : Members) :
    resourceKey? (patchStatus (Source.statusPatch status) (.obj members)) =
        resourceKey? (.obj members) ∧
      resourceNs? (patchStatus (Source.statusPatch status) (.obj members)) =
        resourceNs? (.obj members) := by
  rw [patchStatus_obj]
  simp only [resourceKey?, resourceNs?, get?_assign_of_ne (show "metadata" ≠ "status" by decide)]
  exact ⟨trivial, trivial⟩

/-- A resource declares what is known of it, with the status it has. -/
theorem RoleResource.declaration?_status (resource : RoleResource) (status : RoleStatus) :
    RoleResource.declaration? { resource with status := some status.toResource } =
      resource.declaration?.map fun d => { d with status := some status } := by
  simp only [declaration?, Option.bind_eq_bind, Option.bind_some, RoleStatus.complete?_toResource]
  cases resource.metadata.name with
  | none => rfl
  | some name =>
    cases resource.metadata.ns with
    | none => rfl
    | some ns => cases resource.metadata.uid <;> rfl

/-- Where metadata are read, so are a name and a namespace that stand in them. -/
theorem Metadata.names_of_ofJson? {value : Json} {m : Metadata}
    (read : Metadata.ofJson? value = some m) {ns name : String}
    (hasNs : (value.get? "namespace").bind str? = some ns)
    (hasName : (value.get? "name").bind str? = some name) : m.ns = some ns ∧ m.name = some name := by
  have text : ∀ {label content : String} {members : Members} {found : Option String},
      ((obj members).get? label).bind str? = some content →
        members.optional? label str? = some found → found = some content := by
    intro label content members found got reads
    obtain ⟨v, got, isText⟩ := Option.bind_eq_some_iff.mp got
    have set : v ≠ .null := fun null => by rw [null] at isText; cases isText
    have same := Members.optional?_of_get? got set reads
    rw [isText] at same
    exact (Option.some.inj same).symm
  simp only [Metadata.ofJson?, Option.bind_eq_bind] at read
  obtain ⟨members, isObject, rest⟩ := Option.bind_eq_some_iff.mp read
  obtain rfl : value = .obj members := by
    cases value <;> cases isObject
    rfl
  split at rest
  · cases rest
  · obtain ⟨name?, readsName, rest⟩ := Option.bind_eq_some_iff.mp rest
    obtain ⟨ns?, readsNs, rest⟩ := Option.bind_eq_some_iff.mp rest
    have named : m.ns = ns? ∧ m.name = name? := by
      simp only [Option.bind_eq_some_iff] at rest
      obtain ⟨_, -, _, -, _, -, _, -, _, -, _, -, same⟩ := rest
      cases same
      exact ⟨rfl, rfl⟩
    exact ⟨named.1.trans (text hasNs readsNs), named.2.trans (text hasName readsName)⟩

theorem RoleResource.metadata_of_ofJson? {value metadata : Json} {resource : RoleResource}
    (read : RoleResource.ofJson? value = some resource)
    (got : value.get? "metadata" = some metadata) :
    Metadata.ofJson? metadata = some resource.metadata := by
  simp only [RoleResource.ofJson?, Option.bind_eq_bind] at read
  obtain ⟨found, record, rest⟩ := Option.bind_eq_some_iff.mp read
  obtain ⟨members, rfl⟩ : ∃ members, value = .obj members := by
    cases value <;> first | exact ⟨_, rfl⟩ | cases got
  obtain ⟨rfl, -⟩ := once_of_record? record
  simp only [Option.bind_eq_some_iff] at rest
  obtain ⟨_, -, _, -, readMetadata, reads, _, -, _, -, same⟩ := rest
  obtain rfl := Option.some.inj same
  obtain ⟨value, got', isMetadata⟩ := Members.get?_of_required? reads
  rw [got] at got'
  exact Option.some.inj got' ▸ isMetadata

/-- A resource is read with the namespace and the name of its key. -/
theorem RoleResource.names_of_resourceKey? {value : Json} {resource : RoleResource} {key : ObjectKey}
    (keyed : resourceKey? value = some key) (read : RoleResource.ofJson? value = some resource) :
    resource.metadata.ns = some key.ns ∧ resource.metadata.name = some key.name := by
  simp only [resourceKey?, resourceNs?, Option.bind_eq_bind, Option.bind_eq_some_iff] at keyed
  obtain ⟨ns, ⟨metadata, got, nsValue, gotNs, isNs⟩, metadata', got', nameValue, gotName, name,
    isName, same⟩ := keyed
  obtain rfl : metadata = metadata' := Option.some.inj (got.symm.trans got')
  obtain rfl := Option.some.inj same
  exact Metadata.names_of_ofJson? (RoleResource.metadata_of_ofJson? read got)
    (by rw [gotNs]; exact isNs) (by rw [gotName]; exact isName)

/-- What a resource declares is found by the key of the resource. -/
theorem RoleResource.key_of_declaration? {value : Json} {resource : RoleResource} {key : ObjectKey}
    (keyed : resourceKey? value = some key) (read : RoleResource.ofJson? value = some resource)
    {d : Declaration} (declares : resource.declaration? = some d) : d.key = key := by
  obtain ⟨ns, name⟩ := RoleResource.names_of_resourceKey? keyed read
  simp only [declaration?, ns, name, Option.bind_eq_bind, Option.bind_some] at declares
  obtain ⟨uid, -, same⟩ := Option.bind_eq_some_iff.mp declares
  obtain rfl := Option.some.inj same
  rfl

theorem Metadata.fitsInt64_of_ofJson? {value : Json} {m : Metadata}
    (read : Metadata.ofJson? value = some m) : Decimal.fitsInt64 (m.generation.getD 0) = true := by
  simp only [Metadata.ofJson?, Option.bind_eq_bind] at read
  obtain ⟨members, -, rest⟩ := Option.bind_eq_some_iff.mp read
  split at rest
  · cases rest
  · simp only [Option.bind_eq_some_iff] at rest
    obtain ⟨_, -, _, -, _, -, _, -, generation, reads, _, -, _, -, _, -, same⟩ := rest
    obtain rfl := Option.some.inj same
    cases generation with
    | none =>
      change Decimal.fitsInt64 0 = true
      decide
    | some generation =>
      obtain ⟨value, isWord⟩ := Members.read_of_optional? reads
      cases value with
      | int n =>
        rw [int64?] at isWord
        split at isWord
        · rename_i fits
          exact Option.some.inj isWord ▸ fits
        · cases isWord
      | _ => cases isWord

/-- The generation of a declaration that is read from a resource is a word. -/
theorem RoleResource.hasWordGeneration {value : Json} {resource : RoleResource}
    (read : RoleResource.ofJson? value = some resource) {d : Declaration}
    (declares : resource.declaration? = some d) : d.HasWordGeneration := by
  have metadata : ∃ value, Metadata.ofJson? value = some resource.metadata := by
    simp only [RoleResource.ofJson?, Option.bind_eq_bind, Option.bind_eq_some_iff] at read
    obtain ⟨_, -, _, -, _, -, metadata, reads, _, -, _, -, same⟩ := read
    obtain rfl := Option.some.inj same
    obtain ⟨value, -, isMetadata⟩ := Members.get?_of_required? reads
    exact ⟨value, isMetadata⟩
  obtain ⟨value, isMetadata⟩ := metadata
  intro generation generated
  simp only [declaration?, Option.bind_eq_bind, Option.bind_eq_some_iff] at declares
  obtain ⟨_, -, _, -, _, -, same⟩ := declares
  obtain rfl := Option.some.inj same
  obtain rfl := Option.some.inj generated
  exact Metadata.fitsInt64_of_ofJson? isMetadata

end RoleSecrets
