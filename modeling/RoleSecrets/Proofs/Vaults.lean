import RoleSecrets.Cluster
import RoleSecrets.Proofs.Decimal

/-! # What becomes of the secrets of a cluster

A question changes the secrets of a cluster in one of four ways. What is brought in has a version
that no secret had before, so a secret that has the key and the version of an earlier one is still
the same.
-/

namespace RoleSecrets

theorem versionText_injective {a b : Nat} (same : versionText a = versionText b) : a = b := by
  have digits := congrArg (fun text : String => Decimal.readNat? text.toList) same
  simpa [versionText, Decimal.readNat?_digits] using digits

namespace Vault

variable {v : Vault} {s t : Secret}

theorem find?_isSome {key : ObjectKey} {current : Secret} (found : v.find? key = some current) :
    current ∈ v.secrets ∧ current.key = key :=
  ⟨List.mem_of_find?_eq_some found, by simpa using List.find?_some found⟩

theorem mem_put (named : s.IsNamed) :
    t ∈ (v.put s named).secrets ↔ t = s.stamp v.next ∨ (t ∈ v.secrets ∧ t.key ≠ s.key) :=
  mem_putSecret v.keyed (s := s.stamp v.next) named t

theorem mem_remove {key : ObjectKey} :
    t ∈ (v.remove key).secrets ↔ t ∈ v.secrets ∧ t.key ≠ key :=
  mem_removeSecret v.keyed key t

/-- What a question can do to the secrets. -/
inductive Changes (v : Vault) : Query → Vault → Prop
  | kept {question : Query} : v.Changes question v
  | created {s : Secret} (named : s.IsNamed) (fresh : ∀ t ∈ v.secrets, t.key ≠ s.key) :
      v.Changes (.createSecret s) (v.put s named)
  | updated {s current : Secret} (named : s.IsNamed) (held : current ∈ v.secrets)
      (key : current.key = s.key) (latest : s.metadata.resourceVersion = none ∨
        s.metadata.resourceVersion = current.metadata.resourceVersion) :
      v.Changes (.updateSecret s) (v.put s named)
  | deleted {key : ObjectKey} : v.Changes (.deleteSecret key) (v.remove key)

theorem changes_create (v : Vault) (s : Secret) :
    (∃ e, v.create s = .error e) ∨
      ∃ after, v.create s = .ok after ∧ v.Changes (.createSecret s) after := by
  unfold create
  split
  · rename_i named
    split
    · exact .inl ⟨_, rfl⟩
    · rename_i none
      refine .inr ⟨_, rfl, .created named fun t held same => ?_⟩
      exact List.find?_eq_none.mp none t held (by simpa using same)
  · exact .inl ⟨_, rfl⟩

theorem changes_update (v : Vault) (s : Secret) :
    (∃ e, v.update s = .error e) ∨
      ∃ after, v.update s = .ok after ∧ v.Changes (.updateSecret s) after := by
  unfold update
  split
  · rename_i named
    split
    · exact .inl ⟨_, rfl⟩
    · rename_i current found
      obtain ⟨held, key⟩ := find?_isSome found
      split
      · rename_i latest
        exact .inr ⟨_, rfl, .updated named held key latest⟩
      · exact .inl ⟨_, rfl⟩
  · exact .inl ⟨_, rfl⟩

theorem changes_delete (v : Vault) (key : ObjectKey) :
    (∃ e, v.delete key = .error e) ∨
      ∃ after, v.delete key = .ok after ∧ v.Changes (.deleteSecret key) after := by
  unfold delete
  split
  · exact .inl ⟨_, rfl⟩
  · exact .inr ⟨_, rfl, .deleted⟩

end Vault

namespace Cluster

/-- A write that fails changes nothing. -/
theorem vault_serveWrite (c : Cluster) (faults : Fields String)
    (failure : ObjectKey → ApiError → StoreError) (key : ObjectKey) {question : Query}
    {written : Except StoreError Vault} (does : (∃ e, written = .error e) ∨
      ∃ after, written = .ok after ∧ c.vault.Changes question after) :
    c.vault.Changes question (c.serveWrite faults failure key written).2.vault := by
  unfold serveWrite
  split
  · exact .kept
  · rcases does with ⟨e, rfl⟩ | ⟨after, rfl, changes⟩
    · exact .kept
    · exact changes

theorem changes_serve (question : Query) (c : Cluster) :
    c.vault.Changes question (serve question c).2.vault := by
  cases question with
  | listSecrets selector =>
    rw [serve]
    split <;> exact .kept
  | createSecret s => exact vault_serveWrite c _ _ _ (c.vault.changes_create s)
  | updateSecret s => exact vault_serveWrite c _ _ _ (c.vault.changes_update s)
  | deleteSecret key => exact vault_serveWrite c _ _ _ (c.vault.changes_delete key)
  | _ => exact .kept

theorem state_listSecrets (c : Cluster) (selector : Selector) :
    (serve (.listSecrets selector) c).2 = c := by
  rw [serve]
  split <;> rfl

/-- A listing has secrets of the cluster, all of them selected. -/
theorem mem_of_listed {c : Cluster} {selector : Selector} {listed : List Secret}
    (answer : (serve (.listSecrets selector) c).1 = .ok listed) :
    ∀ s ∈ listed, s ∈ c.vault.secrets ∧ selector.selects s = true := by
  simp only [serve] at answer
  split at answer
  · cases answer
  · obtain rfl := Except.ok.inj answer
    intro s member
    obtain ⟨held, selected⟩ := List.mem_filter.mp member
    exact ⟨held, (Bool.and_eq_true_iff.mp selected).2⟩

end Cluster

namespace Vault.Changes

variable {v after : Vault} {question : Query} {s : Secret}

theorem next_le (changes : v.Changes question after) : v.next ≤ after.next := by
  cases changes with
  | kept => exact Nat.le_refl _
  | created | updated => exact Nat.le_succ _
  | deleted => exact Nat.le_refl _

/-- What is brought in is created or an update, and has a new version. -/
theorem brought (changes : v.Changes question after) (held : s ∈ after.secrets)
    (new : s ∉ v.secrets) :
    (∃ t, question = .createSecret t ∨ question = .updateSecret t) ∧
      s.metadata.resourceVersion = some (versionText v.next) := by
  cases changes with
  | kept => exact absurd held new
  | created named fresh =>
    rcases (mem_put named).mp held with rfl | ⟨before, -⟩
    · exact ⟨⟨_, .inl rfl⟩, rfl⟩
    · exact absurd before new
  | updated named inside key latest =>
    rcases (mem_put named).mp held with rfl | ⟨before, -⟩
    · exact ⟨⟨_, .inr rfl⟩, rfl⟩
    · exact absurd before new
  | deleted => exact absurd (mem_remove.mp held).1 new

/-- What is taken away is replaced from its latest version, or deleted by its key. -/
theorem taken (changes : v.Changes question after) (held : s ∈ v.secrets)
    (gone : s ∉ after.secrets) :
    (∃ t, question = .updateSecret t ∧ s.key = t.key ∧ (t.metadata.resourceVersion = none ∨
      t.metadata.resourceVersion = s.metadata.resourceVersion)) ∨
    question = .deleteSecret s.key := by
  cases changes with
  | kept => exact absurd held gone
  | created named fresh => exact absurd ((mem_put named).mpr (.inr ⟨held, fresh s held⟩)) gone
  | updated named inside key latest =>
    rename_i t current
    have same : s.key = t.key := by
      by_contra differs
      exact gone ((mem_put named).mpr (.inr ⟨held, differs⟩))
    obtain rfl := v.keyed.eq_of_key held inside (same.trans key.symm)
    exact .inl ⟨t, rfl, same, latest⟩
  | deleted =>
    rename_i key
    have same : s.key = key := by
      by_contra differs
      exact gone (mem_remove.mpr ⟨held, differs⟩)
    exact .inr (congrArg _ same.symm)

end Vault.Changes

abbrev Cluster.Step := Program.Step Query Reply Cluster

/-- Whether a step brought a secret into the cluster. -/
def Cluster.Step.Brings (step : Cluster.Step) (s : Secret) : Prop :=
  s ∉ step.before.vault.secrets ∧
    s ∈ (Cluster.serve step.question step.before).2.vault.secrets

/-- Whether a step took a secret away: it was changed, or deleted. -/
def Cluster.Step.Takes (step : Cluster.Step) (s : Secret) : Prop :=
  s ∈ step.before.vault.secrets ∧
    s ∉ (Cluster.serve step.question step.before).2.vault.secrets

/-- What has become of the secrets in some steps of anyone. -/
structure Vault.Grown {ι : Type} (old new : Vault) (since : List (ι × Cluster.Step)) : Prop where
  next_le : old.next ≤ new.next
  /-- What was not there has been brought, with a version of its own. -/
  origin : ∀ s ∈ new.secrets, s ∈ old.secrets ∨ (∃ entry ∈ since, entry.2.Brings s) ∧
    ∃ version ≥ old.next, s.metadata.resourceVersion = some (versionText version)

namespace Vault.Grown

variable {ι : Type} {old new : Vault} {since : List (ι × Cluster.Step)} {s t : Secret}

theorem refl (v : Vault) : Grown v v ([] : List (ι × Cluster.Step)) :=
  ⟨Nat.le_refl _, fun _ held => .inl held⟩

theorem step {c : Cluster} (grown : Grown old c.vault since) (turn : ι) (question : Query) :
    Grown old (Cluster.serve question c).2.vault
      (since ++ [(turn, ⟨c, question, (Cluster.serve question c).1⟩)]) := by
  have changes := Cluster.changes_serve question c
  refine ⟨grown.next_le.trans changes.next_le, fun s held => ?_⟩
  by_cases before : s ∈ c.vault.secrets
  · rcases grown.origin s before with first | ⟨⟨entry, member, brings⟩, version⟩
    · exact .inl first
    · exact .inr ⟨⟨entry, List.mem_append_left _ member, brings⟩, version⟩
  · obtain ⟨-, version⟩ := changes.brought held before
    refine .inr ⟨⟨_, List.mem_append_right _ (List.mem_singleton_self _), before, held⟩, ?_⟩
    exact ⟨c.vault.next, grown.next_le, version⟩

/-- With its key and its version a secret is the one it was. -/
theorem eq_of_version (grown : Grown old new since) (first : s ∈ old.secrets)
    (later : t ∈ new.secrets) (key : s.key = t.key)
    (same : s.metadata.resourceVersion = t.metadata.resourceVersion) : s = t := by
  rcases grown.origin t later with held | ⟨-, version, fresh, versioned⟩
  · exact old.keyed.eq_of_key first held key
  · obtain ⟨earlier, less, stamped⟩ := old.versioned s first
    rw [stamped, versioned] at same
    have := versionText_injective (Option.some.inj same)
    omega

end Vault.Grown

end RoleSecrets
