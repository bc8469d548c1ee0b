import RoleSecrets.Proofs.Store
import RoleSecrets.Text.Decimal

/-! # A cluster that keeps versions

Unlike a `World`, whose writes go through whatever is there, a `Cluster` keeps its secrets as the API
of a cluster does: no two have one key, and every change gives a secret a new resource version. A
secret is created only where there is none and updated only from its latest version, but whatever
has a key can be deleted by it.
-/

namespace RoleSecrets

def versionText (version : Nat) : String := String.ofList (Decimal.digits version)

def Secret.stamp (s : Secret) (version : Nat) : Secret :=
  { s with metadata := { s.metadata with resourceVersion := some (versionText version) } }

/-- The secrets of a cluster, each with a key of its own and the version of its last change. -/
structure Vault where
  secrets : List Secret
  /-- The version of the next change. -/
  next : Nat
  keyed : Keyed secrets
  versioned : ∀ s ∈ secrets, ∃ version < next,
    s.metadata.resourceVersion = some (versionText version)

namespace Vault

def find? (v : Vault) (key : ObjectKey) : Option Secret := v.secrets.find? (·.key = key)

/-- Puts a secret in the place of the one with its key, if there is one. -/
def put (v : Vault) (s : Secret) (named : s.IsNamed) : Vault where
  secrets := putSecret (s.stamp v.next) v.secrets
  next := v.next + 1
  keyed := v.keyed.put named
  versioned t member := by
    rcases (mem_putSecret v.keyed (s := s.stamp v.next) named t).mp member with rfl | ⟨inside, -⟩
    · exact ⟨v.next, Nat.lt_succ_self _, rfl⟩
    · obtain ⟨version, earlier, same⟩ := v.versioned t inside
      exact ⟨version, Nat.lt_succ_of_lt earlier, same⟩

def remove (v : Vault) (key : ObjectKey) : Vault where
  secrets := removeSecret key v.secrets
  next := v.next
  keyed := v.keyed.filter _
  versioned t member := v.versioned t (List.mem_of_mem_filter member)

/-- Why something cannot be done to a secret. -/
def refusal (code : Nat) (reason message : String) : ApiError :=
  .status { success := some false, code, message, reason }

def incomplete (s : Secret) : StoreError :=
  .incomplete (if s.metadata.ns.isNone then "namespace" else "name")

/-- Adds a secret, unless there is one with its key. -/
def create (v : Vault) (s : Secret) : Except StoreError Vault :=
  if named : s.IsNamed then
    match v.find? s.key with
    | some _ => .error (.create s.key (refusal 409 "AlreadyExists" "the secret already exists"))
    | none => .ok (v.put s named)
  else .error (incomplete s)

/-- Replaces a secret, unless the one given comes from an earlier version. -/
def update (v : Vault) (s : Secret) : Except StoreError Vault :=
  if named : s.IsNamed then
    match v.find? s.key with
    | none => .error (.update s.key (refusal 404 "NotFound" "the secret is not found"))
    | some current =>
        if s.metadata.resourceVersion = none ∨
            s.metadata.resourceVersion = current.metadata.resourceVersion then .ok (v.put s named)
        else .error (.update s.key (refusal 409 "Conflict" "the secret has been modified"))
  else .error (incomplete s)

/-- Deletes the secret with a key, whatever its version. -/
def delete (v : Vault) (key : ObjectKey) : Except StoreError Vault :=
  match v.find? key with
  | none => .error (.delete key (refusal 404 "NotFound" "the secret is not found"))
  | some _ => .ok (v.remove key)

end Vault

/-- A cluster with versions, and all there is around it. -/
structure Cluster where
  vault : Vault
  /-- The namespace in which secrets are listed, or all. -/
  scope : Option String
  /-- Answers everything but what is asked about secrets; its own secrets do not matter. -/
  world : World

namespace Cluster

/-- Whether a secret is in the namespace in which secrets are listed. -/
def inScope (c : Cluster) (s : Secret) : Bool :=
  c.scope.all fun ns => s.metadata.ns = some ns

/-- Answers a write of a secret: it fails if a fault says so. -/
def serveWrite (c : Cluster) (faults : Fields String) (failure : ObjectKey → ApiError → StoreError)
    (key : ObjectKey) (written : Except StoreError Vault) : Except StoreError Unit × Cluster :=
  match faults.get? key.text with
  | some text => (.error (.ofFault (failure key) text), c)
  | none =>
      match written with
      | .error e => (.error e, c)
      | .ok vault => (.ok (), { c with vault })

def serve : (question : Query) → Cluster → Reply question × Cluster
  | .listSecrets selector, c =>
      match c.world.faults.list with
      | some text => (.error (.ofFault (.list selector.text) text), c)
      | none => (.ok (c.vault.secrets.filter fun s => c.inScope s && selector.selects s), c)
  | .createSecret s, c => c.serveWrite c.world.faults.create .create s.key (c.vault.create s)
  | .updateSecret s, c => c.serveWrite c.world.faults.update .update s.key (c.vault.update s)
  | .deleteSecret key, c => c.serveWrite c.world.faults.delete .delete key (c.vault.delete key)
  | question, c =>
      ((World.serve question c.world).1, { c with world := (World.serve question c.world).2 })

end Cluster

end RoleSecrets
