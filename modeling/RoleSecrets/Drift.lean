import RoleSecrets.Declaration

/-! # Drift between declarations and secrets

`Drift.detect` pairs the declarations with the secrets of a listing. Of declarations with one key
the last counts; a secret is managed when it is the first with its key, the key is declared and the
secret belongs to the declared owner. Every other secret is an orphan, and every counting
declaration without a managed secret is missing.
-/

namespace RoleSecrets

/-- How far a managed secret is from what is declared. -/
inductive Drift
  /-- Nothing is to be done. -/
  | healthy
  /-- The credentials expire before the deadline, or do not say when. -/
  | needsRefresh
  /-- The secret was not written for the declared generation. -/
  | stale
deriving DecidableEq, Repr

namespace Drift

def name : Drift → String
  | healthy => "Healthy"
  | needsRefresh => "NeedsRefresh"
  | stale => "Stale"

/-- Whether a secret with this drift is to get new credentials. -/
def needsCredentials (drift : Drift) : Bool := drift ≠ healthy

/-- A declared secret that exists. -/
structure Managed where
  declaration : Declaration
  secret : Secret
  drift : Drift

/-- What is to be done: secrets to delete, secrets to look after, and secrets to create. -/
structure Plan where
  orphans : List Secret := []
  managed : List Managed := []
  missing : List Declaration := []

/-- Puts a declaration in its place by key; it takes the place of one with the same key. -/
def insert (d : Declaration) : List Declaration → List Declaration
  | [] => [d]
  | e :: rest =>
      if d.key = e.key then d :: rest
      else if d.key.before e.key then d :: e :: rest
      else e :: insert d rest

/-- The declarations that count, ordered by key: of one key the last. -/
def counting (declarations : List Declaration) : List Declaration :=
  declarations.foldl (fun sorted d => insert d sorted) []

/-- Whether a secret was written for the declared generation, if there is one. -/
def isCurrent (d : Declaration) (s : Secret) : Bool :=
  d.generation = none || s.generation? = d.generation

/-- Whether the credentials of a secret outlast a deadline; without a deadline they do not. -/
def outlasts (s : Secret) (deadline : Option Timestamp) : Bool :=
  match s.expiration?, deadline with
  | some expiration, some deadline => deadline ≤ expiration
  | _, _ => false

/-- The drift of a secret from its declaration. -/
def classify (d : Declaration) (s : Secret) (deadline : Option Timestamp) : Drift :=
  if !isCurrent d s then stale
  else if outlasts s deadline then healthy
  else needsRefresh

/-- Pairs the secrets of a listing with the declarations that are still pending. -/
def plan (deadline : Option Timestamp) : (pending : List Declaration) → List Secret → Plan
  | pending, [] => { missing := pending }
  | pending, s :: secrets =>
      match pending.find? (·.key = s.key) with
      | none =>
          let rest := plan deadline pending secrets
          { rest with orphans := s :: rest.orphans }
      | some d =>
          let rest := plan deadline (pending.filter (·.key ≠ s.key)) secrets
          if d.accepts s then
            { rest with managed := ⟨d, s, classify d s deadline⟩ :: rest.managed }
          else
            { rest with orphans := s :: rest.orphans, missing := d :: rest.missing }

/-- Pairs declarations and secrets. Credentials that expire within `refreshLimit` seconds of `now`
are to be refreshed. -/
def detect (declarations : List Declaration) (secrets : List Secret) (refreshLimit : Nat)
    (now : Timestamp) : Plan :=
  plan (now.add? refreshLimit) (counting declarations) secrets

end Drift

end RoleSecrets
