import RoleSecrets.Log
import RoleSecrets.Registry
import RoleSecrets.Text.Decimal

/-! # Role events

A role event says that a pod uses a role, that it no longer does, or who uses roles according to a
complete listing. Role events come from what is observed of the pods, and go to the registry in the
same order.
-/

namespace RoleSecrets

/-- What is observed of the pods. A listing has a start, a pod at a time, and an end. -/
inductive PodEvent
  | listingStarted
  | listed (pod : Pod)
  | listingDone
  | applied (pod : Pod)
  | deleted (pod : Pod)
deriving DecidableEq, Repr

/-- News about who uses roles. -/
inductive RoleEvent
  | desired (consumer : Consumer)
  | undesired (consumer : Consumer)
  | resync (consumers : List Consumer)
deriving DecidableEq, Repr

namespace RoleEvent

/-- The role event that an observation gives rise to, and the uses of roles listed so far. -/
def ofPodEvent (listed : List Consumer) : PodEvent → Option RoleEvent × List Consumer
  | .listingStarted => (none, [])
  | .listed pod => (none, listed ++ pod.consumer?.toList)
  | .listingDone => (some (.resync listed), [])
  | .applied pod => (pod.consumer?.map .desired, listed)
  | .deleted pod => (pod.consumer?.map .undesired, listed)

def change : RoleEvent → RegistryChange
  | desired consumer => .add consumer
  | undesired consumer => .remove consumer
  | resync consumers => .replace consumers

/-- The fields that say who uses which role. -/
def consumerFields (c : Consumer) : Fields String :=
  [("role", c.role), ("namespace", c.ns), ("pod", c.name)]

/-- What is logged about an event. -/
def record : RoleEvent → LogRecord
  | desired consumer => ⟨.debug, "Pod wants role", consumerFields consumer⟩
  | undesired consumer => ⟨.debug, "Pod no longer wants role", consumerFields consumer⟩
  | resync consumers =>
      ⟨.info, "Resynced pod roles",
        [("consumers", String.ofList (Decimal.digits consumers.length))]⟩

end RoleEvent

def Registry.applyEvent (r : Registry) (e : RoleEvent) : Registry := r.apply e.change

/-- The role events that a run of observations gives rise to, after some uses of roles were listed. -/
def roleEvents (listed : List Consumer) : List PodEvent → List RoleEvent
  | [] => []
  | event :: events =>
      let (first, listed) := RoleEvent.ofPodEvent listed event
      first.toList ++ roleEvents listed events

end RoleSecrets
