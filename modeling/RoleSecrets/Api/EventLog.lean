import RoleSecrets.Api.Metadata
import RoleSecrets.Api.SecretStore

/-! # Events in the cluster's API

An event is created once. When the same comes up again, that is, with the same type, reason and
subject, the first event is patched with how often it came up so far. What could not be published
leaves a warning and does not count.
-/

namespace RoleSecrets

/-- What makes an event the same as an earlier one. -/
structure EventKey where
  type : EventType
  reason : String
  subject : ObjectReference
deriving DecidableEq, Repr

def Event.key (e : Event) : EventKey := ⟨e.type, e.reason, e.subject⟩

/-- An event that was published: as it came up first, and how often. -/
structure Published where
  first : Event
  count : Nat

/-- Publishes events in the name of a controller. -/
structure EventLog where
  controller : String
  published : List (EventKey × Published) := []

namespace EventLog

def defaultNs : String := "default"

/-- An event as JSON, with how often it came up if more than once. -/
def body (log : EventLog) (e : Event) (count : Nat) : Json :=
  .ofMembers [("action", some (.str e.reason)),
    ("apiVersion", some (.str "events.k8s.io/v1")), ("kind", some (.str "Event")),
    ("metadata", some (.ofMembers [("namespace", e.subject.ns.map .str)])),
    ("note", some (.str e.note)), ("reason", some (.str e.reason)),
    ("regarding", some e.subject.toJson), ("reportingController", some (.str log.controller)),
    ("reportingInstance", some (.str log.controller)),
    ("series", if 1 < count then some (.obj [("count", .int count)]) else none),
    ("type", some (.str e.type.name))]

def event? (value : Json) : Option Unit := do
  let members ← value.members?
  if hasKind members "events.k8s.io/v1" "Event" && members.allows "metadata" Metadata.ofJson? then
    some ()
  else none

/-- What is published for an event: the event itself, or the first one like it once more. -/
def next (log : EventLog) (e : Event) : Published :=
  match log.published.lookup e.key with
  | none => ⟨e, 1⟩
  | some earlier => ⟨earlier.first, earlier.count + 1⟩

/-- The record of an event that could not be published. -/
def warning (e : Event) (cause : ApiError) : LogRecord where
  level := .warn
  message := "Failed to publish event, error: " ++ cause.message
  fields := [("reason", e.reason)] ++ (e.subject.name.map fun name => ("object", name)).toList

def publish (log : EventLog) (e : Event) : Controller EventLog := do
  let published := log.next e
  let request : ApiRequest :=
    { method := if published.count = 1 then .post else .patch
      path := { collection := .events, ns := some (e.subject.ns.getD defaultNs) }
      body := some (log.body published.first published.count) }
  match ← SecretStore.exchange request fun reply => reply.read event? with
  | .ok () =>
      pure { log with
        published := (e.key, published) :: log.published.filter (·.1 ≠ e.key) }
  | .error cause => do
      Controller.request (.log (warning e cause))
      pure log

end EventLog

end RoleSecrets
