import RoleSecrets.Api.Metadata
import RoleSecrets.Api.Request
import RoleSecrets.RoleEvent

/-! # Watching the pods

The pods are listed page by page and then watched from there. Whatever fails leaves a warning: a
failed listing starts over, a failed watch is taken up again, and once the watch has lost its place
the pods are listed anew. Of a pod only its metadata and the secrets of its volumes are read.
`PodWatch.receive` is one step, from an answer of the API to what is observed; `PodWatch.follow` is a
whole watch over given answers.
-/

namespace RoleSecrets

namespace Pod

open Json

/-- The name of the secret a volume mounts, where it mounts one. -/
def volumeSecret? (value : Json) : Option (Option String) := do
  let members ← value.members?
  if !members.allows "name" str? then none
  else do
    let found ← members.optional? "secret" fun source => do
      (← source.members?).optional? "secretName" str?
    return found.join

/-- The names of the secrets that the volumes of a pod mount. -/
def volumeSecrets? (value : Json) : Option (List String) := do
  let volumes ← (← value.members?).getD? "volumes" (list? volumeSecret?) []
  return volumes.filterMap id

def ofJson? (value : Json) : Option Pod := do
  let members ← value.members?
  if !hasKind members "v1" "Pod" then none
  else
  return {
    metadata := ← members.getD? "metadata" Metadata.ofJson? {}
    volumeSecrets := ← members.getD? "spec" volumeSecrets? [] }

end Pod

/-- What the API sends in a watch. -/
inductive WatchItem
  /-- A change of an object, by the name of its kind. -/
  | change (kind : String) (object : Json)
  /-- An error with its code. -/
  | error (code : Nat)

inductive WatchReply
  | plain (reply : ApiReply)
  | stream (items : List WatchItem)

inductive WatchRequest
  /-- A page of the listing, the first without a token. -/
  | list (token : Option String)
  | watch
deriving DecidableEq, Repr

/-- What is learned from an answer: an observation, or that something went wrong. -/
inductive WatchNotice
  | event (event : PodEvent)
  | failure

namespace PodWatch

/-- A page of a listing: its pods and the token of the next page. -/
def page? (reply : ApiReply) : Option (List Pod × Option String) :=
  match reply.read fun body =>
      (listItems? Pod.ofJson? body).map fun pods => (pods, continueToken? body) with
  | .ok page => some page
  | .error _ => none

/-- What is learned from a page of a listing, and the request after it. -/
def receivePage (token : Option String) (reply : ApiReply) : List WatchNotice × WatchRequest :=
  let start := if token.isNone then [WatchNotice.event .listingStarted] else []
  match page? reply with
  | none => (start ++ [.failure], .list none)
  | some (pods, next) =>
      let listed := pods.map fun pod => WatchNotice.event (.listed pod)
      match next with
      | some token => (start ++ listed, .list (some token))
      | none => (start ++ listed ++ [.event .listingDone], .watch)

/-- What a change of an object says, or none where the watch has lost its place. -/
def change? (kind : String) (object : Json) : Option (List WatchNotice) :=
  match Pod.ofJson? object with
  | none => some [.failure]
  | some pod =>
      if kind = "BOOKMARK" then some []
      else if kind ≠ "ADDED" ∧ kind ≠ "MODIFIED" ∧ kind ≠ "DELETED" then some [.failure]
      else if pod.metadata.resourceVersion = some "" then none
      else if kind = "DELETED" then some [.event (.deleted pod)]
      else some [.event (.applied pod)]

/-- What is learned from the items of a watch, and the request after them. -/
def receiveItems : List WatchItem → List WatchNotice × WatchRequest
  | [] => ([], .watch)
  | .error code :: items =>
      if code = 410 then ([.failure], .list none)
      else
        let (notices, next) := receiveItems items
        (.failure :: notices, next)
  | .change kind object :: items =>
      match change? kind object with
      | none => ([.failure], .list none)
      | some first =>
          let (notices, next) := receiveItems items
          (first ++ notices, next)

/-- What is learned from the answer to a request, and the next request. -/
def receive (request : WatchRequest) (reply : WatchReply) : List WatchNotice × WatchRequest :=
  match request, reply with
  | .list token, .plain reply => receivePage token reply
  | .list token, .stream _ => receivePage token (.answered 200 (.text ""))
  | .watch, .plain _ => ([.failure], .watch)
  | .watch, .stream items => receiveItems items

/-- The record of a failure; a description of it may follow. -/
def warning : LogRecord := ⟨.warn, "Pod watch failed, retrying, error: ", []⟩

/-- The record when the watch is over. -/
def stopped : LogRecord := ⟨.info, "Pod watcher stopped", []⟩

/-- Why a watch ended early. -/
inductive Failure
  /-- Nobody takes the role events any more. -/
  | queueClosed
deriving DecidableEq, Repr

def Failure.message : Failure → String
  | .queueClosed => "Role event queue is closed"

structure Outcome where
  requests : List WatchRequest := []
  events : List RoleEvent := []
  logs : List LogRecord := []
  result : Except Failure Unit := .ok ()

/-- Whether the role events of a watch are taken. -/
inductive Receiver
  | listening
  | closed
deriving DecidableEq, Repr

/-- What is made of the notices from one answer: role events and records, and whether an event was
not taken. The listed uses of roles go in and come out. -/
def digest (receiver : Receiver) (listed : List Consumer) :
    List WatchNotice → Outcome × List Consumer
  | [] => ({}, listed)
  | .failure :: notices =>
      let (rest, listed) := digest receiver listed notices
      ({ rest with logs := warning :: rest.logs }, listed)
  | .event event :: notices =>
      match RoleEvent.ofPodEvent listed event with
      | (none, listed) => digest receiver listed notices
      | (some roleEvent, listed) =>
          match receiver with
          | .closed => ({ result := .error .queueClosed }, listed)
          | .listening =>
              let (rest, listed) := digest receiver listed notices
              ({ rest with events := roleEvent :: rest.events }, listed)

/-- A watch over given answers, which is over when they are used up. -/
def follow (receiver : Receiver) (request : WatchRequest) (listed : List Consumer) :
    List WatchReply → Outcome
  | [] => { logs := [stopped] }
  | reply :: replies =>
      let (notices, next) := receive request reply
      let (now, listed) := digest receiver listed notices
      match now.result with
      | .error e => { now with requests := [request], result := .error e }
      | .ok () =>
          let rest := follow receiver next listed replies
          { requests := request :: rest.requests
            events := now.events ++ rest.events
            logs := now.logs ++ rest.logs
            result := rest.result }

/-- A watch from the beginning. -/
def run (receiver : Receiver) (replies : List WatchReply) : Outcome :=
  follow receiver (.list none) [] replies

end PodWatch

end RoleSecrets
