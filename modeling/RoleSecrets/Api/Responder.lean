import RoleSecrets.Effect

/-! # A responder for the API alone

A responder answers the requests of the API by a function and has nothing else: no secrets, no
declarations, no roles in use, and no issuer.
-/

namespace RoleSecrets.Responder

def serve (respond : ApiRequest → ApiReply) : (question : Query) → Unit → Reply question × Unit
  | .listSecrets _, _ => (.ok [], ())
  | .createSecret _, _ => (.ok (), ())
  | .updateSecret _, _ => (.ok (), ())
  | .deleteSecret _, _ => (.ok (), ())
  | .assumeRole roleArn .., _ => (.error (.missing roleArn), ())
  | .recordEvent _, _ => ((), ())
  | .registrySynced, _ => (false, ())
  | .registryRoles, _ => ([], ())
  | .listDeclared, _ => (.ok [], ())
  | .reportDeclared .., _ => (.ok (), ())
  | .api request, _ => (respond request, ())
  | .log _, _ => ((), ())

/-- What comes of a controller: its value, the requests it made, and its log records. -/
structure Outcome (α : Type) where
  value : α
  requests : List ApiRequest
  logs : List LogRecord

def run {α : Type} (respond : ApiRequest → ApiReply) (controller : Controller α) : Outcome α :=
  let outcome := Program.run (serve respond) controller ()
  { value := outcome.value
    requests := outcome.steps.filterMap fun step => match step.question with
      | .api request => some request
      | _ => none
    logs := outcome.steps.filterMap fun step => match step.question with
      | .log record => some record
      | _ => none }

end RoleSecrets.Responder
