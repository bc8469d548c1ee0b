import RoleSecrets.History
import RoleSecrets.RoleEvent

/-! # Histories in which pods are observed

Beside ticks and changes from outside, something may be observed of the pods. The role event that
an observation gives rise to waits until it is taken to the registry. All of this happens in any
order.
-/

namespace RoleSecrets

/-- Whether a change to the registry puts a complete listing in the place of what it holds. -/
def RegistryChange.isReplace : RegistryChange → Bool
  | .replace _ => true
  | _ => false

/-- What may happen where pods are observed. -/
inductive PodAct
  | observe (event : PodEvent)
  /-- The first of the waiting role events goes to the registry. -/
  | take
  | act (act : Act)

/-- A world, with what is on the way to its registry. -/
structure PodScene where
  world : World
  /-- The uses of roles in a listing that has not come to its end. -/
  listed : List Consumer := []
  /-- The role events that have not reached the registry. -/
  waiting : List RoleEvent := []

namespace PodScene

def step (r : Reconciler) (s : PodScene) : PodAct → PodScene
  | .observe event =>
      let (first, listed) := RoleEvent.ofPodEvent s.listed event
      { s with listed, waiting := s.waiting ++ first.toList }
  | .take =>
      match s.waiting with
      | [] => s
      | event :: waiting =>
          { s with world := { s.world with registry := s.world.registry.applyEvent event }, waiting }
  | .act act => { s with world := (r.act s.world act).2 }

def after (r : Reconciler) (s : PodScene) (acts : List PodAct) : PodScene :=
  acts.foldl (step r) s

/-- Whether an act brings a complete listing to the registry. -/
def relists (s : PodScene) : PodAct → Bool
  | .take => s.waiting.head?.any (·.change.isReplace)
  | .act (.change (.registry change)) => change.isReplace
  | _ => false

/-- Whether one of some acts does. -/
def hasRelisted (r : Reconciler) (s : PodScene) : List PodAct → Bool
  | [] => false
  | act :: acts => s.relists act || hasRelisted r (s.step r act) acts

end PodScene

end RoleSecrets
