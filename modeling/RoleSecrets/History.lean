import RoleSecrets.Tick
import RoleSecrets.World

/-! # Histories

A history is a sequence of ticks and of changes from outside, in one world. Nothing but the world is
carried from one act to the next.
-/

namespace RoleSecrets

/-- A tick, or a change from outside. -/
inductive Act
  | tick (now : Timestamp)
  | change (change : Change)

namespace Reconciler

abbrev TickOutcome := World.Outcome (Except TickError Summary)

/-- What comes of an act, if it is a tick, and the world after it. -/
def act (r : Reconciler) (w : World) : Act → Option TickOutcome × World
  | .tick now =>
      let outcome := w.run (r.tick now)
      (some outcome, outcome.state)
  | .change change => (none, w.apply change)

/-- What comes of every act of a history, and the world after it. -/
def live (r : Reconciler) (w : World) : List Act → List (Option TickOutcome) × World
  | [] => ([], w)
  | first :: later =>
      let (answer, after) := r.act w first
      let (answers, last) := r.live after later
      (answer :: answers, last)

end Reconciler

end RoleSecrets
