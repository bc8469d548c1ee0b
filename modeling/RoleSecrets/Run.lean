import RoleSecrets.Text.Decimal
import RoleSecrets.Tick
import RoleSecrets.World

/-! # The reconciler's loop

A run makes a tick at once and then one every interval, until shutdown. A tick that is due while the
one before is still at work runs as soon as that is done; if this is more than a few milliseconds
late, the next is due one interval after it. Shutdown is looked at between ticks only, and goes
before a tick that is due at the same time. A span of time is shown in seconds with the fewest
decimals, or in milliseconds where it is shorter than a second.
-/

namespace RoleSecrets

/-- A span of time in milliseconds. -/
structure Span where
  millis : Nat
deriving DecidableEq, Repr

/-- A number of milliseconds below a thousand as decimals of a second, without closing zeros. -/
def Span.decimals (millis : Nat) : List Char :=
  ((Decimal.fixed 3 millis).reverse.dropWhile (· = '0')).reverse

def Span.text (s : Span) : String :=
  if s.millis < 1000 then String.ofList (Decimal.digits s.millis ++ ['m', 's'])
  else
    let fraction := Span.decimals (s.millis % 1000)
    let point := if fraction = [] then [] else ['.']
    String.ofList (Decimal.digits (s.millis / 1000) ++ point ++ fraction ++ ['s'])

/-- One turn of the loop: a tick, and a log record of how it went. -/
def Reconciler.turn (r : Reconciler) (now : Timestamp) : Controller Unit := do
  match ← r.tick now with
  | .ok summary =>
      Controller.log .debug "Reconciled" [("source", r.source.name), ("summary", summary.text)]
  | .error e => Controller.log .error e.message [("source", r.source.name)]

namespace Run

/-- How late a tick may be, in milliseconds, without the next one being put off. -/
def tolerance : Nat := 5

/-- When the next tick is due. -/
def nextDue (interval due start : Nat) : Nat :=
  if due + tolerance < start then start + interval else due + interval

structure Turn where
  start : Nat
  steps : List World.Step

/-- The turns from a time on at which one is due, and the world after them. `now` tells the instant
of a time. -/
def turnsFrom (r : Reconciler) (now : Nat → Timestamp) (interval : { n : Nat // 0 < n })
    (shutdown due : Nat) (w : World) : List Turn × World :=
  let start := max due w.clock
  if shutdown ≤ start then ([], w)
  else
    let outcome := (w.advance start).run (r.turn (now start))
    let (later, last) :=
      turnsFrom r now interval shutdown (nextDue interval due start) outcome.state
    (⟨start, outcome.steps⟩ :: later, last)
termination_by shutdown - due
decreasing_by
  have := interval.property
  simp only [nextDue]
  split <;> omega

end Run

structure Run where
  turns : List Run.Turn
  /-- The world after the last turn. -/
  world : World
  /-- When the run was over. -/
  returned : Nat
  /-- The records before the first turn. -/
  opening : List LogRecord
  /-- The records after the last turn. -/
  closing : List LogRecord

namespace Run

def steps (run : Run) : List World.Step := run.turns.flatMap (·.steps)

def logs (run : Run) : List LogRecord := run.opening ++ World.logs run.steps ++ run.closing

/-- When the run was over and all scheduled changes were made. -/
def ended (run : Run) : Nat :=
  run.world.schedule.foldl (fun time (due, _) => max time due) run.returned

end Run

/-- Runs a reconciler in a world, with times in milliseconds. There is no run without an interval. -/
def Reconciler.run? (r : Reconciler) (now : Nat → Timestamp) (interval : Span) (shutdown : Nat)
    (w : World) : Option Run :=
  if h : 0 < interval.millis then
    let (turns, last) := Run.turnsFrom r now ⟨interval.millis, h⟩ shutdown 0 w
    some {
      turns
      world := last
      returned := max shutdown last.clock
      opening := [⟨.info, "Starting reconciler",
        [("source", r.source.name), ("interval", interval.text)]⟩]
      closing := [⟨.info, "Terminating reconciler", [("source", r.source.name)]⟩] }
  else none

end RoleSecrets
