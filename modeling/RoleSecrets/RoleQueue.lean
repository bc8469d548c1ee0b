import RoleSecrets.RoleEvent

/-! # The queue of role events

Role events wait in a queue of limited length between the one who observes the pods and the one who
keeps the registry. A queue holds at least one event; sending waits while it is full, receiving while
it is empty. The sender may go at any time. The receiver returns once it is told to shut down, or
once the sender has gone and the queue is empty; what is still in the queue then is dropped.

`RoleQueue.move?` is one move of either side, and `RoleQueue.drain` takes turns until every event has
been applied.
-/

namespace RoleSecrets

/-- Role events on their way: those not sent yet, those in the queue, the one that the receiver is
about to apply, and the registry with all others applied to it. -/
structure RoleQueue where
  capacity : Nat
  unsent : List RoleEvent
  queued : List RoleEvent := []
  taken : Option RoleEvent := none
  registry : Registry := {}
  /-- What the receiver has logged. -/
  logs : List LogRecord := []
  /-- Whether the sender has gone. -/
  hungUp : Bool := false
  /-- Whether the receiver has been told to shut down. -/
  shutdown : Bool := false
  /-- Whether the receiver has returned. -/
  returned : Bool := false

namespace RoleQueue

/-- How many events the queue holds at most. -/
def limit (q : RoleQueue) : Nat := max q.capacity 1

/-- What can happen to a queue. -/
inductive Move
  | send
  | hangUp
  | shutDown
  | receive
  | apply
  | stop
deriving DecidableEq, Repr

/-- The record of the receiver when it returns. -/
def stopped : LogRecord := ⟨.info, "Role event consumer stopped", []⟩

/-- The queue after a move, where nobody has to wait for it. -/
def move? (q : RoleQueue) : Move → Option RoleQueue
  | .send =>
      match q.unsent with
      | event :: unsent =>
          if !q.hungUp && !q.returned && q.queued.length < q.limit then
            some { q with unsent, queued := q.queued ++ [event] }
          else none
      | [] => none
  | .hangUp => if q.hungUp then none else some { q with hungUp := true }
  | .shutDown => if q.shutdown then none else some { q with shutdown := true }
  | .receive =>
      match q.queued with
      | event :: queued =>
          if !q.returned && q.taken.isNone then some { q with queued, taken := some event }
          else none
      | [] => none
  | .apply =>
      match q.taken with
      | some event =>
          some { q with
            taken := none
            registry := q.registry.applyEvent event
            logs := q.logs ++ [event.record] }
      | none => none
  | .stop =>
      if !q.returned && q.taken.isNone && (q.shutdown || q.hungUp && q.queued.isEmpty) then
        some { q with returned := true, logs := q.logs ++ [stopped] }
      else none

def after? (q : RoleQueue) (moves : List Move) : Option RoleQueue := moves.foldlM move? q

/-- How many moves are left until there can be none. -/
def distance (q : RoleQueue) : Nat :=
  3 * q.unsent.length + 2 * q.queued.length + q.taken.toList.length +
    (!q.hungUp).toNat + (!q.shutdown).toNat + (!q.returned).toNat

/-- What each move needs, and what it does. -/
inductive Moves (q : RoleQueue) : Move → RoleQueue → Prop
  | send {event : RoleEvent} {unsent : List RoleEvent} (first : q.unsent = event :: unsent)
      (there : q.hungUp = false) (heard : q.returned = false) (room : q.queued.length < q.limit) :
      Moves q .send { q with unsent, queued := q.queued ++ [event] }
  | hangUp (there : q.hungUp = false) : Moves q .hangUp { q with hungUp := true }
  | shutDown (untold : q.shutdown = false) : Moves q .shutDown { q with shutdown := true }
  | receive {event : RoleEvent} {queued : List RoleEvent} (first : q.queued = event :: queued)
      (running : q.returned = false) (free : q.taken = none) :
      Moves q .receive { q with queued, taken := some event }
  | apply {event : RoleEvent} (taken : q.taken = some event) :
      Moves q .apply { q with
        taken := none
        registry := q.registry.applyEvent event
        logs := q.logs ++ [event.record] }
  | stop (running : q.returned = false) (free : q.taken = none)
      (may : q.shutdown = true ∨ q.hungUp = true ∧ q.queued = []) :
      Moves q .stop { q with returned := true, logs := q.logs ++ [stopped] }

theorem move?_eq_some_iff {q after : RoleQueue} {move : Move} :
    q.move? move = some after ↔ Moves q move after := by
  constructor
  · intro moved
    cases move with
    | send =>
      simp only [move?] at moved
      split at moved
      · next event unsent first =>
        split at moved
        · next can =>
          simp only [Bool.and_eq_true, Bool.not_eq_true', decide_eq_true_eq] at can
          cases moved
          exact .send first can.1.1 can.1.2 can.2
        · cases moved
      · cases moved
    | hangUp =>
      simp only [move?] at moved
      split at moved
      · cases moved
      · next there =>
        cases moved
        exact .hangUp (Bool.eq_false_iff.mpr there)
    | shutDown =>
      simp only [move?] at moved
      split at moved
      · cases moved
      · next untold =>
        cases moved
        exact .shutDown (Bool.eq_false_iff.mpr untold)
    | receive =>
      simp only [move?] at moved
      split at moved
      · next event queued first =>
        split at moved
        · next can =>
          simp only [Bool.and_eq_true, Bool.not_eq_true', Option.isNone_iff_eq_none] at can
          cases moved
          exact .receive first can.1 can.2
        · cases moved
      · cases moved
    | apply =>
      simp only [move?] at moved
      split at moved
      · next event taken =>
        cases moved
        exact .apply taken
      · cases moved
    | stop =>
      simp only [move?] at moved
      split at moved
      · next can =>
        simp only [Bool.and_eq_true, Bool.or_eq_true, Bool.not_eq_true',
          Option.isNone_iff_eq_none, List.isEmpty_iff] at can
        cases moved
        exact .stop can.1.1 can.1.2 can.2
      · cases moved
  · intro moves
    cases moves with
    | send first there heard room => simp [move?, first, there, heard, room]
    | hangUp there => simp [move?, there]
    | shutDown untold => simp [move?, untold]
    | receive first running free => simp [move?, first, running, free]
    | apply taken => simp [move?, taken]
    | stop running free may => simp [move?, running, free, may]

/-- Every move brings the end closer by one. -/
theorem Moves.distance {q after : RoleQueue} {move : Move} (moves : Moves q move after) :
    after.distance + 1 = q.distance := by
  cases moves with
  | send first there heard room =>
    simp only [RoleQueue.distance, first, List.length_cons, List.length_append, List.length_nil]
    omega
  | hangUp there =>
    simp only [RoleQueue.distance, there, Bool.not_true, Bool.not_false, Bool.toNat_true,
      Bool.toNat_false]
    omega
  | shutDown untold =>
    simp only [RoleQueue.distance, untold, Bool.not_true, Bool.not_false, Bool.toNat_true,
      Bool.toNat_false]
    omega
  | receive first running free =>
    simp only [RoleQueue.distance, first, free, Option.toList_some, Option.toList_none,
      List.length_cons, List.length_nil]
    omega
  | apply taken =>
    simp only [RoleQueue.distance, taken, Option.toList_some, Option.toList_none,
      List.length_cons, List.length_nil]
    omega
  | stop running free may =>
    simp only [RoleQueue.distance, running, Bool.not_true, Bool.not_false, Bool.toNat_true,
      Bool.toNat_false, Nat.add_zero]

/-- The queue after the next move by which events get on, those of the receiver first. -/
def advance? (q : RoleQueue) : Option RoleQueue := [Move.apply, .receive, .send].findSome? q.move?

/-- Takes turns until every event has been applied, the receiver first. -/
def drain (q : RoleQueue) : RoleQueue :=
  match _advanced : q.advance? with
  | some after => drain after
  | none => q
termination_by q.distance
decreasing_by
  obtain ⟨move, -, moved⟩ := List.exists_of_findSome?_eq_some _advanced
  have closer := (move?_eq_some_iff.mp moved).distance
  omega

end RoleQueue

end RoleSecrets
