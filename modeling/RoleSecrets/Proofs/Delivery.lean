import RoleSecrets.RoleQueue

/-! # Role events arrive in order

However the moves of the two sides of a queue follow one another, the registry holds what the first
of the sent events have made of it. None is lost or applied twice as long as the receiver has not
been told to shut down, no side waits for ever while there are events, and there is only so much that
can happen before the receiver has returned.
-/

namespace RoleSecrets.RoleQueue

def start (capacity : Nat) (events : List RoleEvent) (registry : Registry) : RoleQueue :=
  { capacity, unsent := events, registry }

/-- What holds of a queue at every moment, seen from how it started. -/
structure Faithful (capacity : Nat) (events : List RoleEvent) (registry : Registry)
    (q : RoleQueue) : Prop where
  capacity_eq : q.capacity = capacity
  room : q.queued.length ≤ max capacity 1
  /-- Every event has been applied and logged once, or is still on its way. -/
  history : ∃ applied, events = applied ++ q.taken.toList ++ q.queued ++ q.unsent ∧
    q.registry = applied.foldl Registry.applyEvent registry ∧
    q.logs = applied.map RoleEvent.record ++ if q.returned then [stopped] else []
  returned : q.returned = true →
    q.taken = none ∧ (q.shutdown = true ∨ q.hungUp = true ∧ q.queued = [])

section Moves

variable {capacity : Nat} {events : List RoleEvent} {registry : Registry} {q after : RoleQueue}

theorem faithful_start : (start capacity events registry).Faithful capacity events registry where
  capacity_eq := rfl
  room := Nat.zero_le _
  history := ⟨[], rfl, rfl, rfl⟩
  returned finished := by cases finished

/-- One move keeps what holds at every moment. -/
theorem Faithful.step {move : Move} (faithful : q.Faithful capacity events registry)
    (moves : Moves q move after) : after.Faithful capacity events registry := by
  obtain ⟨same, room, ⟨applied, all, content, logs⟩, returned⟩ := faithful
  cases moves with
  | send first there heard free =>
    refine ⟨same, ?_, ⟨applied, ?_, content, logs⟩, fun finished => ?_⟩
    · rw [limit, same] at free
      simp only [List.length_append, List.length_cons, List.length_nil]
      omega
    · simp only [all, first, List.append_assoc, List.cons_append, List.nil_append]
    · rw [heard] at finished
      cases finished
  | hangUp there =>
    refine ⟨same, room, ⟨applied, all, content, logs⟩, fun finished => ?_⟩
    obtain ⟨free, why⟩ := returned finished
    exact ⟨free, why.imp_right fun gone => ⟨rfl, gone.2⟩⟩
  | shutDown untold =>
    exact ⟨same, room, ⟨applied, all, content, logs⟩,
      fun finished => ⟨(returned finished).1, .inl rfl⟩⟩
  | receive first running free =>
    refine ⟨same, ?_, ⟨applied, ?_, content, logs⟩, fun finished => ?_⟩
    · rw [first, List.length_cons] at room
      exact Nat.le_of_succ_le room
    · simp only [all, first, free, Option.toList_none, Option.toList_some, List.append_assoc,
        List.cons_append, List.nil_append]
    · rw [running] at finished
      cases finished
  | @apply event taken =>
    -- the receiver does not return with an event in hand
    have running : q.returned = false := Bool.eq_false_iff.mpr fun finished => by
      have free := (returned finished).1
      rw [taken] at free
      cases free
    refine ⟨same, room, ⟨applied ++ [event], ?_, ?_, ?_⟩, fun finished => ?_⟩
    · simp only [all, taken, Option.toList_none, Option.toList_some, List.append_assoc,
        List.nil_append]
    · rw [content, List.foldl_append, List.foldl_cons, List.foldl_nil]
    · simp only [logs, running, List.map_append, List.map_cons, List.map_nil, Bool.false_eq_true,
        if_false, List.append_nil]
    · rw [running] at finished
      cases finished
  | stop running free may =>
    refine ⟨same, room, ⟨applied, all, content, ?_⟩, fun _ => ⟨free, may⟩⟩
    simp only [logs, running, Bool.false_eq_true, if_false, if_true, List.append_nil]

/-- What one move keeps is kept by any number of them, each of which brings the end closer. -/
theorem Faithful.run {moves : List Move} (faithful : q.Faithful capacity events registry)
    (reached : q.after? moves = some after) :
    after.Faithful capacity events registry ∧ moves.length + after.distance = q.distance := by
  induction moves generalizing q with
  | nil =>
    cases reached
    exact ⟨faithful, Nat.zero_add _⟩
  | cons move moves ih =>
    rw [after?, List.foldlM_cons] at reached
    obtain ⟨next, moved, rest⟩ := Option.bind_eq_some_iff.mp reached
    have first := move?_eq_some_iff.mp moved
    obtain ⟨kept, distance⟩ := ih (faithful.step first) rest
    have closer := first.distance
    rw [List.length_cons]
    exact ⟨kept, by omega⟩

/-- Which of some moves can be made. -/
theorem isSome_move? {move : Move} (moves : Moves q move after) : (q.move? move).isSome = true := by
  rw [move?_eq_some_iff.mpr moves, Option.isSome_some]

/-- As long as the receiver listens, an event that is not yet applied can get on. -/
theorem gets_on (running : q.returned = false)
    (waiting : q.hungUp = false ∧ q.unsent ≠ [] ∨ q.queued ≠ [] ∨ q.taken ≠ none) :
    ∃ move ∈ [Move.apply, .receive, .send], (q.move? move).isSome = true := by
  cases taken : q.taken with
  | some event => exact ⟨.apply, by decide, isSome_move? (.apply taken)⟩
  | none =>
    cases queued : q.queued with
    | cons event rest => exact ⟨.receive, by decide, isSome_move? (.receive queued running taken)⟩
    | nil =>
      -- an empty queue has room, even if it was to hold nothing
      have room : q.queued.length < q.limit := by
        rw [queued, limit]
        exact Nat.lt_of_lt_of_le Nat.zero_lt_one (Nat.le_max_right ..)
      rcases waiting with ⟨there, left⟩ | left | left
      · obtain ⟨event, rest, unsent⟩ := List.exists_cons_of_ne_nil left
        exact ⟨.send, by decide, isSome_move? (.send unsent there running room)⟩
      · exact absurd queued left
      · exact absurd taken left

/-- Told to shut down, the receiver needs no more than to finish the event in hand. -/
theorem stops (running : q.returned = false) (told : q.shutdown = true) :
    ∃ move ∈ [Move.apply, .stop], (q.move? move).isSome = true := by
  cases taken : q.taken with
  | some event => exact ⟨.apply, by decide, isSome_move? (.apply taken)⟩
  | none => exact ⟨.stop, by decide, isSome_move? (.stop running taken (.inl told))⟩

/-- With the sender gone, the receiver needs no one else to return. -/
theorem finishes (running : q.returned = false) (gone : q.hungUp = true) :
    ∃ move ∈ [Move.receive, .apply, .stop], (q.move? move).isSome = true := by
  cases taken : q.taken with
  | some event => exact ⟨.apply, by decide, isSome_move? (.apply taken)⟩
  | none =>
    cases queued : q.queued with
    | cons event rest => exact ⟨.receive, by decide, isSome_move? (.receive queued running taken)⟩
    | nil =>
      exact ⟨.stop, by decide, isSome_move? (.stop running taken (.inr ⟨gone, queued⟩))⟩

end Moves

/-- How a queue stands after some moves. -/
structure Delivers (capacity : Nat) (events : List RoleEvent) (registry : Registry)
    (moves : List Move) (q : RoleQueue) : Prop where
  room : q.queued.length ≤ max capacity 1
  /-- The registry holds what the first events have made of it; all others are on their way, in
  order. -/
  history : ∃ applied, events = applied ++ q.taken.toList ++ q.queued ++ q.unsent ∧
    q.registry = applied.foldl Registry.applyEvent registry ∧
    q.logs = applied.map RoleEvent.record ++ if q.returned then [stopped] else []
  /-- The receiver returns with no event in hand, and if it was not told to shut down, then because
  the sender has gone and it has applied all that was sent. -/
  returned : q.returned = true → q.taken = none ∧ (q.shutdown = false → q.hungUp = true ∧
    ∃ sent, events = sent ++ q.unsent ∧ q.registry = sent.foldl Registry.applyEvent registry)
  /-- No side waits for the other while events are to be sent or applied. -/
  gets_on : q.returned = false → q.hungUp = false ∧ q.unsent ≠ [] ∨ q.queued ≠ [] ∨ q.taken ≠ none →
    ∃ move ∈ [Move.apply, .receive, .send], (q.move? move).isSome = true
  stops : q.returned = false → q.shutdown = true →
    ∃ move ∈ [Move.apply, .stop], (q.move? move).isSome = true
  finishes : q.returned = false → q.hungUp = true →
    ∃ move ∈ [Move.receive, .apply, .stop], (q.move? move).isSome = true
  /-- Moves come to an end. -/
  bounded : moves.length + q.distance = 3 * events.length + 3

/-- Whatever moves are made, and however little the queue is to hold, events arrive in order. -/
theorem delivers_in_order (capacity : Nat) (events : List RoleEvent) (registry : Registry)
    (moves : List Move) (q : RoleQueue)
    (reached : (start capacity events registry).after? moves = some q) :
    q.Delivers capacity events registry moves := by
  obtain ⟨faithful, bounded⟩ := faithful_start.run reached
  refine {
    room := faithful.room
    history := faithful.history
    returned := fun finished => ?_
    gets_on := RoleQueue.gets_on
    stops := RoleQueue.stops
    finishes := RoleQueue.finishes
    bounded := ?_ }
  · obtain ⟨free, why⟩ := faithful.returned finished
    refine ⟨free, fun untold => ?_⟩
    obtain ⟨gone, empty⟩ := why.resolve_left (by simp [untold])
    obtain ⟨applied, all, content, -⟩ := faithful.history
    refine ⟨gone, applied, ?_, content⟩
    simpa only [free, empty, Option.toList_none, List.append_nil] using all
  · simpa [RoleQueue.distance, start] using bounded

/-- Two events go through a queue that is to hold none, and then the sender goes. -/
theorem delivers_in_order_sample :
    let events := [RoleEvent.resync [], .desired ⟨"reader", "apps", "pod"⟩]
    ∃ q, (start 0 events {}).after?
        [.send, .receive, .send, .hangUp, .apply, .receive, .apply, .stop] = some q ∧
      q.returned = true ∧ q.unsent = [] ∧
      ∃ sent, events = sent ++ q.unsent ∧ q.registry = sent.foldl Registry.applyEvent {} := by
  intro events
  have reached : (start 0 events {}).after?
      [.send, .receive, .send, .hangUp, .apply, .receive, .apply, .stop] =
        some { capacity := 0, unsent := [], hungUp := true, returned := true
               registry := events.foldl Registry.applyEvent {}
               logs := events.map RoleEvent.record ++ [stopped] } := rfl
  have delivers := delivers_in_order 0 events {} _ _ reached
  exact ⟨_, reached, rfl, rfl, ((delivers.returned rfl).2 rfl).2⟩

/-- Taking turns, the two sides get all events to the registry. -/
theorem Faithful.drain {capacity : Nat} {events : List RoleEvent} {registry : Registry}
    {q : RoleQueue} (faithful : q.Faithful capacity events registry) (running : q.returned = false)
    (there : q.hungUp = false) :
    q.drain.registry = events.foldl Registry.applyEvent registry := by
  fun_induction RoleQueue.drain q with
  | case1 q after advanced ih =>
    obtain ⟨move, turn, moved⟩ := List.exists_of_findSome?_eq_some advanced
    have moves := move?_eq_some_iff.mp moved
    refine ih (faithful.step moves) ?_ ?_
    · cases moves with
      | stop => simp at turn
      | _ => exact running
    · cases moves with
      | hangUp => simp at turn
      | _ => exact there
  | case2 q idle =>
    -- whatever was still on its way could get on
    have arrived : ¬ (q.hungUp = false ∧ q.unsent ≠ [] ∨ q.queued ≠ [] ∨ q.taken ≠ none) := by
      intro waiting
      obtain ⟨move, turn, can⟩ := RoleQueue.gets_on running waiting
      rw [List.findSome?_eq_none_iff.mp idle move turn] at can
      cases can
    simp only [there, true_and, not_or, ne_eq, Classical.not_not] at arrived
    obtain ⟨applied, all, content, -⟩ := faithful.history
    simp only [arrived, Option.toList_none, List.append_nil] at all
    rw [content, all]

end RoleSecrets.RoleQueue
