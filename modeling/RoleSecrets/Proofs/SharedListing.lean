import Mathlib.Data.List.Induction
import RoleSecrets.Proofs.Consumers
import RoleSecrets.SharedRegistry

/-! # Declarations come from a complete listing

The flag of a registry is set after a listing has been put in place, and a caller looks at the flag
before it reads. So whoever reads after having seen the flag reads what a complete listing and later
changes have made of the registry, however the steps of writers and callers follow one another.
-/

namespace RoleSecrets

theorem Registry.Tight.applyStep {r : Registry} (tight : r.Tight) (step : RegistryStep) :
    (r.applyStep step).Tight := by
  cases step with
  | add c => exact tight.apply (.add c)
  | remove c => exact tight.apply (.remove c)
  | swap consumers => exact tight.apply (.replace consumers)
  | markSynced => exact tight

namespace SharedRegistry

variable {ι : Type} [DecidableEq ι]

/-- Whether a complete listing has been put in place during some turns. -/
def Listed (start : SharedRegistry ι) (schedule : List ι) : Prop :=
  ∃ earlier turn later consumers steps, schedule = earlier ++ turn :: later ∧
    (start.after earlier).parties turn = .writer (.swap consumers :: steps)

/-- Whether a party had its turn after a complete listing, and declarations are for the registry as
it was then. -/
def Tells (start : SharedRegistry ι) (schedule : List ι) (turn : ι)
    (declarations : List Declaration) : Prop :=
  ∃ earlier later, schedule = earlier ++ turn :: later ∧ start.Listed earlier ∧
    declarations = (start.after earlier).world.registry.snapshot.map fun (role, ns) =>
      Source.podDeclaration role ns

/-- Whether a party had its turn while the flag was not set. -/
def MeetsUnsynced (start : SharedRegistry ι) (schedule : List ι) (turn : ι) : Prop :=
  ∃ earlier later, schedule = earlier ++ turn :: later ∧
    (start.after earlier).world.registry.synced = false

/-- How far a party can have come. -/
inductive Stage (start : SharedRegistry ι) (schedule : List ι) (turn : ι) : Party → Prop
  | writing (changes : List RegistryChange) : Stage start schedule turn (.writing changes)
  /-- A listing is in place, and the flag is still to be set. -/
  | swapped (changes : List RegistryChange) (listed : start.Listed schedule) :
      Stage start schedule turn
        (.writer (.markSynced :: changes.flatMap RegistryChange.steps))
  | calling : Stage start schedule turn .calling
  /-- The flag has been seen. -/
  | synced (listed : start.Listed schedule) :
      Stage start schedule turn (.caller (.ask .registryRoles fun roles =>
        .done (.ok (roles.map fun (role, ns) => Source.podDeclaration role ns))))
  | refused (meets : start.MeetsUnsynced schedule turn) :
      Stage start schedule turn (.caller (.done (.error .notSynced)))
  | told {declarations : List Declaration} (tells : start.Tells schedule turn declarations) :
      Stage start schedule turn (.caller (.done (.ok declarations)))

/-- What holds at every moment. -/
structure Orderly (start : SharedRegistry ι) (schedule : List ι) : Prop where
  tight : (start.after schedule).world.registry.Tight
  /-- The flag is not set before a listing is in place. -/
  listed : (start.after schedule).world.registry.synced = true → start.Listed schedule
  stages : ∀ turn, start.Stage schedule turn ((start.after schedule).parties turn)

section Turns

variable {start : SharedRegistry ι} {schedule : List ι}

theorem Listed.later (listed : start.Listed schedule) (more : List ι) :
    start.Listed (schedule ++ more) := by
  obtain ⟨earlier, turn, later, consumers, steps, rfl, party⟩ := listed
  exact ⟨earlier, turn, later ++ more, consumers, steps, by simp only [List.append_assoc,
    List.cons_append], party⟩

theorem Tells.later {turn : ι} {declarations : List Declaration}
    (tells : start.Tells schedule turn declarations) (more : List ι) :
    start.Tells (schedule ++ more) turn declarations := by
  obtain ⟨earlier, later, rfl, listed, same⟩ := tells
  exact ⟨earlier, later ++ more, by simp only [List.append_assoc, List.cons_append], listed, same⟩

theorem MeetsUnsynced.later {turn : ι} (meets : start.MeetsUnsynced schedule turn)
    (more : List ι) : start.MeetsUnsynced (schedule ++ more) turn := by
  obtain ⟨earlier, later, rfl, unsynced⟩ := meets
  exact ⟨earlier, later ++ more, by simp only [List.append_assoc, List.cons_append], unsynced⟩

/-- What others do does not bring a party further, nor back. -/
theorem Stage.later {turn : ι} {party : Party} (stage : start.Stage schedule turn party)
    (more : List ι) : start.Stage (schedule ++ more) turn party := by
  cases stage with
  | writing changes => exact .writing changes
  | swapped changes listed => exact .swapped changes (listed.later more)
  | calling => exact .calling
  | synced listed => exact .synced (listed.later more)
  | refused meets => exact .refused (meets.later more)
  | told tells => exact .told (tells.later more)

/-- It is enough to look at the one whose turn it is, and at the registry. -/
theorem Orderly.moved (orderly : start.Orderly schedule) {turn : ι} {party : Party} {w : World}
    (moves : (start.after schedule).advance turn =
      { parties := Function.update (start.after schedule).parties turn party, world := w })
    (tight : w.registry.Tight)
    (listed : w.registry.synced = true → start.Listed (schedule ++ [turn]))
    (stage : start.Stage (schedule ++ [turn]) turn party) : start.Orderly (schedule ++ [turn]) := by
  rw [← after_concat] at moves
  refine ⟨by rw [moves]; exact tight, by rw [moves]; exact listed, fun other => ?_⟩
  rw [moves]
  dsimp only
  by_cases same : other = turn
  · subst same
    rw [Function.update_self]
    exact stage
  · rw [Function.update_of_ne same]
    exact (orderly.stages other).later _

/-- A turn that is missed changes nothing. -/
theorem Orderly.missed (orderly : start.Orderly schedule) {turn : ι}
    (same : (start.after schedule).advance turn = start.after schedule) :
    start.Orderly (schedule ++ [turn]) :=
  orderly.moved (same.trans (by rw [Function.update_eq_self])) orderly.tight
    (fun synced => (orderly.listed synced).later _) ((orderly.stages turn).later _)

/-- What holds at every moment holds after one more turn. -/
theorem Orderly.advance (orderly : start.Orderly schedule) (turn : ι) :
    start.Orderly (schedule ++ [turn]) := by
  have stage := orderly.stages turn
  have before : ∀ synced : (start.after schedule).world.registry.synced = true,
      start.Listed (schedule ++ [turn]) := fun synced => (orderly.listed synced).later _
  generalize party : (start.after schedule).parties turn = here at stage
  cases stage with
  | writing changes =>
    cases changes with
    | nil => exact orderly.missed (advance_written party)
    | cons change changes =>
      have tight := orderly.tight.applyStep
      cases change with
      | add c => exact orderly.moved (advance_writer party) (tight _) before (.writing changes)
      | remove c => exact orderly.moved (advance_writer party) (tight _) before (.writing changes)
      | replace consumers =>
        -- this is the moment from which on there is a complete listing
        have listed : start.Listed (schedule ++ [turn]) := ⟨schedule, turn, [], _, _, rfl, party⟩
        exact orderly.moved (advance_writer party) (tight _) (fun _ => listed)
          (.swapped changes listed)
  | swapped changes listed =>
    exact orderly.moved (advance_writer party) (orderly.tight.applyStep .markSynced)
      (fun _ => listed.later _) (.writing changes)
  | calling =>
    refine orderly.moved (advance_caller party) orderly.tight before ?_
    cases synced : (start.after schedule).world.registry.synced with
    | true =>
      rw [World.serve, synced]
      exact .synced (before synced)
    | false =>
      rw [World.serve, synced]
      exact .refused ⟨schedule, [], rfl, synced⟩
  | synced listed =>
    exact orderly.moved (advance_caller party) orderly.tight before
      (.told ⟨schedule, [], rfl, listed, rfl⟩)
  | refused => exact orderly.missed (advance_done party)
  | told tells => exact orderly.missed (advance_done party)

theorem orderly_after (fresh : start.Orderly []) (schedule : List ι) : start.Orderly schedule := by
  induction schedule using List.reverseRecOn with
  | nil => exact fresh
  | append_singleton earlier turn ih => exact ih.advance turn

end Turns

/-- Whoever is told declarations is told those of the registry at the moment it read, and by then a
complete listing had been put in place. So changes alone are never taken for all there is. Whoever is
refused has asked before the flag was set. -/
theorem tells_complete_listing (start : SharedRegistry ι)
    (parties : ∀ i, (∃ changes, start.parties i = .writing changes) ∨ start.parties i = .calling)
    (tight : start.world.registry.Tight) (unsynced : start.world.registry.synced = false)
    (schedule : List ι) (i : ι) :
    (∀ declarations, (start.after schedule).parties i = .caller (.done (.ok declarations)) →
      ∃ earlier later, schedule = earlier ++ i :: later ∧ start.Listed earlier ∧
        declarations = (start.after earlier).world.registry.snapshot.map (fun (role, ns) =>
          Source.podDeclaration role ns) ∧
        (declarations.map fun d => (d.role, d.ns)).Nodup ∧
        ∀ role ns, (role, ns) ∈ (declarations.map fun d => (d.role, d.ns)) ↔
          ∃ name, (⟨role, ns, name⟩ : Consumer) ∈ (start.after earlier).world.registry) ∧
    (∀ e, (start.after schedule).parties i = .caller (.done (.error e)) →
      e = .notSynced ∧ start.MeetsUnsynced schedule i) := by
  have fresh : start.Orderly [] := by
    refine ⟨tight, fun synced => ?_, fun turn => ?_⟩
    · rw [after, List.foldl_nil, unsynced] at synced
      cases synced
    · rcases parties turn with ⟨changes, writing⟩ | calling
      · exact writing ▸ .writing changes
      · exact calling ▸ .calling
  have stage := (orderly_after fresh schedule).stages i
  constructor
  · intro declarations told
    rw [told] at stage
    cases stage with
    | told tells =>
      obtain ⟨earlier, later, split, listed, same⟩ := tells
      have pairs : declarations.map (fun d => (d.role, d.ns)) =
          (start.after earlier).world.registry.snapshot := by
        rw [same, List.map_map]
        exact List.map_id _
      refine ⟨earlier, later, split, listed, same, ?_, fun role ns => ?_⟩
      · rw [pairs]
        exact Registry.nodup_snapshot _
      · rw [pairs]
        exact (orderly_after fresh earlier).tight.mem_snapshot
  · intro e refused
    rw [refused] at stage
    cases stage with
    | refused meets => exact ⟨rfl, meets⟩

section Sample

/-- A writer that adds a pod and then takes over a listing, and two callers. -/
private def sample : SharedRegistry (Fin 3) where
  parties
    | 0 => .writing [.add ⟨"reader", "apps", "first"⟩, .replace [⟨"writer", "apps", "second"⟩]]
    | _ => .calling
  world := { expiration := .epoch }

/-- The caller that asks when a listing is in place but the flag is not set yet is refused; the
other is told of the listing. -/
theorem tells_complete_listing_sample :
    (sample.after [0, 0, 1, 0, 2, 2]).parties 1 = .caller (.done (.error .notSynced)) ∧
      (sample.after [0, 0, 1, 0, 2, 2]).parties 2 =
        .caller (.done (.ok [Source.podDeclaration "writer" "apps"])) ∧
      ∃ earlier later, [0, 0, 1, 0, 2, 2] = earlier ++ 2 :: later ∧ sample.Listed earlier := by
  have told : (sample.after [0, 0, 1, 0, 2, 2]).parties 2 =
      .caller (.done (.ok [Source.podDeclaration "writer" "apps"])) := rfl
  have parties : ∀ i, (∃ changes, sample.parties i = .writing changes) ∨
      sample.parties i = .calling := by
    intro i
    match i with
    | 0 => exact .inl ⟨_, rfl⟩
    | 1 => exact .inr rfl
    | 2 => exact .inr rfl
  obtain ⟨earlier, later, split, listed, -⟩ := (tells_complete_listing sample parties
    Registry.tight_empty rfl [0, 0, 1, 0, 2, 2] 2).1 _ told
  exact ⟨rfl, told, earlier, later, split, listed⟩

end Sample

end SharedRegistry

end RoleSecrets
