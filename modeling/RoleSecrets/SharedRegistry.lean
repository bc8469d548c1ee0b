import Mathlib.Logic.Function.Basic
import RoleSecrets.Source
import RoleSecrets.World

/-! # A registry that is shared

Writers change a registry while callers ask for the declarations of its roles. What a party does
under one lock, or to the flag, is one step, and in between two steps of one party there can be any
steps of others. So there is a moment when a listing is in place that the flag does not tell of, and
what a caller reads may be newer than the flag it has seen.
-/

namespace RoleSecrets

/-- What can happen to a registry at once. -/
inductive RegistryStep
  | add (consumer : Consumer)
  | remove (consumer : Consumer)
  | swap (consumers : List Consumer)
  | markSynced
deriving DecidableEq, Repr

def Registry.applyStep (r : Registry) : RegistryStep → Registry
  | .add consumer => r.add consumer
  | .remove consumer => r.remove consumer
  | .swap consumers => r.swap consumers
  | .markSynced => r.markSynced

def RegistryChange.steps : RegistryChange → List RegistryStep
  | .add consumer => [.add consumer]
  | .remove consumer => [.remove consumer]
  | .replace consumers => [.swap consumers, .markSynced]

/-- With no one else around, the steps of a change come to the same. -/
theorem RegistryChange.foldl_steps (change : RegistryChange) (r : Registry) :
    change.steps.foldl Registry.applyStep r = r.apply change := by
  cases change <;> rfl

namespace SharedRegistry

/-- One that takes part: a writer with the steps it has still to take, or a caller with what is left
of its call. -/
inductive Party
  | writer (steps : List RegistryStep)
  | caller (call : Controller (Except SourceError (List Declaration)))

/-- A writer before it has begun with some changes. -/
def Party.writing (changes : List RegistryChange) : Party :=
  .writer (changes.flatMap RegistryChange.steps)

/-- A caller before it has asked anything. -/
def Party.calling : Party := .caller Source.ofPods.declarations

end SharedRegistry

/-- A registry in its world, with all that use it. -/
structure SharedRegistry (ι : Type) where
  parties : ι → SharedRegistry.Party
  world : World

namespace SharedRegistry

variable {ι : Type} [DecidableEq ι]

/-- Lets a party take its next step. One that has none left misses its turn. -/
def advance (s : SharedRegistry ι) (turn : ι) : SharedRegistry ι :=
  match s.parties turn with
  | .writer [] => s
  | .writer (step :: later) =>
      { parties := Function.update s.parties turn (.writer later)
        world := { s.world with registry := s.world.registry.applyStep step } }
  | .caller (.done _) => s
  | .caller (.ask question next) =>
      let (answer, world) := World.serve question s.world
      { parties := Function.update s.parties turn (.caller (next answer)), world }

/-- What has come of the parties after some turns. -/
def after (s : SharedRegistry ι) (schedule : List ι) : SharedRegistry ι :=
  schedule.foldl advance s

theorem after_concat (s : SharedRegistry ι) (schedule : List ι) (turn : ι) :
    s.after (schedule ++ [turn]) = (s.after schedule).advance turn := by
  rw [after, List.foldl_append]
  rfl

variable {s : SharedRegistry ι} {turn : ι}

theorem advance_writer {step : RegistryStep} {later : List RegistryStep}
    (party : s.parties turn = .writer (step :: later)) :
    s.advance turn =
      { parties := Function.update s.parties turn (.writer later)
        world := { s.world with registry := s.world.registry.applyStep step } } := by
  rw [advance, party]

theorem advance_caller {question : Query}
    {next : Reply question → Controller (Except SourceError (List Declaration))}
    (party : s.parties turn = .caller (.ask question next)) :
    s.advance turn =
      { parties := Function.update s.parties turn
          (.caller (next (World.serve question s.world).1))
        world := (World.serve question s.world).2 } := by
  rw [advance, party]

theorem advance_written (party : s.parties turn = .writer []) : s.advance turn = s := by
  rw [advance, party]

theorem advance_done {value : Except SourceError (List Declaration)}
    (party : s.parties turn = .caller (.done value)) : s.advance turn = s := by
  rw [advance, party]

end SharedRegistry

end RoleSecrets
