import Mathlib.Logic.Function.Basic
import RoleSecrets.Program

/-! # Programs that race

Several programs can ask one server at the same time. Each question is answered at once, but in
between the server may have answered any questions of the other programs. Whose turn it is when is
said by a schedule.
-/

namespace RoleSecrets.Program

variable {ι Q : Type} {R : Q → Type} {σ α : Type} [DecidableEq ι]

/-- Answers the questions of some programs, in the turns of a schedule; one that is done misses its
turn. Every step is kept with the one whose turn it was. -/
def race (serve : (question : Q) → σ → R question × σ) (tasks : ι → Program Q R α) (state : σ) :
    List ι → List (ι × Step Q R σ)
  | [] => []
  | turn :: later =>
      match tasks turn with
      | done _ => race serve tasks state later
      | ask question next =>
          let (answer, after) := serve question state
          (turn, ⟨state, question, answer⟩) ::
            race serve (Function.update tasks turn (next answer)) after later

variable (serve : (question : Q) → σ → R question × σ) {tasks : ι → Program Q R α} (state : σ)
  {turn : ι} (later : List ι)

theorem race_of_done {value : α} (task : tasks turn = done value) :
    race serve tasks state (turn :: later) = race serve tasks state later := by
  rw [race, task]

theorem race_of_ask {question : Q} {next : R question → Program Q R α}
    (task : tasks turn = ask question next) :
    race serve tasks state (turn :: later) =
      (turn, ⟨state, question, (serve question state).1⟩) ::
        race serve (Function.update tasks turn (next (serve question state).1))
          (serve question state).2 later := by
  rw [race, task]

/-- A program that has all the turns is run. -/
theorem race_replicate (tasks : ι → Program Q R α) (turn : ι) (turns : Nat) :
    race serve tasks state (List.replicate turns turn) =
      ((run serve (tasks turn) state).steps.take turns).map (turn, ·) := by
  induction turns generalizing tasks state with
  | zero => rfl
  | succ turns ih =>
    rw [List.replicate_succ]
    cases task : tasks turn with
    | done value => rw [race_of_done serve state _ task, ih, task, run_done, List.take_nil,
        List.take_nil]
    | ask question next =>
      rw [race_of_ask serve state _ task, ih, Function.update_self]
      rfl

end RoleSecrets.Program
