/-! # Programs that ask

A program is either done or asks a question and goes on with the answer. Who answers is left open:
`Program.run` takes the answers from a server with a state of its own, and keeps every question with
the answer it got and the state it met. What a program did is read off these steps.
-/

namespace RoleSecrets

/-- A program with questions in `Q`, where the answer to `q` is in `R q`. -/
inductive Program (Q : Type) (R : Q → Type) (α : Type) where
  | done (value : α)
  | ask (question : Q) (next : R question → Program Q R α)

namespace Program

variable {Q : Type} {R : Q → Type} {σ α β : Type}

/-- Goes on with the value of a program. -/
protected def bind : Program Q R α → (α → Program Q R β) → Program Q R β
  | done value, f => f value
  | ask question next, f => ask question fun answer => (next answer).bind f

instance : Monad (Program Q R) where
  pure := done
  bind := Program.bind

def request (question : Q) : Program Q R (R question) := ask question done

/-- A question with its answer and the state of the server before it. -/
structure Step (Q : Type) (R : Q → Type) (σ : Type) where
  before : σ
  question : Q
  answer : R question

/-- What comes of a program: its value, the server's state at the end, and the steps. -/
structure Outcome (Q : Type) (R : Q → Type) (σ α : Type) where
  value : α
  state : σ
  steps : List (Step Q R σ)

/-- Answers the questions of a program one after the other. -/
def run (serve : (question : Q) → σ → R question × σ) :
    Program Q R α → σ → Outcome Q R σ α
  | done value, state => ⟨value, state, []⟩
  | ask question next, state =>
      let (answer, after) := serve question state
      let rest := run serve (next answer) after
      { rest with steps := ⟨state, question, answer⟩ :: rest.steps }

@[simp] theorem run_done (serve : (question : Q) → σ → R question × σ) (value : α) (state : σ) :
    run serve (done value) state = ⟨value, state, []⟩ := rfl

@[simp] theorem run_pure (serve : (question : Q) → σ → R question × σ) (value : α) (state : σ) :
    run serve (pure value) state = ⟨value, state, []⟩ := rfl

theorem run_bind (serve : (question : Q) → σ → R question × σ) (p : Program Q R α)
    (f : α → Program Q R β) (state : σ) :
    run serve (p >>= f) state =
      let first := run serve p state
      let second := run serve (f first.value) first.state
      ⟨second.value, second.state, first.steps ++ second.steps⟩ := by
  induction p generalizing state with
  | done value => rfl
  | ask question next ih =>
    have step := ih (serve question state).1 (serve question state).2
    simp only [bind, Program.bind, run] at step ⊢
    rw [step]
    rfl

theorem map_id (p : Program Q R α) : id <$> p = p := by
  induction p with
  | done value => rfl
  | ask question next ih => exact congrArg (ask question) (funext ih)

theorem bind_assoc {γ : Type} (p : Program Q R α) (f : α → Program Q R β)
    (g : β → Program Q R γ) : p >>= f >>= g = p >>= fun a => f a >>= g := by
  induction p with
  | done value => rfl
  | ask question next ih => exact congrArg (ask question) (funext ih)

instance : LawfulMonad (Program Q R) :=
  LawfulMonad.mk' (Program Q R) map_id (fun _ _ => rfl) bind_assoc

/-- Answers the questions of a program outside the library. -/
def runM {m : Type → Type} [Monad m] (serve : (question : Q) → m (R question)) :
    Program Q R α → m α
  | done value => pure value
  | ask question next => do runM serve (next (← serve question))

end Program

end RoleSecrets
