import RoleSecrets.World

/-! # What a program asks, and what comes of it

`Program.Asks` bounds the questions of a program whatever the answers are; from it follows what all
steps of a run have in common and which properties of the server's state a run keeps. The run of a
program in a world is taken apart along its binds.
-/

namespace RoleSecrets

namespace Program

variable {Q : Type} {R : Q → Type} {σ α β : Type}

/-- Whether all questions of a program have a property, whatever it is answered. -/
def Asks (P : Q → Prop) : Program Q R α → Prop
  | done _ => True
  | ask question next => P question ∧ ∀ answer, (next answer).Asks P

namespace Asks

variable {P P' : Q → Prop}

theorem pure (value : α) : (Pure.pure value : Program Q R α).Asks P := trivial

theorem request {question : Q} (holds : P question) :
    (Program.request question : Program Q R (R question)).Asks P := ⟨holds, fun _ => trivial⟩

theorem bind {p : Program Q R α} {f : α → Program Q R β} (first : p.Asks P)
    (second : ∀ value, (f value).Asks P) : (p >>= f).Asks P := by
  induction p with
  | done value => exact second value
  | ask question next ih => exact ⟨first.1, fun answer => ih answer (first.2 answer)⟩

theorem mono {p : Program Q R α} (asks : p.Asks P) (weaker : ∀ question, P question → P' question) :
    p.Asks P' := by
  induction p with
  | done value => trivial
  | ask question next ih => exact ⟨weaker _ asks.1, fun answer => ih answer (asks.2 answer)⟩

theorem of_forall (holds : ∀ question, P question) (p : Program Q R α) : p.Asks P := by
  induction p with
  | done value => trivial
  | ask question next ih => exact ⟨holds question, fun answer => ih answer⟩

theorem mapM {γ : Type} {f : γ → Program Q R β} (items : List γ) (each : ∀ item, (f item).Asks P) :
    (items.mapM f).Asks P := by
  induction items with
  | nil => rw [List.mapM_nil]; exact pure _
  | cons item items ih =>
    rw [List.mapM_cons]
    exact (each item).bind fun _ => ih.bind fun _ => pure _

theorem foldlM {γ : Type} {f : β → γ → Program Q R β} {items : List γ}
    (each : ∀ item ∈ items, ∀ value, (f value item).Asks P) (value : β) :
    (items.foldlM f value).Asks P := by
  induction items generalizing value with
  | nil => rw [List.foldlM_nil]; exact pure _
  | cons item items ih =>
    rw [List.foldlM_cons]
    exact (each item (List.mem_cons_self ..) value).bind fun value =>
      ih (fun item member => each item (List.mem_cons_of_mem _ member)) value

/-- What the questions of a program keep is kept by its run, and holds before each of its steps. -/
theorem run (serve : (question : Q) → σ → R question × σ) (I : σ → Prop)
    (keeps : ∀ question state, P question → I state → I (serve question state).2)
    {p : Program Q R α} (asks : p.Asks P) {state : σ} (start : I state) :
    I (p.run serve state).state ∧
      ∀ step ∈ (p.run serve state).steps, P step.question ∧ I step.before := by
  induction p generalizing state with
  | done value => exact ⟨start, fun _ member => absurd member List.not_mem_nil⟩
  | ask question next ih =>
    obtain ⟨last, steps⟩ := ih (serve question state).1 (asks.2 _)
      (keeps question state asks.1 start)
    refine ⟨last, fun step member => ?_⟩
    rcases List.mem_cons.mp member with rfl | later
    · exact ⟨asks.1, start⟩
    · exact steps step later

end Asks

/-- Whether a program asks some questions first and, from some point on, only others. -/
def AsksThen (P P' : Q → Prop) : Program Q R α → Prop
  | done _ => True
  | ask question next =>
      (P question ∧ ∀ answer, (next answer).AsksThen P P') ∨ (ask question next).Asks P'

theorem Asks.then_bind {P P' : Q → Prop} {p : Program Q R α} {f : α → Program Q R β}
    (first : p.Asks P) (second : ∀ value, (f value).AsksThen P P') : (p >>= f).AsksThen P P' := by
  induction p with
  | done value => exact second value
  | ask question next ih => exact .inl ⟨first.1, fun answer => ih answer (first.2 answer)⟩

theorem Asks.asksThen {P P' : Q → Prop} {p : Program Q R α} (asks : p.Asks P') :
    p.AsksThen P P' := by
  cases p with
  | done value => trivial
  | ask question next => exact .inr asks

/-- Every answer in a run is the server's. -/
theorem answer_of_mem_run (serve : (question : Q) → σ → R question × σ) {p : Program Q R α}
    {state : σ} {step : Step Q R σ} (member : step ∈ (p.run serve state).steps) :
    step.answer = (serve step.question step.before).1 := by
  induction p generalizing state with
  | done value => exact absurd member List.not_mem_nil
  | ask question next ih =>
    rcases List.mem_cons.mp member with rfl | later
    · rfl
    · exact ih _ later

/-- What comes of a program that goes on after some steps. -/
def Outcome.after (steps : List (Step Q R σ)) (o : Outcome Q R σ α) : Outcome Q R σ α :=
  { o with steps := steps ++ o.steps }

@[simp] theorem Outcome.after_mk (steps later : List (Step Q R σ)) (value : α) (state : σ) :
    Outcome.after steps ⟨value, state, later⟩ = ⟨value, state, steps ++ later⟩ := rfl

@[simp] theorem Outcome.after_after (first second : List (Step Q R σ)) (o : Outcome Q R σ α) :
    (o.after second).after first = o.after (first ++ second) := by
  simp [after]

end Program

namespace World

variable {α β : Type}

/-- Whatever is answered in a world, no other questions are asked. -/
theorem asked_of_mem_run {P : Query → Prop} {p : Controller α} (asks : p.Asks P) (w : World) :
    ∀ step ∈ (w.run p).steps, P step.question := fun step member =>
  ((asks.run serve (fun _ => True) (fun _ _ _ _ => trivial) trivial).2 step member).1

/-- What answering keeps is kept by every run, and holds before each of its steps. -/
theorem run_keeps {I : World → Prop}
    (keeps : ∀ question before, I before → I (serve question before).2) (p : Controller α)
    {w : World} (start : I w) : I (w.run p).state ∧ ∀ step ∈ (w.run p).steps, I step.before := by
  have asks : p.Asks fun _ => True := .of_forall (fun _ => trivial) p
  obtain ⟨last, steps⟩ := asks.run serve I (fun question before _ => keeps question before) start
  exact ⟨last, fun step member => (steps step member).2⟩

theorem run_bind (w : World) (p : Controller α) (f : α → Controller β) :
    w.run (p >>= f) =
      ⟨((w.run p).state.run (f (w.run p).value)).value,
        ((w.run p).state.run (f (w.run p).value)).state,
        (w.run p).steps ++ ((w.run p).state.run (f (w.run p).value)).steps⟩ :=
  Program.run_bind serve p f w

/-- Once it is known what comes of the first part, the second goes on from there. -/
theorem run_bind_of_eq {w after : World} {p : Controller α} {value : α} {steps : List Step}
    (first : w.run p = ⟨value, after, steps⟩) (f : α → Controller β) :
    w.run (p >>= f) = (after.run (f value)).after steps := by
  rw [run_bind, first]
  rfl

@[simp] theorem run_pure (w : World) (value : α) :
    w.run (pure value : Controller α) = ⟨value, w, []⟩ := rfl

@[simp] theorem run_request (w : World) (question : Query) :
    w.run (Controller.request question) =
      ⟨(serve question w).1, (serve question w).2, [⟨w, question, (serve question w).1⟩]⟩ := rfl

theorem run_request_of_eq {w after : World} {question : Query} {answer : Reply question}
    (served : serve question w = (answer, after)) :
    w.run (Controller.request question) = ⟨answer, after, [⟨w, question, answer⟩]⟩ := by
  rw [run_request, served]

@[simp] theorem run_log (w : World) (level : LogLevel) (message : String) (fields : Fields String) :
    w.run (Controller.log level message fields) =
      ⟨(), w, [⟨w, .log ⟨level, message, fields⟩, ()⟩]⟩ := rfl

end World

end RoleSecrets
