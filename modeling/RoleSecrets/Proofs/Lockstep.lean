import Mathlib.Data.List.Forall2
import RoleSecrets.Proofs.Asking

/-! # Programs in lockstep

Two programs go in lockstep when they ask alike questions, and go on to do so for as long as the
answers are alike. If two servers answer alike questions alike, so that their states stay related,
then the runs of the programs have alike steps and related values.
-/

namespace RoleSecrets.Program

variable {Q : Type} {R : Q → Type} {σ τ α β γ δ : Type}

/-- Which questions are alike, and which answers to them. -/
structure Likeness (Q : Type) (R : Q → Type) where
  questions : Q → Q → Prop
  answers : (q q' : Q) → R q → R q' → Prop

namespace Likeness

/-- A likeness of no more than the questions with certain properties. -/
def among (L : Likeness Q R) (P P' : Q → Prop) : Likeness Q R where
  questions q q' := P q ∧ P' q' ∧ L.questions q q'
  answers := L.answers

end Likeness

/-- Whether two programs go in lockstep to related values. -/
def Lockstep (L : Likeness Q R) (V : α → β → Prop) : Program Q R α → Program Q R β → Prop
  | done value, done value' => V value value'
  | ask q next, ask q' next' => L.questions q q' ∧
      ∀ answer answer', L.answers q q' answer answer' → Lockstep L V (next answer) (next' answer')
  | _, _ => False

namespace Lockstep

variable {L : Likeness Q R} {V : α → β → Prop} {W : γ → δ → Prop} {p : Program Q R α}
  {p' : Program Q R β}

theorem pure {value : α} {value' : β} (related : V value value') :
    Lockstep L V (Pure.pure value : Program Q R α) (Pure.pure value') := related

theorem bind {f : α → Program Q R γ} {f' : β → Program Q R δ} (first : Lockstep L V p p')
    (second : ∀ value value', V value value' → Lockstep L W (f value) (f' value')) :
    Lockstep L W (p >>= f) (p' >>= f') := by
  induction p generalizing p' with
  | done value =>
    cases p' with
    | done value' => exact second value value' first
    | ask q' next' => cases first
  | ask q next ih =>
    cases p' with
    | done value' => cases first
    | ask q' next' => exact ⟨first.1, fun answer answer' alike => ih answer (first.2 _ _ alike)⟩

/-- Loops over related items go in lockstep if their turns do. -/
theorem foldlM {ι κ : Type} {T : ι → κ → Prop} {f : α → ι → Program Q R α}
    {f' : β → κ → Program Q R β} {items : List ι} {items' : List κ}
    (related : List.Forall₂ T items items')
    (each : ∀ item item' value value', T item item' → V value value' →
      Lockstep L V (f value item) (f' value' item'))
    {value : α} {value' : β} (start : V value value') :
    Lockstep L V (items.foldlM f value) (items'.foldlM f' value') := by
  induction related generalizing value value' with
  | nil => exact pure start
  | cons first _ ih =>
    rw [List.foldlM_cons, List.foldlM_cons]
    exact (each _ _ _ _ first start).bind fun _ _ next => ih next

/-- A program goes in lockstep with itself where only the same answers are alike. -/
theorem refl {P : Q → Prop} (asks : p.Asks P) (strict : ∀ q, P q → L.questions q q ∧
    ∀ answer answer', L.answers q q answer answer' → answer = answer') : Lockstep L Eq p p := by
  induction p with
  | done value => rfl
  | ask q next ih =>
    obtain ⟨alike, equal⟩ := strict q asks.1
    refine ⟨alike, fun answer answer' alike => ?_⟩
    obtain rfl := equal answer answer' alike
    exact ih answer (asks.2 answer)

/-- What is known of the questions of each program may be used for both. -/
theorem among {P P' : Q → Prop} (lockstep : Lockstep L V p p') (asks : p.Asks P)
    (asks' : p'.Asks P') : Lockstep (L.among P P') V p p' := by
  induction p generalizing p' with
  | done value =>
    cases p' with
    | done value' => exact lockstep
    | ask q' next' => cases lockstep
  | ask q next ih =>
    cases p' with
    | done value' => cases lockstep
    | ask q' next' =>
      exact ⟨⟨asks.1, asks'.1, lockstep.1⟩, fun answer answer' alike =>
        ih answer (lockstep.2 _ _ alike) (asks.2 answer) (asks'.2 answer')⟩

/-- Whether two servers answer alike questions alike and keep a relation of their states. -/
def Agree (L : Likeness Q R) (S : σ → τ → Prop) (serve : (question : Q) → σ → R question × σ)
    (serve' : (question : Q) → τ → R question × τ) : Prop :=
  ∀ q q' state state', L.questions q q' → S state state' →
    L.answers q q' (serve q state).1 (serve' q' state').1 ∧
      S (serve q state).2 (serve' q' state').2

/-- Programs in lockstep have alike runs. -/
theorem run {S : σ → τ → Prop} {serve : (question : Q) → σ → R question × σ}
    {serve' : (question : Q) → τ → R question × τ} (agree : Agree L S serve serve')
    (lockstep : Lockstep L V p p') {state : σ} {state' : τ} (start : S state state') :
    V (p.run serve state).value (p'.run serve' state').value ∧
      S (p.run serve state).state (p'.run serve' state').state ∧
      List.Forall₂ (fun step step' => L.questions step.question step'.question)
        (p.run serve state).steps (p'.run serve' state').steps := by
  induction p generalizing p' state state' with
  | done value =>
    cases p' with
    | done value' => exact ⟨lockstep, start, .nil⟩
    | ask q' next' => cases lockstep
  | ask q next ih =>
    cases p' with
    | done value' => cases lockstep
    | ask q' next' =>
      obtain ⟨alike, related⟩ := agree q q' state state' lockstep.1 start
      obtain ⟨values, states, steps⟩ := ih _ (lockstep.2 _ _ alike) related
      exact ⟨values, states, .cons lockstep.1 steps⟩

end Lockstep

/-- Two runs of one program are the same, unless one of them comes to a question that `F` marks. -/
theorem run_same_or {P : Q → Prop} {S : σ → σ → Prop} {F : Q → σ → Prop}
    {serve : (question : Q) → σ → R question × σ}
    (agree : ∀ q state state', P q → S state state' → F q state ∨ F q state' ∨
      (serve q state).1 = (serve q state').1 ∧ S (serve q state).2 (serve q state').2)
    {p : Program Q R α} (asks : p.Asks P) {state state' : σ} (start : S state state') :
    (∃ step ∈ (p.run serve state).steps, F step.question step.before) ∨
      (∃ step ∈ (p.run serve state').steps, F step.question step.before) ∨
      (p.run serve state).value = (p.run serve state').value ∧
        S (p.run serve state).state (p.run serve state').state ∧
        (p.run serve state).steps.map (·.question) = (p.run serve state').steps.map (·.question) := by
  induction p generalizing state state' with
  | done value => exact .inr (.inr ⟨rfl, start, rfl⟩)
  | ask q next ih =>
    rcases agree q state state' asks.1 start with marked | marked | ⟨same, related⟩
    · exact .inl ⟨_, List.mem_cons_self .., marked⟩
    · exact .inr (.inl ⟨_, List.mem_cons_self .., marked⟩)
    · have rest := ih (serve q state).1 (asks.2 _) related
      have there : (next (serve q state).1).run serve (serve q state').2 =
          (next (serve q state').1).run serve (serve q state').2 := by rw [same]
      rw [there] at rest
      rcases rest with ⟨step, later, marked⟩ | ⟨step, later, marked⟩ | ⟨value, last, questions⟩
      · exact .inl ⟨step, List.mem_cons_of_mem _ later, marked⟩
      · exact .inr (.inl ⟨step, List.mem_cons_of_mem _ later, marked⟩)
      · exact .inr (.inr ⟨value, last, congrArg (q :: ·) questions⟩)

end RoleSecrets.Program
