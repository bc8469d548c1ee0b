import RoleSecrets.Proofs.StatusSteps

/-! # What is desired, and what is told of it

What a source tells depends on the desired state of a world: its registry, resources and
declarations. In a calm world nothing but reports changes this, and reports change statuses only.
`Source.Mirrors` says so of a source, and that a status which was reported is told from then on.
-/

namespace RoleSecrets

/-- Whether a change from outside leaves what is desired alone, as well as the secrets; an issuer
may be told to let credentials expire at another time. -/
def Change.IsCalm : Change → Prop
  | .faults _ => True
  | .expiration time => time.HasFourDigitYear
  | _ => False

namespace World

/-- Whether credentials expire in the years 0 to 9999, and nothing else but faults and their time
of expiry will change from outside. -/
structure Calm (w : World) : Prop where
  inYears : w.expiration.HasFourDigitYear
  schedule : ∀ entry ∈ w.schedule, entry.2.IsCalm

/-- Whether two worlds have the same desired state. -/
structure SameDesired (w after : World) : Prop where
  registry : after.registry = w.registry
  resources : after.resources = w.resources
  declarations : after.declarations = w.declarations

theorem SameDesired.refl (w : World) : w.SameDesired w := ⟨rfl, rfl, rfl⟩

theorem SameDesired.trans {first second third : World} (one : first.SameDesired second)
    (two : second.SameDesired third) : first.SameDesired third :=
  ⟨two.registry.trans one.registry, two.resources.trans one.resources,
    two.declarations.trans one.declarations⟩

theorem Calm.undisturbed {w : World} (calm : w.Calm) : w.Undisturbed := by
  intro entry member
  have isCalm := calm.schedule entry member
  cases change : entry.2 <;> rw [change] at isCalm <;> first | rfl | exact isCalm.elim

/-- A calm change leaves what is desired alone, and the secrets. -/
theorem desired_apply {change : Change} (isCalm : change.IsCalm) (w : World) :
    w.SameDesired (w.apply change) ∧ (w.apply change).secrets = w.secrets := by
  cases change with
  | faults faults => exact ⟨⟨rfl, rfl, rfl⟩, rfl⟩
  | expiration time => exact ⟨⟨rfl, rfl, rfl⟩, rfl⟩
  | _ => exact isCalm.elim

theorem inYears_apply {w : World} (inYears : w.expiration.HasFourDigitYear) {change : Change}
    (isCalm : change.IsCalm) : (w.apply change).expiration.HasFourDigitYear := by
  cases change with
  | faults faults => exact inYears
  | expiration time => exact isCalm
  | _ => exact isCalm.elim

theorem desired_applyDue {schedule : List (Nat × Change)} {w : World}
    (inYears : w.expiration.HasFourDigitYear) (calm : ∀ entry ∈ schedule, entry.2.IsCalm) :
    (w.applyDue schedule).Calm ∧ w.SameDesired (w.applyDue schedule) := by
  obtain ⟨⟨last, same⟩, left⟩ := applyDue_induction
    (I := fun after => after.expiration.HasFourDigitYear ∧ w.SameDesired after)
    (fun after change isCalm kept =>
      ⟨inYears_apply kept.1 isCalm, kept.2.trans (desired_apply isCalm after).1⟩)
    (fun _ _ kept => ⟨kept.1, kept.2.registry, kept.2.resources, kept.2.declarations⟩)
    calm ⟨inYears, .refl w⟩
  exact ⟨⟨last, left⟩, same⟩

theorem desired_awaited {w : World} (calm : w.Calm) : w.awaited.Calm ∧ w.SameDesired w.awaited := by
  have waiting : World.Calm
      { w with delays := w.delays.tail, clock := max w.clock (w.clock + w.delays.headD 0) } :=
    ⟨calm.inYears, calm.schedule⟩
  obtain ⟨later, kept⟩ := desired_applyDue waiting.inYears waiting.schedule
  exact ⟨later, kept.registry, kept.resources, kept.declarations⟩

/-- In a calm world only reports change what is desired. -/
theorem desired_serve {question : Query} (noReport : question.isReport = false) {w : World}
    (calm : w.Calm) :
    (serve question w).2.Calm ∧ w.SameDesired (serve question w).2 := by
  cases question with
  | reportDeclared d status => cases noReport
  | assumeRole roleArn sessionName duration =>
    obtain ⟨later, kept⟩ := desired_awaited calm
    rw [serve, serveIssuer_eq]
    split
    · exact ⟨later, kept⟩
    · exact ⟨⟨later.inYears, later.schedule⟩, kept.registry, kept.resources, kept.declarations⟩
  | createSecret s =>
    rcases createSecret_cases w s with ⟨e, same⟩ | same <;> rw [same] <;>
      exact ⟨⟨calm.inYears, calm.schedule⟩, rfl, rfl, rfl⟩
  | updateSecret s =>
    rcases updateSecret_cases w s with ⟨e, same⟩ | same <;> rw [same] <;>
      exact ⟨⟨calm.inYears, calm.schedule⟩, rfl, rfl, rfl⟩
  | deleteSecret key =>
    rcases deleteSecret_cases w key with ⟨e, same⟩ | same <;> rw [same] <;>
      exact ⟨⟨calm.inYears, calm.schedule⟩, rfl, rfl, rfl⟩
  | listSecrets selector =>
    rcases listSecrets_cases w selector with ⟨e, same⟩ | same <;> rw [same] <;>
      exact ⟨calm, rfl, rfl, rfl⟩
  | api request =>
    change (w.serveApi request).2.Calm ∧ w.SameDesired (w.serveApi request).2
    unfold serveApi
    split
    · split <;> exact ⟨calm, rfl, rfl, rfl⟩
    · rename_i patches _
      rw [Query.isReport, patches] at noReport
      cases noReport
    · exact ⟨calm, rfl, rfl, rfl⟩
  | listDeclared =>
    simp only [serve]
    split <;> exact ⟨calm, rfl, rfl, rfl⟩
  | _ => exact ⟨calm, rfl, rfl, rfl⟩

/-- And a calm world stays calm whatever is asked. -/
theorem calm_serve (question : Query) {w : World} (calm : w.Calm) : (serve question w).2.Calm := by
  rcases serve_state question w with ⟨_, _, _, same⟩ | ⟨-, _, same⟩ <;> rw [same]
  · exact ⟨calm.inYears, calm.schedule⟩
  · obtain ⟨later, -⟩ := desired_awaited calm
    exact ⟨later.inYears, later.schedule⟩

theorem inYears_of_issued {w : World} (calm : w.Calm) {roleArn sessionName : String}
    {keys : SessionKeys} (issued : (w.serveIssuer roleArn sessionName).1 = .ok keys) :
    keys.expiration.HasFourDigitYear := by
  obtain ⟨later, -⟩ := desired_awaited calm
  rw [serveIssuer_eq] at issued
  split at issued
  · cases issued
  · rw [← Except.ok.inj issued]
    exact later.inYears

/-- A run without reports leaves what is desired alone. -/
theorem desired_run {α : Type} {p : Controller α}
    (asks : p.Asks fun question => question.isReport = false) {w : World} (calm : w.Calm) :
    (w.run p).state.Calm ∧ w.SameDesired (w.run p).state := by
  have keeps : ∀ question (state : World), question.isReport = false →
      state.Calm ∧ w.SameDesired state →
        (serve question state).2.Calm ∧ w.SameDesired (serve question state).2 := by
    intro question state noReport going
    obtain ⟨last, same⟩ := desired_serve noReport going.1
    exact ⟨last, going.2.trans same⟩
  exact (Program.Asks.run serve _ keeps asks ⟨calm, .refl w⟩).1

/-- What is issued in a calm world expires in the years 0 to 9999. -/
theorem calm_run {α : Type} (controller : Controller α) {w : World} (calm : w.Calm) :
    (w.run controller).state.Calm ∧ Tick.IssuedInYears (w.run controller).steps := by
  obtain ⟨last, before⟩ := run_keeps (fun question _ => calm_serve question) controller calm
  refine ⟨last, fun world arn session duration keys member => ?_⟩
  have issued := Program.answer_of_mem_run serve member
  exact inYears_of_issued (before _ member) issued.symm

end World

namespace Declaration

/-- Whether two declarations differ in their status at most. -/
def Twin (d other : Declaration) : Prop := other = { d with status := other.status }

namespace Twin

variable {d other : Declaration}

theorem refl (d : Declaration) : d.Twin d := rfl

theorem trans {third : Declaration} (one : d.Twin other) (two : other.Twin third) : d.Twin third := by
  rw [Twin, two, one]

theorem key (twin : d.Twin other) : other.key = d.key := by
  rw [twin]
  rfl

theorem generation (twin : d.Twin other) : other.generation = d.generation := by
  rw [twin]

theorem role (twin : d.Twin other) : other.role = d.role := by
  rw [twin]

theorem matchesSecret (twin : d.Twin other) (s : Secret) :
    other.matchesSecret s = d.matchesSecret s := by
  rw [twin]
  rfl

theorem accepts (twin : d.Twin other) (s : Secret) : other.accepts s = d.accepts s := by
  rw [twin]
  rfl

end Twin

/-- Whatever is in the second of two related lists is related to something in the first. -/
theorem exists_of_forall₂ {R : Declaration → Declaration → Prop} {before after : List Declaration}
    (related : List.Forall₂ R before after) {other : Declaration} (member : other ∈ after) :
    ∃ d ∈ before, R d other := by
  induction related with
  | nil => exact absurd member List.not_mem_nil
  | cons pair _ ih =>
    rcases List.mem_cons.mp member with rfl | later
    · exact ⟨_, List.mem_cons_self .., pair⟩
    · obtain ⟨d, inside, pair⟩ := ih later
      exact ⟨d, List.mem_cons_of_mem _ inside, pair⟩

/-- Twins have the same keys. -/
theorem keys_of_twins {before after : List Declaration} (twins : List.Forall₂ Twin before after) :
    after.map key = before.map key := by
  induction twins with
  | nil => rfl
  | cons twin _ ih => rw [List.map_cons, List.map_cons, twin.key, ih]

/-- Whether of declarations those of some keys have changed, and these in their status at most. -/
def Alike (keys : List ObjectKey) (before after : List Declaration) : Prop :=
  List.Forall₂ (fun d other => d.Twin other ∧ (d.key ∉ keys → other = d)) before after

namespace Alike

variable {keys others : List ObjectKey} {first second third : List Declaration}

theorem refl (keys : List ObjectKey) (declarations : List Declaration) :
    Alike keys declarations declarations :=
  List.forall₂_same.mpr fun d _ => ⟨.refl d, fun _ => rfl⟩

theorem trans (one : Alike keys first second) (two : Alike others second third) :
    Alike (keys ++ others) first third := by
  induction one generalizing third with
  | nil =>
    cases two
    exact .nil
  | cons pair _ ih =>
    obtain ⟨twin, same⟩ := pair
    cases two with
    | cons pair' rest =>
      obtain ⟨twin', same'⟩ := pair'
      refine .cons ⟨twin.trans twin', fun outside => ?_⟩ (ih rest)
      rw [List.mem_append, not_or] at outside
      have first := same outside.1
      subst first
      exact same' outside.2

/-- All declarations have twins after the change. -/
theorem twins (alike : Alike keys first second) : List.Forall₂ Twin first second :=
  alike.imp fun _ _ pair => pair.1

end Alike

end Declaration

namespace Drift

open Declaration

theorem twins_insert {d other : Declaration} (twin : d.Twin other)
    {before after : List Declaration} (twins : List.Forall₂ Twin before after) :
    List.Forall₂ Twin (insert d before) (insert other after) := by
  induction twins with
  | nil => exact .cons twin .nil
  | cons pair rest ih =>
    simp only [insert, twin.key, pair.key]
    split
    · exact .cons twin rest
    · split
      · exact .cons twin (.cons pair rest)
      · exact .cons pair ih

/-- Which declarations count does not depend on their status. -/
theorem twins_counting {before after : List Declaration} (twins : List.Forall₂ Twin before after) :
    List.Forall₂ Twin (counting before) (counting after) := by
  have foldl : ∀ {sorted sorted' : List Declaration}, List.Forall₂ Twin sorted sorted' →
      List.Forall₂ Twin (before.foldl (fun sorted d => insert d sorted) sorted)
        (after.foldl (fun sorted d => insert d sorted) sorted') := by
    induction twins with
    | nil => exact fun sorted => sorted
    | cons pair _ ih => exact fun sorted => ih (twins_insert pair sorted)
  exact foldl .nil

end Drift

end RoleSecrets
