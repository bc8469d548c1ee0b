import RoleSecrets.Proofs.Calls
import RoleSecrets.Proofs.Faults

/-! # Turns where writes and reports fail

Two worlds are abreast when they have the same issuer and the same resources, but for those that were
touched. Whatever writes and reports fail in either of them, the turns of their items make the same
calls, and are the same unless something is faulted in them.
-/

namespace RoleSecrets

open Tick

/-- Whether two worlds are the same as far as the issuer and the clock are concerned, and have the
same resources but for those that were touched. -/
structure World.Abreast (touched : ObjectKey → Prop) (w w' : World) : Prop where
  issue : w.faults.issue = w'.faults.issue
  resources : SameResources touched w.resources w'.resources
  rest : w' = { w with
    secrets := w'.secrets, declarations := w'.declarations, resources := w'.resources
    faults := w'.faults }

namespace World.Abreast

variable {touched more : ObjectKey → Prop} {w w' : World}

theorem symm (abreast : w.Abreast touched w') : w'.Abreast touched w :=
  ⟨abreast.issue.symm, abreast.resources.symm, by rw [abreast.rest]⟩

theorem mono (abreast : w.Abreast touched w') (weaker : ∀ key, touched key → more key) :
    w.Abreast more w' :=
  ⟨abreast.issue, abreast.resources.mono weaker, abreast.rest⟩

theorem apply (abreast : w.Abreast touched w') (change : Change) :
    (w.apply change).Abreast touched (w'.apply change) := by
  cases change with
  | faults faults => exact ⟨rfl, abreast.resources, by rw [abreast.rest]; rfl⟩
  | resources resources => exact ⟨abreast.issue, .refl _ _, by rw [abreast.rest]; rfl⟩
  | _ => exact ⟨abreast.issue, abreast.resources, by rw [abreast.rest]; rfl⟩

theorem applyDue (abreast : w.Abreast touched w') {schedule schedule' : List (Nat × Change)}
    (same : schedule = schedule') :
    (w.applyDue schedule).Abreast touched (w'.applyDue schedule') := by
  subst same
  induction schedule generalizing w w' with
  | nil =>
    exact ⟨abreast.issue, abreast.resources, by rw [World.applyDue, World.applyDue, abreast.rest]⟩
  | cons entry later ih =>
    obtain ⟨time, change⟩ := entry
    have clock : w'.clock = w.clock := by rw [abreast.rest]
    rw [World.applyDue, World.applyDue, clock]
    split
    · exact ih (abreast.apply change)
    · exact ⟨abreast.issue, abreast.resources, by rw [abreast.rest]⟩

/-- Worlds that are abreast issue the same. -/
theorem serveIssuer (abreast : w.Abreast touched w') (roleArn session : String) :
    (w.serveIssuer roleArn session).1 = (w'.serveIssuer roleArn session).1 ∧
      (w.serveIssuer roleArn session).2.Abreast touched (w'.serveIssuer roleArn session).2 := by
  have awaited : w.awaited.Abreast touched w'.awaited := by
    have start : World.Abreast touched
        { w with delays := w.delays.tail, clock := max w.clock (w.clock + w.delays.headD 0) }
        { w' with delays := w'.delays.tail, clock := max w'.clock (w'.clock + w'.delays.headD 0) } :=
      ⟨abreast.issue, abreast.resources, by rw [abreast.rest]⟩
    exact start.applyDue (by rw [abreast.rest])
  rw [serveIssuer_eq, serveIssuer_eq]
  generalize w.awaited = after, w'.awaited = after' at awaited ⊢
  have issued : after'.issued = after.issued := by rw [awaited.rest]
  have expiration : after'.expiration = after.expiration := by rw [awaited.rest]
  rw [← awaited.issue, issued, expiration]
  split
  · exact ⟨rfl, awaited⟩
  · exact ⟨rfl, awaited.issue, awaited.resources, by rw [awaited.rest]⟩

/-- A local question in one of the worlds makes a difference only where it reports. -/
theorem left (abreast : w.Abreast touched w') {q : Query} (isLocal : q.IsLocal)
    (within : q.ReportsWithin touched) : (serve q w).2.Abreast touched w' := by
  have resources := sameResources_left isLocal within abreast.resources
  obtain ⟨_, _, _, same⟩ := state_of_isLocal isLocal w
  rw [same] at resources ⊢
  exact ⟨abreast.issue, resources, abreast.rest⟩

/-- Local questions that are not faulted are answered the same. -/
theorem answers (abreast : w.Abreast touched w') {q : Query} (isLocal : q.IsLocal)
    (fine : w.faultOn q = none) (fine' : w'.faultOn q = none)
    (untouched : q.ReportsWithin (¬ touched ·)) :
    Reply.Alike q q (serve q w).1 (serve q w').1 ∧
      (serve q w).2.Abreast touched (serve q w').2 := by
  obtain ⟨answers, resources⟩ := answer_of_isLocal (.same q) isLocal (fine.trans fine'.symm)
    untouched abreast.resources
  obtain ⟨_, _, _, same⟩ := state_of_isLocal isLocal w
  obtain ⟨_, _, _, same'⟩ := state_of_isLocal isLocal w'
  rw [same, same'] at resources ⊢
  exact ⟨answers, abreast.issue, resources, by rw [abreast.rest]⟩

end World.Abreast

/-- Whether a question is local, and reports on nothing but what was touched. -/
def Query.Stays (touched : ObjectKey → Prop) (question : Query) : Prop :=
  question.IsLocal ∧ question.ReportsWithin touched

theorem Query.stays_of_isNews {touched : ObjectKey → Prop} {d : Declaration} {question : Query}
    (isTouched : touched d.key) (news : question.IsNews d) : question.Stays touched :=
  ⟨isLocal_of_isNews news, fun _ _ reports => key_of_isNews news reports ▸ isTouched⟩

/-- For an item credentials are asked for, or something local that reports on its declaration. -/
theorem Tick.Item.May.cases {r : Reconciler} {item : Item} {question : Query}
    (may : item.May r question) :
    (∃ d session, item.declaration? = some d ∧
      question = .assumeRole (r.naming.resolve d.role) session d.duration) ∨
    question.IsLocal ∧
      question.ReportsWithin fun key => ∃ d, item.declaration? = some d ∧ d.key = key := by
  cases may with
  | log => exact .inr ⟨trivial, Query.reportsWithin_of_noReport rfl _⟩
  | news of news =>
    refine .inr ⟨Query.isLocal_of_isNews news, fun d status reports => ⟨_, of, ?_⟩⟩
    exact (Query.key_of_isNews news reports).symm
  | obtain of obtains =>
    cases question with
    | assumeRole roleArn session duration =>
      obtain ⟨rfl, rfl⟩ := obtains
      exact .inl ⟨_, session, of, rfl⟩
    | log _ => exact .inr ⟨trivial, Query.reportsWithin_of_noReport rfl _⟩
    | recordEvent _ => exact .inr ⟨trivial, Query.reportsWithin_of_noReport rfl _⟩
    | _ => cases obtains
  | delete named => exact .inr ⟨trivial, Query.reportsWithin_of_noReport rfl _⟩
  | update c => exact .inr ⟨trivial, Query.reportsWithin_of_noReport rfl _⟩
  | create c => exact .inr ⟨trivial, Query.reportsWithin_of_noReport rfl _⟩

theorem Tick.stays_deleteOrphan (r : Reconciler) (touched : ObjectKey → Prop) (p : Progress)
    (s : Secret) : (deleteOrphan p s).Asks (Query.Stays touched) := by
  refine (asks_deleteOrphan r p s).mono fun question may => ?_
  rcases may.cases with ⟨d, _, of, _⟩ | ⟨isLocal, within⟩
  · cases of
  · refine ⟨isLocal, fun d status reports => ?_⟩
    obtain ⟨_, of, _⟩ := within d status reports
    cases of

theorem Tick.stays_deliver {touched : ObjectKey → Prop} {r : Reconciler} (plain : r.source.Plain)
    (write : Write) (p : Progress) {d : Declaration} (isTouched : touched d.key) (c : Credentials)
    (s : Secret) : (deliver r write p d c s).Asks (Query.Stays touched) := by
  obtain ⟨tell, same, news⟩ := deliver_eq r plain write p d c s
  rw [same]
  refine Program.Asks.bind ?_ fun answer => (news answer).mono fun _ => Query.stays_of_isNews isTouched
  cases write with
  | create => exact .request ⟨trivial, Query.reportsWithin_of_noReport rfl touched⟩
  | update drift => exact .request ⟨trivial, Query.reportsWithin_of_noReport rfl touched⟩

namespace World.Abreast

variable {touched : ObjectKey → Prop} {w w' : World} (abreast : w.Abreast touched w')

include abreast

/-- A program that asks for local things only leaves a world abreast of others. -/
theorem run_left {α : Type} {p : Controller α} (stays : p.Asks (Query.Stays touched)) :
    (w.run p).state.Abreast touched w' :=
  (stays.run serve (·.Abreast touched w')
    (fun _ _ stays before => before.left stays.1 stays.2) abreast).1

theorem run {α β : Type} {p : Controller α} {p' : Controller β}
    (stays : p.Asks (Query.Stays touched)) (stays' : p'.Asks (Query.Stays touched)) :
    (w.run p).state.Abreast touched (w'.run p').state :=
  ((abreast.run_left stays).symm.run_left stays').symm

end World.Abreast

/-- Whether two turns leave their worlds abreast, having made the same calls. -/
structure InStep (touched : ObjectKey → Prop) (o o' : World.Outcome Progress) : Prop where
  state : o.state.Abreast touched o'.state
  issued : o.value.issued = o'.value.issued
  calls : callsOf o.steps = callsOf o'.steps

section Turns

variable {r : Reconciler} {touched : ObjectKey → Prop} {w w' : World} (abreast : w.Abreast touched w')

include abreast

/-- Worlds that are abreast have the same credentials for a declaration. -/
theorem same_issue (naming : RoleNaming) (p : Progress) (d : Declaration) :
    (w.run (issue naming p d)).value = (w'.run (issue naming p d)).value ∧
      (w.run (issue naming p d)).state.Abreast touched (w'.run (issue naming p d)).state ∧
      (w.run (issue naming p d)).steps.map (·.question) =
        (w'.run (issue naming p d)).steps.map (·.question) := by
  have agree : ∀ q v v', q.Obtains naming d → World.Abreast touched v v' → False ∨ False ∨
      (World.serve q v).1 = (World.serve q v').1 ∧
        (World.serve q v).2.Abreast touched (World.serve q v').2 := by
    intro q v v' obtains abreast
    refine .inr (.inr ?_)
    cases q with
    | assumeRole roleArn session duration => exact abreast.serveIssuer roleArn session
    | log record => exact ⟨rfl, abreast⟩
    | recordEvent event => exact ⟨rfl, abreast⟩
    | _ => cases obtains
  rcases Program.run_same_or agree (asks_issue naming p d) abreast with
    ⟨_, _, none⟩ | ⟨_, _, none⟩ | same
  · cases none
  · cases none
  · exact same

theorem inStep_supply (plain : r.source.Plain) (write : Write) (make : Credentials → Secret)
    (p : Progress) {d : Declaration} (isTouched : touched d.key) :
    InStep touched (w.run (supply r write make p d)) (w'.run (supply r write make p d)) := by
  obtain ⟨value, states, questions⟩ := same_issue abreast r.naming p d
  refine ⟨?_, ?_, ?_⟩
  · rw [supply, World.run_bind, World.run_bind, ← value]
    rcases (w.run (issue r.naming p d)).value with ⟨credentials, q⟩
    cases credentials with
    | none => exact states
    | some c =>
      have stays := stays_deliver plain write q isTouched c (make c)
      exact states.run stays stays
  · rw [issued_supply, issued_supply, value]
  · rw [calls_supply p w plain, calls_supply p w' plain, value, callsOf, questions]
    rfl

/-- The turns of an item make the same calls, and issue the same credentials. -/
theorem inStep_handle (plain : r.source.Plain) (p : Progress) {item : Item}
    (isTouched : ∀ d, item.declaration? = some d → touched d.key) :
    InStep touched (w.run (item.handle r p)) (w'.run (item.handle r p)) := by
  cases item with
  | orphan s =>
    have stays := stays_deleteOrphan r touched p s
    refine ⟨abreast.run stays stays, ?_, ?_⟩
    · exact (issued_deleteOrphan p s w).trans (issued_deleteOrphan p s w').symm
    · exact (calls_deleteOrphan p s w).trans (calls_deleteOrphan p s w').symm
  | managed m =>
    have isTouched := isTouched m.declaration rfl
    rw [Item.handle]
    by_cases healthy : m.drift = .healthy
    · have stays : (reportHealthy r p m.declaration m.secret).Asks (Query.Stays touched) :=
        (asks_reportHealthy plain p m.secret).mono fun _ => Query.stays_of_isNews isTouched
      rw [syncManaged_healthy healthy]
      refine ⟨abreast.run stays stays, ?_, ?_⟩
      · exact (issued_reportHealthy p m.secret w).trans (issued_reportHealthy p m.secret w').symm
      · rw [calls_reportHealthy p m.secret w plain, calls_reportHealthy p m.secret w' plain]
    · rw [syncManaged_drifted healthy]
      exact inStep_supply abreast plain _ _ p isTouched
  | missing d => exact inStep_supply abreast plain _ _ p (isTouched d rfl)

end Turns

/-- Whether no step of some is faulted. -/
def Faultless (steps : List World.Step) : Prop :=
  ∀ step ∈ steps, step.before.faultOn step.question = none

/-- Turns of an item in which nothing is faulted are the same, if its declaration was not touched. -/
theorem same_handle {r : Reconciler} {touched : ObjectKey → Prop} {w w' : World}
    (abreast : w.Abreast touched w') (plain : r.source.Plain) (p : Progress) {item : Item}
    (untouched : ∀ d, item.declaration? = some d → ¬ touched d.key)
    (fine : Faultless (w.run (item.handle r p)).steps)
    (fine' : Faultless (w'.run (item.handle r p)).steps) :
    (w.run (item.handle r p)).value = (w'.run (item.handle r p)).value ∧
      (w.run (item.handle r p)).steps.map (·.question) =
        (w'.run (item.handle r p)).steps.map (·.question) := by
  have agree : ∀ q v v', item.May r q → World.Abreast touched v v' →
      v.faultOn q ≠ none ∨ v'.faultOn q ≠ none ∨
        (World.serve q v).1 = (World.serve q v').1 ∧
          (World.serve q v).2.Abreast touched (World.serve q v').2 := by
    intro q v v' may abreast
    by_cases free : v.faultOn q = none
    · by_cases free' : v'.faultOn q = none
      · refine .inr (.inr ?_)
        rcases may.cases with ⟨d, session, -, rfl⟩ | ⟨isLocal, within⟩
        · exact abreast.serveIssuer _ session
        · have apart : q.ReportsWithin (¬ touched ·) := by
            intro d status reports
            obtain ⟨d', of, key⟩ := within d status reports
            exact key ▸ untouched d' of
          obtain ⟨answers, states⟩ := abreast.answers isLocal free free' apart
          refine ⟨Reply.eq_of_alike ?_ ?_ answers, states⟩
          · rintro selector rfl
            exact isLocal
          · rintro roleArn session duration rfl
            exact isLocal
      · exact .inr (.inl free')
    · exact .inl free
  rcases Program.run_same_or agree (item.asks_handle plain p) abreast with
    ⟨step, member, faulted⟩ | ⟨step, member, faulted⟩ | ⟨value, -, questions⟩
  · exact absurd (fine step member) faulted
  · exact absurd (fine' step member) faulted
  · exact ⟨value, questions⟩

/-- Whether turns of an item make the same calls, and are the same where nothing is faulted. -/
structure Tick.Turn.SameCalls (t t' : Turn) : Prop where
  item : t.item = t'.item
  calls : callsOf t.steps = callsOf t'.steps
  rest : Faultless t.steps → Faultless t'.steps →
    t.steps.map (·.question) = t'.steps.map (·.question) ∧ t.counted = t'.counted

theorem Tick.callsOf_turns {turns turns' : List Turn}
    (same : List.Forall₂ Turn.SameCalls turns turns') :
    callsOf (turns.flatMap (·.steps)) = callsOf (turns'.flatMap (·.steps)) := by
  induction same with
  | nil => rfl
  | cons first _ ih =>
    rw [List.flatMap_cons, List.flatMap_cons, callsOf_append, callsOf_append, first.calls, ih]

/-- The keys that are declared by some items. -/
def declaredBy (items : List Item) : List ObjectKey :=
  (items.filterMap Item.declaration?).map Declaration.key

theorem declaredBy_cons (item : Item) (items : List Item) :
    declaredBy (item :: items) =
      (item.declaration?.map Declaration.key).toList ++ declaredBy items := by
  rw [declaredBy, List.filterMap_cons]
  cases item.declaration? <;> rfl

/-- Each item makes the same calls in worlds that are abreast, whatever fails for those before. -/
theorem sameCalls_turns {r : Reconciler} (plain : r.source.Plain)
    {touched : ObjectKey → Prop} {w w' : World} (abreast : w.Abreast touched w')
    (issued : List ((String × Nat) × Credentials)) {items : List Item}
    (distinct : (declaredBy items).Nodup) (untouched : ∀ key ∈ declaredBy items, ¬ touched key) :
    List.Forall₂ Turn.SameCalls (turns r issued w items) (turns r issued w' items) := by
  induction items generalizing touched w w' issued with
  | nil => exact .nil
  | cons item items ih =>
    rw [declaredBy_cons] at distinct untouched
    obtain ⟨-, distinctLater, apart⟩ := List.nodup_append.mp distinct
    have own : ∀ d, item.declaration? = some d →
        d.key ∈ (item.declaration?.map Declaration.key).toList := by
      intro d of
      simp [of]
    -- from here on the declaration of the item counts as touched
    let wider : ObjectKey → Prop :=
      fun key => touched key ∨ ∃ d, item.declaration? = some d ∧ d.key = key
    have inStep :
        InStep wider (w.run (item.handle r { issued })) (w'.run (item.handle r { issued })) :=
      inStep_handle (abreast.mono fun _ => .inl) plain _ fun d of => .inr ⟨d, of, rfl⟩
    have later : ∀ key ∈ declaredBy items, ¬ wider key := by
      rintro key member (before | ⟨d, of, rfl⟩)
      · exact untouched key (List.mem_append_right _ member) before
      · exact apart d.key (own d of) d.key member rfl
    refine .cons ⟨rfl, inStep.calls, fun fine fine' => ?_⟩ ?_
    · have here := fun d of => untouched d.key (List.mem_append_left _ (own d of))
      obtain ⟨value, questions⟩ := same_handle abreast plain { issued } here fine fine'
      exact ⟨questions, congrArg Progress.summary value⟩
    · rw [← inStep.issued]
      exact ih inStep.state _ distinctLater later

end RoleSecrets
