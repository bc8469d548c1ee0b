import RoleSecrets.Proofs.Asking
import RoleSecrets.Proofs.Store

/-! # What answering does to a world

Only writes of secrets change the secrets of a world, as long as no change to them from outside is
scheduled. A write that fails changes nothing, one that succeeds is done as asked.
-/

namespace RoleSecrets

def Change.keepsSecrets : Change → Bool
  | .putSecret _ | .removeSecret _ => false
  | _ => true

def Query.isWrite : Query → Bool
  | .createSecret _ | .updateSecret _ | .deleteSecret _ => true
  | _ => false

namespace World

/-- Whether no change to the secrets is still to come from outside. -/
def Undisturbed (w : World) : Prop := ∀ entry ∈ w.schedule, entry.2.keepsSecrets = true

theorem secrets_apply {change : Change} (keeps : change.keepsSecrets = true) (w : World) :
    (w.apply change).secrets = w.secrets := by
  cases change with
  | putSecret _ => cases keeps
  | removeSecret _ => cases keeps
  | _ => rfl

theorem schedule_apply (change : Change) (w : World) : (w.apply change).schedule = w.schedule := by
  cases change <;> rfl

/-- What each change of a schedule keeps is kept by those that are due, and the others are left. -/
theorem applyDue_induction {P : Change → Prop} {I : World → Prop}
    (step : ∀ w change, P change → I w → I (w.apply change))
    (rest : ∀ w schedule, I w → I { w with schedule })
    {schedule : List (Nat × Change)} (each : ∀ entry ∈ schedule, P entry.2) {w : World}
    (start : I w) :
    I (w.applyDue schedule) ∧ ∀ entry ∈ (w.applyDue schedule).schedule, P entry.2 := by
  induction schedule generalizing w with
  | nil => exact ⟨rest w [] start, fun _ member => absurd member List.not_mem_nil⟩
  | cons entry later ih =>
    obtain ⟨time, change⟩ := entry
    obtain ⟨first, others⟩ := List.forall_mem_cons.mp each
    rw [applyDue]
    split
    · exact ih others (step w change first start)
    · exact ⟨rest w _ start, each⟩

theorem applyDue_keeps {schedule : List (Nat × Change)} (w : World)
    (keep : ∀ entry ∈ schedule, entry.2.keepsSecrets = true) :
    (w.applyDue schedule).secrets = w.secrets ∧ (w.applyDue schedule).Undisturbed :=
  applyDue_induction (I := fun after => after.secrets = w.secrets)
    (fun after _ keeps same => (secrets_apply keeps after).trans same) (fun _ _ same => same) keep rfl

/-- The world once a request to the issuer has taken its time. -/
def awaited (w : World) : World :=
  { w with delays := w.delays.tail }.advance (w.clock + w.delays.headD 0)

/-- What the issuer answers is decided once the request has taken its time. -/
theorem serveIssuer_eq (w : World) (roleArn sessionName : String) :
    w.serveIssuer roleArn sessionName =
      match w.awaited.faults.issue.get? roleArn with
      | some text => (.error (if text = "InvalidExpiration" then .badExpiration roleArn
          else .missing roleArn), w.awaited)
      | none => (.ok ⟨"AKIA-" ++ sessionName, "secret-" ++ toString (w.awaited.issued + 1),
          "token-" ++ toString (w.awaited.issued + 1), w.awaited.expiration⟩,
          { w.awaited with issued := w.awaited.issued + 1 }) := rfl

/-- The issuer takes its time, and meanwhile other things than the secrets may change. -/
theorem serveIssuer_keeps {w : World} (undisturbed : w.Undisturbed) (roleArn sessionName : String) :
    (w.serveIssuer roleArn sessionName).2.secrets = w.secrets ∧
      (w.serveIssuer roleArn sessionName).2.Undisturbed := by
  have later : w.awaited.secrets = w.secrets ∧ w.awaited.Undisturbed := applyDue_keeps
    { w with delays := w.delays.tail, clock := max w.clock (w.clock + w.delays.headD 0) } undisturbed
  rw [serveIssuer_eq]
  split
  · exact later
  · exact later

/-- Requests for role resources concern nothing but these. -/
theorem serveApi_state (w : World) (request : ApiRequest) :
    ∃ resources, (w.serveApi request).2 = { w with resources } := by
  unfold serveApi
  split
  · split <;> exact ⟨w.resources, rfl⟩
  · dsimp only
    split
    · exact ⟨w.resources, rfl⟩
    · split
      · exact ⟨w.resources, rfl⟩
      · exact ⟨_, rfl⟩
  · exact ⟨w.resources, rfl⟩

theorem reportDeclared_state (w : World) (d : Declaration) (status : RoleStatus) :
    ∃ declarations, (serve (.reportDeclared d status) w).2 = { w with declarations } := by
  simp only [serve]
  split
  · exact ⟨w.declarations, rfl⟩
  · exact ⟨_, rfl⟩

/-- A write fails and changes nothing, or is done. -/
theorem serveWrite_cases (w : World) (faults : Fields String)
    (failure : ObjectKey → ApiError → StoreError) (key : ObjectKey) (after : List Secret) :
    (∃ e, w.serveWrite faults failure key after = (.error e, w)) ∨
      w.serveWrite faults failure key after = (.ok (), { w with secrets := after }) := by
  unfold serveWrite
  split
  · exact .inl ⟨_, rfl⟩
  · exact .inr rfl

theorem createSecret_cases (w : World) (s : Secret) :
    (∃ e, serve (.createSecret s) w = (.error e, w)) ∨
      serve (.createSecret s) w = (.ok (), { w with secrets := putSecret s w.secrets }) :=
  serveWrite_cases ..

theorem updateSecret_cases (w : World) (s : Secret) :
    (∃ e, serve (.updateSecret s) w = (.error e, w)) ∨
      serve (.updateSecret s) w = (.ok (), { w with secrets := putSecret s w.secrets }) :=
  serveWrite_cases ..

theorem deleteSecret_cases (w : World) (key : ObjectKey) :
    (∃ e, serve (.deleteSecret key) w = (.error e, w)) ∨
      serve (.deleteSecret key) w = (.ok (), { w with secrets := removeSecret key w.secrets }) :=
  serveWrite_cases ..

theorem listSecrets_cases (w : World) (selector : Selector) :
    (∃ e, serve (.listSecrets selector) w = (.error e, w)) ∨
      serve (.listSecrets selector) w = (.ok (w.secrets.filter selector.selects), w) := by
  simp only [serve]
  split
  · exact .inl ⟨_, rfl⟩
  · exact .inr rfl

/-- All questions but writes leave the secrets as they are. -/
theorem secrets_serve {question : Query} (noWrite : question.isWrite = false) {w : World}
    (undisturbed : w.Undisturbed) :
    (serve question w).2.secrets = w.secrets ∧ (serve question w).2.Undisturbed := by
  cases question with
  | createSecret _ => cases noWrite
  | updateSecret _ => cases noWrite
  | deleteSecret _ => cases noWrite
  | listSecrets selector =>
    rcases listSecrets_cases w selector with ⟨e, same⟩ | same <;> rw [same] <;>
      exact ⟨rfl, undisturbed⟩
  | assumeRole roleArn sessionName duration => exact serveIssuer_keeps undisturbed roleArn sessionName
  | api request =>
    obtain ⟨resources, same⟩ := serveApi_state w request
    change (w.serveApi request).2.secrets = w.secrets ∧ (w.serveApi request).2.Undisturbed
    rw [same]
    exact ⟨rfl, undisturbed⟩
  | reportDeclared d status =>
    obtain ⟨declarations, same⟩ := reportDeclared_state w d status
    rw [same]
    exact ⟨rfl, undisturbed⟩
  | listDeclared =>
    simp only [serve]
    split <;> exact ⟨rfl, undisturbed⟩
  | _ => exact ⟨rfl, undisturbed⟩

/-- Questions change no more than secrets, declarations and resources, if there is no waiting for the
issuer. -/
theorem serve_state (question : Query) (w : World) :
    (∃ secrets declarations resources,
      (serve question w).2 = { w with secrets, declarations, resources }) ∨
    (∃ roleArn sessionName duration, question = .assumeRole roleArn sessionName duration) ∧
      ∃ issued, (serve question w).2 = { w.awaited with issued } := by
  cases question with
  | assumeRole roleArn sessionName duration =>
    refine .inr ⟨⟨roleArn, sessionName, duration, rfl⟩, ?_⟩
    rw [serve, serveIssuer_eq]
    split <;> exact ⟨_, rfl⟩
  | createSecret s =>
    rcases createSecret_cases w s with ⟨e, same⟩ | same <;> rw [same] <;> exact .inl ⟨_, _, _, rfl⟩
  | updateSecret s =>
    rcases updateSecret_cases w s with ⟨e, same⟩ | same <;> rw [same] <;> exact .inl ⟨_, _, _, rfl⟩
  | deleteSecret key =>
    rcases deleteSecret_cases w key with ⟨e, same⟩ | same <;> rw [same] <;> exact .inl ⟨_, _, _, rfl⟩
  | listSecrets selector =>
    rcases listSecrets_cases w selector with ⟨e, same⟩ | same <;> rw [same] <;>
      exact .inl ⟨_, _, _, rfl⟩
  | api request =>
    obtain ⟨resources, same⟩ := serveApi_state w request
    exact .inl ⟨_, _, resources, same⟩
  | reportDeclared d status =>
    obtain ⟨declarations, same⟩ := reportDeclared_state w d status
    exact .inl ⟨_, declarations, _, same⟩
  | listDeclared =>
    simp only [serve]
    split <;> exact .inl ⟨_, _, _, rfl⟩
  | _ => exact .inl ⟨_, _, _, rfl⟩

/-- Without changes to come from outside, credentials go on expiring at the same time. -/
theorem expiration_serve (question : Query) {w : World} (unscheduled : w.schedule = []) :
    (serve question w).2.schedule = [] ∧ (serve question w).2.expiration = w.expiration := by
  rcases serve_state question w with ⟨_, _, _, same⟩ | ⟨-, _, same⟩ <;> rw [same]
  · exact ⟨unscheduled, rfl⟩
  · simp only [awaited, advance, unscheduled, applyDue, and_self]

theorem expiration_of_issued {w : World} (unscheduled : w.schedule = [])
    {roleArn sessionName : String} {keys : SessionKeys}
    (issued : (w.serveIssuer roleArn sessionName).1 = .ok keys) : keys.expiration = w.expiration := by
  simp only [serveIssuer_eq, awaited, advance, unscheduled, applyDue] at issued
  split at issued
  · cases issued
  · rw [← Except.ok.inj issued]

/-- A program without writes leaves the secrets as they are, also at each of its steps. -/
theorem secrets_run {α : Type} {p : Controller α} {P : Query → Prop} (asks : p.Asks P)
    (noWrite : ∀ question, P question → question.isWrite = false) {w : World}
    (undisturbed : w.Undisturbed) :
    (w.run p).state.secrets = w.secrets ∧ (w.run p).state.Undisturbed ∧
      ∀ step ∈ (w.run p).steps, P step.question ∧ step.before.secrets = w.secrets := by
  have keeps : ∀ question state, P question → state.secrets = w.secrets ∧ state.Undisturbed →
      (serve question state).2.secrets = w.secrets ∧ (serve question state).2.Undisturbed := by
    intro question state holds kept
    have served := secrets_serve (noWrite question holds) kept.2
    exact ⟨served.1.trans kept.1, served.2⟩
  obtain ⟨⟨same, last⟩, steps⟩ := Program.Asks.run serve _ keeps asks ⟨rfl, undisturbed⟩
  exact ⟨same, last, fun step member => ⟨(steps step member).1, (steps step member).2.1⟩⟩

end World

end RoleSecrets
