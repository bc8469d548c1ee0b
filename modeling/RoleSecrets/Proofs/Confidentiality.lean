import RoleSecrets.History
import RoleSecrets.Proofs.Convergence
import RoleSecrets.Proofs.Likeness

/-! # Session keys do not leak

Whatever keys the issuer chooses, and whatever stored secrets hold beside what is read back of them,
whole histories ask for the same and have the same outcomes, but for the credentials in the secrets
that are written. So nothing can be learned of session keys from logs, events, statuses or errors.
-/

namespace RoleSecrets

open Tick

namespace World

/-- A choice of the session keys that are issued in the place of others. -/
abbrev Mint := Query → World → SessionKeys → SessionKeys

/-- Answers a question, with session keys of someone's choice. When they expire is not a choice. -/
def serveMinting (mint : Mint) : (question : Query) → World → Reply question × World
  | .assumeRole roleArn sessionName duration, w =>
      let (answer, after) := serve (.assumeRole roleArn sessionName duration) w
      (answer.map fun keys =>
        { mint (.assumeRole roleArn sessionName duration) w keys with expiration := keys.expiration },
        after)
  | question, w => serve question w

/-- The world's own choice. -/
def ownMint : Mint := fun _ _ keys => keys

theorem serveMinting_ownMint : serveMinting ownMint = serve := by
  funext question w
  cases question with
  | assumeRole roleArn sessionName duration =>
    rw [serveMinting]
    rcases serve (.assumeRole roleArn sessionName duration) w with ⟨answer, after⟩
    cases answer <;> rfl
  | _ => rfl

end World

namespace Reconciler

/-- What comes of an act where questions are answered in some way, and the world after it. -/
def actWith (serve : (question : Query) → World → Reply question × World) (r : Reconciler)
    (w : World) : Act → Option TickOutcome × World
  | .tick now =>
      let outcome := (r.tick now).run serve w
      (some outcome, outcome.state)
  | .change change => (none, w.apply change)

/-- What comes of every act of such a history, and the world after it. -/
def liveWith (serve : (question : Query) → World → Reply question × World) (r : Reconciler)
    (w : World) : List Act → List (Option TickOutcome) × World
  | [] => ([], w)
  | first :: later =>
      let (answer, after) := r.actWith serve w first
      let (answers, last) := r.liveWith serve after later
      (answer :: answers, last)

theorem liveWith_serve (r : Reconciler) (w : World) (acts : List Act) :
    r.liveWith World.serve w acts = r.live w acts := by
  induction acts generalizing w with
  | nil => rfl
  | cons first later ih =>
    have act : r.actWith World.serve w first = r.act w first := by cases first <;> rfl
    simp only [liveWith, live, act, ih]

end Reconciler

/-- The text shown of credentials depends on no more than the identifier of their keys, their role
and when they expire. -/
theorem Credentials.Alike.summary {c c' : Credentials} (alike : c.Alike c')
    (accessKey : c.accessKeyId = c'.accessKeyId) : c.summary = c'.summary := by
  obtain ⟨⟨id, secret, token, expiration⟩, arn⟩ := c
  obtain ⟨⟨id', secret', token', expiration'⟩, arn'⟩ := c'
  obtain ⟨roleArn, expires⟩ := alike
  dsimp only at roleArn expires accessKey
  subst roleArn expires accessKey
  unfold Credentials.summary
  dsimp only

/-- Whether changes from outside are the same, but for alike secrets. -/
inductive Change.Alike : Change → Change → Prop
  | same (change : Change) : Change.Alike change change
  | putSecret {s s' : Secret} (alike : s.Alike s') : Change.Alike (.putSecret s) (.putSecret s')

/-- Whether acts are the same, but for alike secrets. -/
inductive Act.Alike : Act → Act → Prop
  | tick (now : Timestamp) : Act.Alike (.tick now) (.tick now)
  | change {change change' : Change} (alike : change.Alike change') :
      Act.Alike (.change change) (.change change')

/-- Whether worlds are the same, but for alike secrets. -/
structure World.Alike (w w' : World) : Prop where
  secrets : List.Forall₂ Secret.Alike w.secrets w'.secrets
  schedule : List.Forall₂ (fun entry entry' => entry.1 = entry'.1 ∧ entry.2.Alike entry'.2)
    w.schedule w'.schedule
  rest : w' = { w with secrets := w'.secrets, schedule := w'.schedule }

theorem alike_putSecret {s s' : Secret} (alike : s.Alike s') {secrets secrets' : List Secret}
    (stores : List.Forall₂ Secret.Alike secrets secrets') :
    List.Forall₂ Secret.Alike (putSecret s secrets) (putSecret s' secrets') := by
  induction stores with
  | nil => exact .cons alike .nil
  | cons first rest ih =>
    rename_i other other' _ _
    have key : other.sameKey s = other'.sameKey s' := by
      rw [Secret.sameKey, Secret.sameKey, first.metadata, alike.metadata]
    rw [putSecret, putSecret, key]
    split
    · exact .cons alike rest
    · exact .cons first ih

theorem alike_removeSecret (key : ObjectKey) {secrets secrets' : List Secret}
    (stores : List.Forall₂ Secret.Alike secrets secrets') :
    List.Forall₂ Secret.Alike (removeSecret key secrets) (removeSecret key secrets') := by
  refine Secret.alike_filter (fun s s' alike => ?_) stores
  rw [Secret.hasKey, Secret.hasKey, alike.metadata]

namespace World.Alike

variable {w w' : World}

/-- Alike stores may be put in place of alike stores. -/
theorem store (alike : w.Alike w') {secrets secrets' : List Secret}
    (stores : List.Forall₂ Secret.Alike secrets secrets') :
    World.Alike { w with secrets } { w' with secrets := secrets' } := by
  refine ⟨stores, alike.schedule, ?_⟩
  rw [alike.rest]

theorem apply (alike : w.Alike w') {change change' : Change} (same : change.Alike change') :
    (w.apply change).Alike (w'.apply change') := by
  cases same with
  | putSecret secret => exact alike.store (alike_putSecret secret alike.secrets)
  | same change =>
    cases change with
    | putSecret s => exact alike.store (alike_putSecret (.refl s) alike.secrets)
    | removeSecret key => exact alike.store (alike_removeSecret key alike.secrets)
    | _ => exact ⟨alike.secrets, alike.schedule, by rw [alike.rest]; rfl⟩

theorem applyDue {schedule schedule' : List (Nat × Change)}
    (entries : List.Forall₂ (fun entry entry' => entry.1 = entry'.1 ∧ entry.2.Alike entry'.2)
      schedule schedule') (alike : w.Alike w') :
    (w.applyDue schedule).Alike (w'.applyDue schedule') := by
  induction entries generalizing w w' with
  | nil => exact ⟨alike.secrets, .nil, by rw [World.applyDue, World.applyDue, alike.rest]⟩
  | cons first rest ih =>
    rename_i entry entry' _ _
    obtain ⟨time, change⟩ := entry
    obtain ⟨rfl, same⟩ : time = entry'.1 ∧ _ := first
    have clock : w'.clock = w.clock := by rw [alike.rest]
    rw [World.applyDue, World.applyDue, clock]
    split
    · exact ih (alike.apply same)
    · exact ⟨alike.secrets, .cons ⟨rfl, same⟩ rest, by rw [alike.rest]⟩

theorem serveWrite (alike : w.Alike w') {faults faults' : Fields String} (fails : faults = faults')
    (failure : ObjectKey → ApiError → StoreError) {key key' : ObjectKey} (keys : key = key')
    {secrets secrets' : List Secret} (stores : List.Forall₂ Secret.Alike secrets secrets') :
    (w.serveWrite faults failure key secrets).1 = (w'.serveWrite faults' failure key' secrets').1 ∧
      (w.serveWrite faults failure key secrets).2.Alike
        (w'.serveWrite faults' failure key' secrets').2 := by
  subst fails keys
  unfold World.serveWrite
  split
  · exact ⟨rfl, alike⟩
  · exact ⟨rfl, alike.store stores⟩

theorem createSecret (alike : w.Alike w') {s s' : Secret} (same : s.Alike s') :
    HEq (serve (.createSecret s) w).1 (serve (.createSecret s') w').1 ∧
      (serve (.createSecret s) w).2.Alike (serve (.createSecret s') w').2 := by
  have faults : w.faults.create = w'.faults.create := by rw [alike.rest]
  obtain ⟨answers, worlds⟩ := alike.serveWrite faults .create same.key
    (alike_putSecret same alike.secrets)
  exact ⟨heq_of_eq answers, worlds⟩

theorem updateSecret (alike : w.Alike w') {s s' : Secret} (same : s.Alike s') :
    HEq (serve (.updateSecret s) w).1 (serve (.updateSecret s') w').1 ∧
      (serve (.updateSecret s) w).2.Alike (serve (.updateSecret s') w').2 := by
  have faults : w.faults.update = w'.faults.update := by rw [alike.rest]
  obtain ⟨answers, worlds⟩ := alike.serveWrite faults .update same.key
    (alike_putSecret same alike.secrets)
  exact ⟨heq_of_eq answers, worlds⟩

/-- Requests for role resources do not depend on secrets. -/
theorem serveApi (alike : w.Alike w') (request : ApiRequest) :
    (w.serveApi request).1 = (w'.serveApi request).1 ∧
      (w.serveApi request).2.Alike (w'.serveApi request).2 := by
  obtain ⟨secrets, schedule, rest⟩ := alike
  generalize w'.secrets = secrets', w'.schedule = schedule' at secrets schedule rest
  subst rest
  unfold World.serveApi
  split
  · dsimp only
    split <;> exact ⟨rfl, secrets, schedule, rfl⟩
  · dsimp only
    split
    · exact ⟨rfl, secrets, schedule, rfl⟩
    · split <;> exact ⟨rfl, secrets, schedule, rfl⟩
  · exact ⟨rfl, secrets, schedule, rfl⟩

theorem serveIssuer (alike : w.Alike w') (roleArn session : String) :
    ExceptAlike (fun keys keys' => keys.expiration = keys'.expiration)
        (w.serveIssuer roleArn session).1 (w'.serveIssuer roleArn session).1 ∧
      (w.serveIssuer roleArn session).2.Alike (w'.serveIssuer roleArn session).2 := by
  have awaited : w.awaited.Alike w'.awaited := by
    refine applyDue alike.schedule ⟨alike.secrets, alike.schedule, ?_⟩
    rw [alike.rest]
  rw [serveIssuer_eq, serveIssuer_eq]
  generalize w.awaited = after, w'.awaited = after' at awaited ⊢
  obtain ⟨secrets, schedule, rest⟩ := awaited
  generalize after'.secrets = secrets', after'.schedule = schedule' at secrets schedule rest
  subst rest
  dsimp only
  split
  · exact ⟨.error _, secrets, schedule, rfl⟩
  · exact ⟨.ok rfl, secrets, schedule, rfl⟩

/-- Alike questions are answered alike, whoever chooses the session keys. -/
theorem agree (mint mint' : Mint) :
    Program.Lockstep.Agree alikeness World.Alike (serveMinting mint) (serveMinting mint') := by
  intro question question' w w' same alike
  have faults : w.faults = w'.faults := by rw [alike.rest]
  cases same with
  | create written => exact alike.createSecret written.alike
  | update written => exact alike.updateSecret written.alike
  | same question =>
    have registry : w.registry = w'.registry := by rw [alike.rest]
    have declarations : w.declarations = w'.declarations := by rw [alike.rest]
    cases question with
    | listSecrets selector =>
      change ExceptAlike _ (serve (.listSecrets selector) w).1 (serve (.listSecrets selector) w').1 ∧
        (serve (.listSecrets selector) w).2.Alike (serve (.listSecrets selector) w').2
      simp only [serve, ← faults]
      split
      · exact ⟨.error _, alike⟩
      · refine ⟨.ok (Secret.alike_filter (fun s s' same => ?_) alike.secrets), alike⟩
        simp only [Selector.selects, same.metadata]
    | createSecret s => exact alike.createSecret (.refl s)
    | updateSecret s => exact alike.updateSecret (.refl s)
    | deleteSecret key =>
      have served := alike.serveWrite (congrArg Faults.delete faults) .delete (rfl : key = key)
        (alike_removeSecret key alike.secrets)
      exact ⟨heq_of_eq served.1, served.2⟩
    | assumeRole roleArn session duration =>
      obtain ⟨answers, worlds⟩ := alike.serveIssuer roleArn session
      refine ⟨?_, worlds⟩
      change ExceptAlike _ (Except.map _ (w.serveIssuer roleArn session).1)
        (Except.map _ (w'.serveIssuer roleArn session).1)
      generalize (w.serveIssuer roleArn session).1 = answer at answers ⊢
      generalize (w'.serveIssuer roleArn session).1 = answer' at answers ⊢
      cases answers with
      | error e => exact .error e
      | ok expiration => exact .ok expiration
    | recordEvent event => exact ⟨HEq.rfl, alike⟩
    | log record => exact ⟨HEq.rfl, alike⟩
    | registrySynced => exact ⟨heq_of_eq (congrArg Registry.synced registry), alike⟩
    | registryRoles => exact ⟨heq_of_eq (congrArg Registry.snapshot registry), alike⟩
    | listDeclared =>
      change HEq (serve .listDeclared w).1 (serve .listDeclared w').1 ∧
        (serve .listDeclared w).2.Alike (serve .listDeclared w').2
      simp only [serve, ← faults, ← declarations]
      split <;> exact ⟨HEq.rfl, alike⟩
    | reportDeclared d status =>
      change HEq (serve (.reportDeclared d status) w).1 (serve (.reportDeclared d status) w').1 ∧
        (serve (.reportDeclared d status) w).2.Alike (serve (.reportDeclared d status) w').2
      simp only [serve, ← faults]
      split
      · exact ⟨HEq.rfl, alike⟩
      · exact ⟨HEq.rfl, alike.secrets, alike.schedule, by rw [alike.rest]⟩
    | api request =>
      have served := alike.serveApi request
      exact ⟨heq_of_eq served.1, served.2⟩

end World.Alike

namespace Reconciler

/-- Whether ticks have one outcome and asked alike questions, one after the other. -/
structure OutcomeAlike (o o' : TickOutcome) : Prop where
  value : o.value = o'.value
  questions : List.Forall₂
    (fun step step' => step.question.SameBut Secret.sealedKeys step'.question) o.steps o'.steps

section Live

variable {r : Reconciler} (plain : r.source.Plain) (mint mint' : World.Mint) {w w' : World}

include plain

theorem alike_act (alike : w.Alike w') {act act' : Act} (same : act.Alike act') :
    Option.Rel OutcomeAlike (r.actWith (World.serveMinting mint) w act).1
        (r.actWith (World.serveMinting mint') w' act').1 ∧
      (r.actWith (World.serveMinting mint) w act).2.Alike
        (r.actWith (World.serveMinting mint') w' act').2 := by
  cases same with
  | tick now =>
    obtain ⟨value, worlds, questions⟩ :=
      (alike_tick plain now).run (World.Alike.agree mint mint') alike
    exact ⟨.some ⟨value, questions⟩, worlds⟩
  | change same => exact ⟨.none, alike.apply same⟩

theorem alike_live (alike : w.Alike w') {acts acts' : List Act}
    (same : List.Forall₂ Act.Alike acts acts') :
    List.Forall₂ (Option.Rel OutcomeAlike) (r.liveWith (World.serveMinting mint) w acts).1
        (r.liveWith (World.serveMinting mint') w' acts').1 ∧
      (r.liveWith (World.serveMinting mint) w acts).2.Alike
        (r.liveWith (World.serveMinting mint') w' acts').2 := by
  induction same generalizing w w' with
  | nil => exact ⟨.nil, alike⟩
  | cons first _ ih =>
    obtain ⟨outcome, worlds⟩ := alike_act plain mint mint' alike first
    obtain ⟨outcomes, last⟩ := ih worlds
    exact ⟨.cons outcome outcomes, last⟩

end Live

/-- Two histories that differ in session keys, and in what is never read back of secrets, have the
same summaries and errors, and ask the same questions in the same order; only in the secrets to be
written may the credentials differ. The text shown of credentials leaves out what is secret of them.
A world that chooses the keys itself is one instance. -/
theorem leaks_nothing (r : Reconciler) (plain : r.source.Plain) (mint mint' : World.Mint)
    (w w' : World) (alike : w.Alike w') (acts acts' : List Act)
    (acted : List.Forall₂ Act.Alike acts acts') :
    List.Forall₂ (Option.Rel OutcomeAlike) (r.liveWith (World.serveMinting mint) w acts).1
        (r.liveWith (World.serveMinting mint') w' acts').1 ∧
      (r.liveWith (World.serveMinting mint) w acts).2.Alike
        (r.liveWith (World.serveMinting mint') w' acts').2 ∧
      r.liveWith (World.serveMinting World.ownMint) w acts = r.live w acts ∧
      ∀ c c' : Credentials, c.Alike c' → c.accessKeyId = c'.accessKeyId → c.summary = c'.summary := by
  obtain ⟨outcomes, worlds⟩ := alike_live plain mint mint' alike acted
  refine ⟨outcomes, worlds, ?_, fun c c' same accessKey => same.summary accessKey⟩
  rw [World.serveMinting_ownMint, liveWith_serve]

end Reconciler

section Sample

/-- The cluster of the sample, with other content in its secrets. -/
private def twin : World :=
  { World.sample with
    secrets := World.sample.secrets.map fun s =>
      { s with data := some [(Secret.fileKey, "other".toUTF8)] } }

private def openMint : World.Mint := fun _ _ keys => ⟨"open", "open", "open", keys.expiration⟩

theorem Reconciler.leaks_nothing_sample :
    List.Forall₂ (Option.Rel OutcomeAlike)
        (Reconciler.sample.live .sample [.tick .epoch, .tick .epoch]).1
        (Reconciler.sample.liveWith (World.serveMinting openMint) twin
          [.tick .epoch, .tick .epoch]).1 ∧
      (Reconciler.sample.live .sample [.tick .epoch]).2.secrets.map (·.text? Secret.fileKey) ≠
        (Reconciler.sample.liveWith (World.serveMinting openMint) twin
          [.tick .epoch]).2.secrets.map (·.text? Secret.fileKey) := by
  have alike : World.sample.Alike twin := by
    refine ⟨?_, .nil, rfl⟩
    refine .cons ⟨rfl, rfl, ?_⟩ (.cons ⟨rfl, rfl, ?_⟩ (.cons ⟨rfl, rfl, ?_⟩ .nil)) <;> decide
  obtain ⟨outcomes, -, own, -⟩ := Reconciler.leaks_nothing .sample Source.plain_declared
    World.ownMint openMint .sample twin alike [.tick .epoch, .tick .epoch]
    [.tick .epoch, .tick .epoch] (.cons (.tick _) (.cons (.tick _) .nil))
  exact ⟨own ▸ outcomes, by decide +kernel⟩

end Sample

end RoleSecrets
