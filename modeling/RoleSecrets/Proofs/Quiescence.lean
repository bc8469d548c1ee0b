import RoleSecrets.History
import RoleSecrets.Proofs.Convergence
import RoleSecrets.Proofs.Reflections

/-! # A settled cluster is left alone

After a tick that counts no failure, every counting declaration has a secret that suits it and a
status that says so. Such a world is settled: a tick that finds no fault and no credentials about to
expire only looks, and the world stays settled until something is changed from outside.
-/

namespace RoleSecrets

open Tick

/-- Whether a question does more than to look something up or to leave a record in the log. -/
def Query.isAction : Query → Bool
  | .createSecret _ | .updateSecret _ | .deleteSecret _ => true
  | .assumeRole .. | .recordEvent _ | .reportDeclared .. => true
  | .api request => request.method ≠ .get
  | _ => false

theorem Query.isAction_of_isLookup {question : Query} (lookup : question.isLookup = true) :
    question.isAction = false := by
  cases question with
  | api request =>
    have get : request.method = .get := by simpa [isLookup] using lookup
    simp [isAction, get]
  | _ => first | rfl | cases lookup

/-- Whether a secret suits a declaration as long as it does not expire, and the status of the
declaration is what the secret accounts for. -/
structure Declaration.Suits (naming : RoleNaming) (d : Declaration) (s : Secret) : Prop where
  found : d.matchesSecret s = true
  accepted : d.accepts s = true
  current : Drift.isCurrent d s = true
  known : ∃ recorded, s.expiration? = some recorded ∧ ∀ generation, d.generation = some generation →
    d.status = some
      (.of generation ((s.text? Secret.roleArnKey).getD (naming.resolve d.role)) recorded)

/-- Whether the secrets of a source are one to one with the declarations, and suit these. -/
structure Settled (r : Reconciler) (declarations : List Declaration) (w : World) : Prop where
  told : r.source.told w = .ok declarations
  keyed : Keyed w.secrets
  served : ∀ d ∈ Drift.counting declarations,
    ∃ s ∈ w.secrets, r.source.owns s = true ∧ d.Suits r.naming s
  declared : ∀ s ∈ w.secrets, r.source.owns s = true →
    s.key ∈ (Drift.counting declarations).map Declaration.key

/-- Whether a tick at an instant finds no fault in looking things up, and no secret of its source
that expires within the refresh limit. -/
structure Reconciler.Unhurried (r : Reconciler) (now : Timestamp) (w : World) : Prop where
  listed : w.faults.list = none
  told : w.faults.declarations = none
  lasting : ∃ deadline, now.add? r.refreshLimit = some deadline ∧
    ∀ s ∈ w.secrets, r.source.owns s = true →
      ∀ recorded, s.expiration? = some recorded → deadline ≤ recorded

section Settled

variable {r : Reconciler} {InOrder : World → Prop} {declarations : List Declaration}
  {now : Timestamp} {w after : World}

/-- A settled world stays so while neither what is desired nor the secrets change. -/
theorem Settled.of_same (settled : Settled r declarations w) (mirrors : r.source.Mirrors InOrder)
    (desired : w.SameDesired after) (secrets : after.secrets = w.secrets) :
    Settled r declarations after := by
  refine ⟨(mirrors.told_of_desired desired).trans settled.told, ?_, ?_, ?_⟩
  · exact secrets ▸ settled.keyed
  · exact secrets ▸ settled.served
  · exact secrets ▸ settled.declared

/-- An owned secret with the key of a declaration is the one that suits it. -/
theorem Settled.suits (settled : Settled r declarations w) {d : Declaration}
    (counts : d ∈ Drift.counting declarations) {s : Secret} (held : s ∈ w.secrets)
    (key : d.key = s.key) : d.Suits r.naming s := by
  obtain ⟨t, inStore, -, suits⟩ := settled.served d counts
  have same := (Declaration.key_of_matchesSecret suits.found).trans key
  obtain rfl := settled.keyed.eq_of_key inStore held same
  exact suits

/-- In a settled world a tick has nothing to delete. -/
theorem Settled.no_orphans (settled : Settled r declarations w) :
    (r.plan now w declarations).orphans = [] := by
  refine List.eq_nil_iff_forall_not_mem.mpr fun s orphan => ?_
  have fits := r.plan_fits now declarations settled.keyed
  obtain ⟨held, owned⟩ :=
    List.mem_filter.mp (fits.secrets_perm.subset (List.mem_append_left _ orphan))
  obtain ⟨d, counts, key⟩ := List.mem_map.mp (settled.declared s held owned)
  have rejected := fits.orphaned s orphan d counts key
  rw [(settled.suits counts held key).accepted] at rejected
  cases rejected

/-- Nor has it anything to create. -/
theorem Settled.no_missing (settled : Settled r declarations w) :
    (r.plan now w declarations).missing = [] := by
  refine List.eq_nil_iff_forall_not_mem.mpr fun d missing => ?_
  have fits := r.plan_fits now declarations settled.keyed
  have counts := fits.declarations_perm.subset (List.mem_append_right _ missing)
  obtain ⟨s, held, owned, suits⟩ := settled.served d counts
  have listed := fits.secrets_perm.symm.subset (List.mem_filter.mpr ⟨held, owned⟩)
  rw [settled.no_orphans, List.nil_append] at listed
  obtain ⟨m, managed, rfl⟩ := List.mem_map.mp listed
  -- the declaration would be both managed and missing
  have distinct := (r.perm_declaredKeys now declarations settled.keyed).nodup_iff.mpr
    (Drift.nodup_keys_counting declarations)
  rw [declaredKeys_eq] at distinct
  refine (List.nodup_append.mp distinct).2.2 m.declaration.key (List.mem_map_of_mem managed)
    d.key (List.mem_map_of_mem missing) ?_
  exact (fits.paired m managed).1.trans (Declaration.key_of_matchesSecret suits.found)

/-- A managed secret of a settled world is looked at and left alone. -/
theorem Settled.run_syncManaged (settled : Settled r declarations w)
    (unhurried : r.Unhurried now w) {m : Drift.Managed}
    (managed : m ∈ (r.plan now w declarations).managed) (p : Progress) :
    w.run (syncManaged r p m) = ⟨p, w, []⟩ := by
  have fits := r.plan_fits now declarations settled.keyed
  obtain ⟨key, -, drift⟩ := fits.paired m managed
  obtain ⟨held, owned⟩ := List.mem_filter.mp (held_of_managed settled.keyed managed)
  have counts := fits.declarations_perm.subset
    (List.mem_append_left _ (List.mem_map_of_mem managed))
  have suits := settled.suits counts held key
  obtain ⟨recorded, expires, known⟩ := suits.known
  obtain ⟨deadline, limit, lasting⟩ := unhurried.lasting
  have outlasts : Drift.outlasts m.secret (now.add? r.refreshLimit) = true :=
    Drift.outlasts_eq_true_iff.mpr
      ⟨recorded, deadline, expires, limit, lasting _ held owned _ expires⟩
  have healthy := drift.trans (Drift.classify_eq_healthy_iff.mpr ⟨suits.current, outlasts⟩)
  rw [syncManaged_healthy healthy, reportHealthy, expires]
  dsimp only
  unfold report
  cases generated : m.declaration.generation with
  | none => rfl
  | some generation =>
    dsimp only
    rw [if_pos (known generation generated)]
    rfl

/-- A loop whose turns do nothing does nothing. -/
theorem run_foldlM_idle {γ : Type} {f : Progress → γ → Controller Progress} {items : List γ}
    (idle : ∀ item ∈ items, ∀ p, w.run (f p item) = ⟨p, w, []⟩) (p : Progress) :
    w.run (items.foldlM f p) = ⟨p, w, []⟩ := by
  induction items with
  | nil => rfl
  | cons item items ih =>
    rw [List.foldlM_cons, World.run_bind_of_eq (idle item (List.mem_cons_self ..) p),
      ih fun later member => idle later (List.mem_cons_of_mem _ member)]
    rfl

theorem Settled.run_carryOut (settled : Settled r declarations w)
    (unhurried : r.Unhurried now w) :
    w.run (carryOut r (r.plan now w declarations)) = ⟨{}, w, []⟩ := by
  obtain ⟨deleted, cared, created, deletion, care, creation, same⟩ :=
    Tick.run_carryOut r (r.plan now w declarations) w
  have idle := run_foldlM_idle fun m managed => settled.run_syncManaged unhurried managed
  rw [settled.no_orphans, List.foldlM_nil, World.run_pure] at deletion
  subst deletion
  rw [idle] at care
  subst care
  rw [settled.no_missing, List.foldlM_nil, World.run_pure] at creation
  subst creation
  exact same

/-- In a settled world a tick that is not pressed for time only looks. -/
theorem Settled.run_tick (settled : Settled r declarations w) (mirrors : r.source.Mirrors InOrder)
    (unhurried : r.Unhurried now w) :
    ∃ steps, w.run (r.tick now) = ⟨.ok {}, w, steps⟩ ∧
      ∀ step ∈ steps, step.question.isAction = false := by
  obtain ⟨looks, asked⟩ := mirrors.lookup unhurried.told
  have lookups : ∀ step ∈ (w.run r.source.declarations).steps, _ :=
    (Program.Asks.run World.serve (fun _ => True) (fun _ _ _ _ => trivial)
      mirrors.plain.declarations trivial).2
  rw [asked] at lookups
  rw [settled.told] at asked
  have ticking := Tick.run_tick r now w
  generalize w.run (r.tick now) = o at ticking
  cases ticking with
  | unlisted served =>
    rw [World.serve, unhurried.listed] at served
    cases served
  | undeclared failed =>
    rw [asked] at failed
    cases failed
  | carried told ran =>
    rw [asked] at told
    cases told
    rw [settled.run_carryOut unhurried] at ran
    subst ran
    refine ⟨_, rfl, fun step member => ?_⟩
    rcases List.mem_cons.mp member with rfl | later
    · rfl
    · rw [List.append_nil] at later
      exact Query.isAction_of_isLookup (lookups step later).1

end Settled

section Settling

variable {r : Reconciler} {InOrder : World → Prop} {now : Timestamp} {w before : World}
  {declarations : List Declaration}

/-- What a tick leaves for a declaration says when it expires. -/
theorem Tick.Origin.expires {naming : RoleNaming} {deadline : Option Timestamp} {d : Declaration}
    {listed : List Secret} {steps : List World.Step} {s : Secret}
    (origin : Origin naming deadline d listed steps s) (inYears : IssuedInYears steps) :
    ∃ recorded, s.expiration? = some recorded := by
  cases origin with
  | kept held healthy =>
    obtain ⟨recorded, -, expires, -⟩ :=
      Drift.outlasts_eq_true_iff.mp (Drift.classify_eq_healthy_iff.mp healthy).2
    exact ⟨recorded, expires⟩
  | renewed held drifted issued =>
    exact ⟨_, Secret.expiration?_written rfl (issued.of_all inYears)⟩
  | created issued => exact ⟨_, Secret.expiration?_written rfl (issued.of_all inYears)⟩

/-- A supplied secret suits what its declaration is told as, once the status is accounted for. -/
theorem Tick.Supplied.suits {d told : Declaration} {s : Secret} {steps : List World.Step}
    (supplied : Supplied r now w steps d s) (twin : d.Twin told) (word : d.HasWordGeneration)
    (inYears : IssuedInYears steps) {secrets : List Secret} (keyed : Keyed secrets)
    (held : s ∈ secrets) (reflected : Reflected r.naming d secrets told.status) :
    told.Suits r.naming s := by
  obtain ⟨recorded, expires⟩ := supplied.origin.expires inYears
  refine ⟨(twin.matchesSecret s).trans supplied.found, (twin.accepts s).trans supplied.accepted,
    ?_, recorded, expires, fun generation generated => ?_⟩
  · rw [Drift.isCurrent, twin.generation]
    cases generated : d.generation with
    | none => rfl
    | some generation => simp [supplied.origin.generation? word generated]
  · rw [twin.generation] at generated
    obtain ⟨t, inStore, key, found, expires', status⟩ := reflected generation generated
    have same := key.trans (Declaration.key_of_matchesSecret supplied.found).symm
    obtain rfl := keyed.eq_of_key inStore held same
    obtain rfl : recorded = found := Option.some.inj (expires.symm.trans expires')
    rw [twin.role]
    exact status

/-- What is told before a plan is carried out fits the plan. -/
theorem mirrored_plan (mirrors : r.source.Mirrors InOrder) (inOrder : InOrder before)
    (keyed : Keyed w.secrets) (same : before.secrets = w.secrets)
    (told : r.source.told before = .ok declarations)
    (inYears : ∀ m ∈ (r.plan now w declarations).managed, m.drift = .healthy → ∀ recorded,
      m.secret.expiration? = some recorded → recorded.HasFourDigitYear) :
    Mirrored r.source (now.add? r.refreshLimit) (r.plan now w declarations) before := by
  have declared : ∀ d ∈ (r.plan now w declarations).managed.map Drift.Managed.declaration ++
      (r.plan now w declarations).missing, d ∈ declarations := by
    intro d planned
    have counts := (r.plan_fits now declarations keyed).declarations_perm.subset planned
    exact Drift.mem_of_mem_counting counts
  refine ⟨feasible_plan keyed same, fun d planned => ?_, inYears, fun d planned => ?_⟩
  · exact (mirrors.taken told d (declared d planned)).2
  · refine ⟨declarations, told, fun e member twin => ?_⟩
    rw [mirrors.single inOrder told d (declared d planned) e member twin]

/-- A tick that counts no failure settles the world. -/
theorem Tick.Ticking.settled {o : World.Outcome (Except TickError Summary)}
    (ticking : Ticking r now w o) (mirrors : r.source.Mirrors InOrder) (inOrder : InOrder w)
    (keyed : Keyed w.secrets) (calm : w.Calm) (issued : IssuedInYears o.steps)
    (recorded : ∀ s ∈ w.secrets, s ∈ o.state.secrets → r.source.owns s = true →
      ∀ expiration, s.expiration? = some expiration → expiration.HasFourDigitYear)
    {summary : Summary} (finished : o.value = .ok summary) (noFailure : summary.failed = 0) :
    ∃ declarations, Settled r declarations o.state := by
  have value : ∀ declarations, (w.run r.source.declarations).value = .ok declarations →
      Converged r now w declarations o := by
    intro declarations ran
    refine ticking.converged mirrors.plain keyed calm.undisturbed ran ?_ finished noFailure
    intro d counts
    exact (mirrors.taken (mirrors.told_of_run ran) d (Drift.mem_of_mem_counting counts)).1
  cases ticking with
  | unlisted served => cases finished
  | undeclared asked => cases finished
  | carried asked ran =>
    rename_i declarations before steps inner
    have converged := value declarations (by rw [asked])
    obtain ⟨secrets, still, ordered, told⟩ := mirrors.run_declarations inOrder calm asked
    obtain rfl := Except.ok.inj finished
    subst ran
    have carried := carried_plan mirrors.plain keyed secrets still.undisturbed now declarations []
    have healthy : ∀ m ∈ (r.plan now w declarations).managed, m.drift = .healthy → ∀ expiration,
        m.secret.expiration? = some expiration → expiration.HasFourDigitYear := by
      intro m managed healthy
      obtain ⟨held, owned⟩ := List.mem_filter.mp (held_of_managed keyed managed)
      exact recorded _ held ((carried.cared noFailure m managed).kept healthy) owned
    obtain ⟨alike, reflected⟩ := reflected_carryOut mirrors
      (.start (secrets ▸ keyed) still ordered)
      (mirrored_plan mirrors ordered keyed secrets told healthy)
    obtain ⟨others, told', alike⟩ := alike declarations told
    have twins := Drift.twins_counting alike.twins
    refine ⟨others, told', converged.keyed, fun e counts => ?_, ?_⟩
    · obtain ⟨d, counts', twin⟩ := Declaration.exists_of_forall₂ twins counts
      obtain ⟨s, held, supplied⟩ := converged.supplied d counts'
      have planned := (r.plan_fits now _ keyed).declarations_perm.symm.subset counts'
      obtain ⟨found, told'', holds⟩ := reflected noFailure d planned
      obtain rfl := Except.ok.inj (told''.symm.trans told')
      refine ⟨s, held, supplied.owned, supplied.suits twin ?_ issued converged.keyed held ?_⟩
      · exact (mirrors.taken told d (Drift.mem_of_mem_counting counts')).2
      · exact holds e (Drift.mem_of_mem_counting counts) twin
    · rw [Declaration.keys_of_twins twins]
      exact converged.declared

end Settling

namespace Reconciler

/-- Whether no tick of a history is pressed for time or finds a fault, and nothing changes from
outside but faults and the issuer's time of expiry. -/
def Unprovoked (r : Reconciler) : World → List Act → Prop
  | _, [] => True
  | w, .tick now :: later => r.Unhurried now w ∧ r.Unprovoked (w.run (r.tick now)).state later
  | w, .change change :: later => change.IsCalm ∧ r.Unprovoked (w.apply change) later

/-- Whether a tick found everything in order and did no more than to look. -/
def IsQuiet (o : TickOutcome) : Prop :=
  o.value = .ok {} ∧ ∀ step ∈ o.steps, step.question.isAction = false

variable {r : Reconciler} {InOrder : World → Prop} {declarations : List Declaration}

/-- One act is quiet in a settled world, and leaves a settled world. -/
theorem settled_act {w : World} (settled : Settled r declarations w)
    (mirrors : r.source.Mirrors InOrder) {act : Act} {later : List Act}
    (unprovoked : r.Unprovoked w (act :: later)) :
    (∀ o, (r.act w act).1 = some o → IsQuiet o) ∧ Settled r declarations (r.act w act).2 ∧
      r.Unprovoked (r.act w act).2 later := by
  cases act with
  | tick now =>
    obtain ⟨unhurried, unprovoked⟩ := unprovoked
    obtain ⟨steps, ran, looks⟩ := settled.run_tick mirrors unhurried
    rw [ran] at unprovoked
    rw [act, ran]
    refine ⟨?_, settled, unprovoked⟩
    intro o same
    obtain rfl := Option.some.inj same
    exact ⟨rfl, looks⟩
  | change change =>
    obtain ⟨isCalm, unprovoked⟩ := unprovoked
    obtain ⟨desired, secrets⟩ := World.desired_apply isCalm w
    refine ⟨?_, settled.of_same mirrors desired secrets, unprovoked⟩
    intro o same
    cases same

/-- And so are all acts of a history. -/
theorem settled_live {acts : List Act} {w : World} (settled : Settled r declarations w)
    (mirrors : r.source.Mirrors InOrder) (unprovoked : r.Unprovoked w acts) :
    (∀ o, some o ∈ (r.live w acts).1 → IsQuiet o) ∧ Settled r declarations (r.live w acts).2 := by
  induction acts generalizing w with
  | nil => exact ⟨fun _ member => absurd member List.not_mem_nil, settled⟩
  | cons act later ih =>
    obtain ⟨quiet, still, rest⟩ := settled_act settled mirrors unprovoked
    obtain ⟨quietLater, last⟩ := ih still rest
    refine ⟨fun o member => ?_, last⟩
    rcases List.mem_cons.mp member with same | inLater
    · exact quiet o same.symm
    · exact quietLater o inLater

/-- Once a tick of the source of pods, or of the source of resources with keys of their own, has
counted no failure, every later tick is quiet until something is changed from outside or credentials
are about to expire. -/
theorem comes_to_rest (r : Reconciler) (w : World)
    (source : r.source = .ofPods ∨ (∃ ns, r.source = .ofResources ns) ∧ w.ResourcesKeyed)
    (keyed : Keyed w.secrets) (calm : w.Calm) (now : Timestamp)
    (recorded : ∀ s ∈ w.secrets, s ∈ (w.run (r.tick now)).state.secrets → r.source.owns s = true →
      ∀ expiration, s.expiration? = some expiration → expiration.HasFourDigitYear)
    (summary : Summary) (finished : (w.run (r.tick now)).value = .ok summary)
    (noFailure : summary.failed = 0) (acts : List Act)
    (unprovoked : r.Unprovoked (w.run (r.tick now)).state acts) :
    ∀ o, some o ∈ (r.live (w.run (r.tick now)).state acts).1 →
      o.value = .ok {} ∧ ∀ step ∈ o.steps, step.question.isAction = false := by
  obtain ⟨InOrder, mirrors, inOrder⟩ :
      ∃ InOrder : World → Prop, r.source.Mirrors InOrder ∧ InOrder w := by
    rcases source with pods | ⟨⟨ns, resources⟩, ordered⟩
    · exact ⟨_, pods ▸ Source.mirrors_ofPods, trivial⟩
    · exact ⟨_, resources ▸ Source.mirrors_ofResources ns, ordered⟩
  obtain ⟨declarations, settled⟩ := (run_tick r now w).settled mirrors inOrder keyed calm
    (World.calm_run _ calm).2 recorded finished noFailure
  exact (settled_live settled mirrors unprovoked).1

end Reconciler

section Sample

/-- A reconciler for role resources. -/
def Reconciler.resourceSample : Reconciler where
  naming := ⟨"arn:aws:iam::1:role/", "arn:aws:iam::"⟩
  source := .ofResources none
  refreshLimit := 60

/-- A cluster with a resource for which nothing has been done so far. -/
def World.resourceSample : World where
  resources := [.obj [("apiVersion", .str "zalando.org/v1"), ("kind", .str "AWSIAMRole"),
    ("metadata", .obj [("name", .str "reader"), ("namespace", .str "apps"), ("uid", .str "id"),
      ("generation", .int 1)]),
    ("spec", .obj [("roleReference", .str "reader")])]]
  expiration := (Timestamp.epoch.add? 3600).getD .epoch

theorem Reconciler.comes_to_rest_sample :
    (World.resourceSample.run (resourceSample.tick .epoch)).value =
        .ok { created := 1, reported := 1 } ∧
      ∀ o, some o ∈ (resourceSample.live
          (World.resourceSample.run (resourceSample.tick .epoch)).state [.tick .epoch]).1 →
        o.value = .ok {} := by
  have finished : (World.resourceSample.run (resourceSample.tick .epoch)).value =
      .ok { created := 1, reported := 1 } := by decide +kernel
  have ordered : World.resourceSample.ResourcesKeyed := ⟨by decide, by decide⟩
  have calm : World.resourceSample.Calm :=
    ⟨by decide, fun _ member => absurd member List.not_mem_nil⟩
  have unhurried : resourceSample.Unhurried .epoch
      (World.resourceSample.run (resourceSample.tick .epoch)).state := by
    have lasting : ((World.resourceSample.run (resourceSample.tick .epoch)).state.secrets.all
        fun s => s.expiration?.all fun recorded =>
          (Timestamp.epoch.add? 60).getD .epoch ≤ recorded) = true := by
      decide +kernel
    refine ⟨by decide +kernel, by decide +kernel, _, rfl, fun s held owned recorded expires => ?_⟩
    have lasts := List.all_eq_true.mp lasting s held
    rw [expires] at lasts
    exact of_decide_eq_true lasts
  refine ⟨finished, fun o member => ?_⟩
  exact (Reconciler.comes_to_rest resourceSample .resourceSample (.inr ⟨⟨none, rfl⟩, ordered⟩)
    ⟨by decide, by decide⟩ calm .epoch (fun _ held => absurd held List.not_mem_nil) _ finished rfl
    [.tick .epoch] ⟨unhurried, trivial⟩ o member).1

end Sample

end RoleSecrets
