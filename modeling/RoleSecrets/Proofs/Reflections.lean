import RoleSecrets.Proofs.Mirrors
import RoleSecrets.Proofs.TickPhases

/-! # The told status agrees with the secret

A turn that counts no failure leaves its declaration with the status that its secret accounts for:
either that status has been reported in the turn, or it was known before. No other declaration is
told differently afterwards.
-/

namespace RoleSecrets.Tick

open World

/-- Whether the status of a declaration is what a secret under its key accounts for. -/
def Reflected (naming : RoleNaming) (d : Declaration) (secrets : List Secret)
    (status : Option RoleStatus) : Prop :=
  ∀ generation, d.generation = some generation → ∃ s ∈ secrets, s.key = d.key ∧
    ∃ recorded, s.expiration? = some recorded ∧ status = some
      (.of generation ((s.text? Secret.roleArnKey).getD (naming.resolve d.role)) recorded)

/-- Whether the source tells of a declaration nothing but what satisfies a predicate on statuses. -/
def ToldAs (source : Source) (d : Declaration) (P : Option RoleStatus → Prop) (w : World) : Prop :=
  ∃ declarations, source.told w = .ok declarations ∧ ∀ e ∈ declarations, d.Twin e → P e.status

/-- Whether what is told has changed for some keys only. -/
def ToldAlike (source : Source) (keys : List ObjectKey) (w after : World) : Prop :=
  ∀ declarations, source.told w = .ok declarations →
    ∃ others, source.told after = .ok others ∧ Declaration.Alike keys declarations others

variable {InOrder : World → Prop} {r : Reconciler} {p : Progress} {d : Declaration} {w after : World}
  {P : Option RoleStatus → Prop} {keys others : List ObjectKey}

theorem ToldAlike.refl (source : Source) (keys : List ObjectKey) (w : World) :
    ToldAlike source keys w w :=
  fun declarations told => ⟨declarations, told, .refl _ _⟩

theorem ToldAlike.trans {source : Source} {third : World} (one : ToldAlike source keys w after)
    (two : ToldAlike source others after third) : ToldAlike source (keys ++ others) w third := by
  intro declarations told
  obtain ⟨between, told', alike⟩ := one declarations told
  obtain ⟨last, told'', alike'⟩ := two between told'
  exact ⟨last, told'', alike.trans alike'⟩

theorem ToldAlike.of_desired (mirrors : r.source.Mirrors InOrder) (same : w.SameDesired after) :
    ToldAlike r.source keys w after :=
  fun declarations told => ⟨declarations, mirrors.told_of_desired same ▸ told, .refl _ _⟩

theorem ToldAs.mono {source : Source} {Q : Option RoleStatus → Prop} (told : ToldAs source d P w)
    (weaker : ∀ status, P status → Q status) : ToldAs source d Q w := by
  obtain ⟨declarations, same, holds⟩ := told
  exact ⟨declarations, same, fun e member twin => weaker _ (holds e member twin)⟩

theorem ToldAs.of_desired (mirrors : r.source.Mirrors InOrder) (same : w.SameDesired after)
    (told : ToldAs r.source d P w) : ToldAs r.source d P after := by
  rw [ToldAs, mirrors.told_of_desired same]
  exact told

/-- What is told under other keys goes on being told. -/
theorem ToldAs.frame {source : Source} (told : ToldAs source d P w)
    (alike : ToldAlike source keys w after) (apart : d.key ∉ keys) : ToldAs source d P after := by
  obtain ⟨declarations, same, holds⟩ := told
  obtain ⟨others, same', alike⟩ := alike declarations same
  refine ⟨others, same', fun e member twin => ?_⟩
  obtain ⟨before, inside, twin', equal⟩ := Declaration.exists_of_forall₂ alike member
  have outside : before.key ∉ keys := by
    rw [← twin'.key, twin.key]
    exact apart
  rw [equal outside]
  exact holds before inside (equal outside ▸ twin)

theorem desired_served {question : Query} {answer : Reply question} (calm : w.Calm)
    (noReport : question.isReport = false) (served : serve question w = (answer, after)) :
    w.SameDesired after := by
  have kept := desired_serve noReport calm
  rw [served] at kept
  exact kept.2

theorem Issuance.desired {naming : RoleNaming}
    {o : World.Outcome (Option Credentials × Progress)} (issuance : Issuance naming p d w o)
    (calm : w.Calm) : w.SameDesired o.state := by
  cases issuance with
  | reused kept => exact .refl w
  | unnamed fresh nameless => exact .refl w
  | refused fresh named served => exact desired_served calm rfl served
  | issued fresh named served => exact desired_served calm rfl served

/-- A report that counts no failure leaves the status told, which may have been so before. -/
theorem Reporting.mirrors (mirrors : r.source.Mirrors InOrder) {roleArn : String}
    {expiration : Timestamp} {o : World.Outcome Progress}
    (reporting : Reporting r.source p d roleArn expiration w o) (inOrder : InOrder w)
    (word : d.HasWordGeneration) (inYears : expiration.HasFourDigitYear)
    (told : ToldAs r.source d (· = d.status) w) :
    InOrder o.state ∧ ToldAlike r.source [d.key] w o.state ∧
      (o.value.summary.failed = p.summary.failed → ToldAs r.source d (fun status =>
        ∀ generation, d.generation = some generation →
          status = some (.of generation roleArn expiration)) o.state) := by
  obtain ⟨declarations, same, known⟩ := told
  have asked : ∀ {generation answer later steps}, d.generation = some generation →
      w.run (r.source.report d (.of generation roleArn expiration)) = ⟨answer, later, steps⟩ →
        InOrder later ∧ ToldAlike r.source [d.key] w later ∧
          (answer = .ok () → ToldAs r.source d
            (fun status => status = some (.of generation roleArn expiration)) later) := by
    intro generation answer later steps generated ran
    have report := mirrors.report d (.of generation roleArn expiration) inOrder same
      (word generation generated) inYears
    rw [ran] at report
    obtain ⟨order, others, same', alike, done⟩ := report
    refine ⟨order, fun before told => ?_, fun ok => ⟨others, same', fun e member twin => ?_⟩⟩
    · obtain rfl := Except.ok.inj (told.symm.trans same)
      exact ⟨others, same', alike⟩
    · refine done ok e member twin.key ?_
      rw [twin.generation, generated]
      exact Option.some_ne_none _
  cases reporting with
  | ungenerated none =>
    refine ⟨inOrder, .refl _ _ _, fun _ => ⟨declarations, same, fun _ _ _ generation some => ?_⟩⟩
    rw [none] at some
    cases some
  | known some status =>
    refine ⟨inOrder, .refl _ _ _, fun _ => ⟨declarations, same, fun e member twin => ?_⟩⟩
    intro generation some'
    obtain rfl := Option.some.inj (some.symm.trans some')
    exact (known e member twin).trans status
  | told some news ran =>
    obtain ⟨order, alike, done⟩ := asked some ran
    refine ⟨order, alike, fun _ => ?_⟩
    obtain ⟨others, same', holds⟩ := done rfl
    refine ⟨others, same', fun e member twin generation some' => ?_⟩
    obtain rfl := Option.some.inj (some.symm.trans some')
    exact holds e member twin
  | refused some news ran =>
    obtain ⟨order, alike, -⟩ := asked some ran
    exact ⟨order, alike, fun noFailure => absurd noFailure (Nat.succ_ne_self _)⟩

variable {naming : RoleNaming} {past : List World.Step} {c : Credentials} {s : Secret}

/-- The status reported after a delivery is accounted for by the delivered secret. -/
theorem Delivery.mirrors (mirrors : r.source.Mirrors InOrder) {write : Write}
    {o : World.Outcome Progress} (delivery : Delivery r write p d c s w o)
    (going : Going naming p w past) (found : d.matchesSecret s = true)
    (written : s.data = some (d.secretData c)) (inOrder : InOrder w) (word : d.HasWordGeneration)
    (inYears : c.expiration.HasFourDigitYear) (told : ToldAs r.source d (· = d.status) w) :
    InOrder o.state ∧ ToldAlike r.source [d.key] w o.state ∧
      (o.value.summary.failed = p.summary.failed →
        ToldAs r.source d (Reflected naming d o.state.secrets) o.state) := by
  have keeps := delivery.keeps mirrors.plain (Declaration.isNamed_of_matchesSecret found) going
  obtain ⟨-, -, -, held⟩ := keeps
  cases delivery with
  | rejected asked =>
    exact ⟨inOrder, .refl _ _ _, fun noFailure => absurd noFailure (Nat.succ_ne_self _)⟩
  | written put reporting =>
    rename_i after inner
    have desired : w.SameDesired after := by
      rw [put]
      exact ⟨rfl, rfl, rfl⟩
    have counted : (write.count p.summary).failed = p.summary.failed := by cases write <;> rfl
    obtain ⟨order, alike, done⟩ := reporting.mirrors mirrors
      (mirrors.order_of_desired desired inOrder) word inYears (told.of_desired mirrors desired)
    have before : ToldAlike r.source [] w _ := .of_desired mirrors desired
    refine ⟨order, before.trans alike, ?_⟩
    intro noFailure
    refine (done (noFailure.trans counted.symm)).mono fun status holds generation generated => ?_
    refine ⟨s, held noFailure, Declaration.key_of_matchesSecret found, _,
      Secret.expiration?_written written inYears, ?_⟩
    rw [holds generation generated, Secret.text?_roleArn written, Option.getD_some]
    rfl

/-- What is known of the run of a tick in a world that the source mirrors. -/
structure Reflecting (r : Reconciler) (InOrder : World → Prop) (p : Progress) (w : World)
    (past : List World.Step) : Prop where
  going : Going r.naming p w past
  calm : w.Calm
  inOrder : InOrder w
  inYears : IssuedInYears past

theorem Supply.mirrors (mirrors : r.source.Mirrors InOrder) {write : Write}
    {make : Credentials → Secret} {o : World.Outcome Progress}
    (supply : Supply r write make p d w o)
    (made : ∀ c, d.matchesSecret (make c) = true ∧ (make c).data = some (d.secretData c))
    (reflecting : Reflecting r InOrder p w past) (years : IssuedInYears (past ++ o.steps))
    (word : d.HasWordGeneration) (told : ToldAs r.source d (· = d.status) w) :
    InOrder o.state ∧ ToldAlike r.source [d.key] w o.state ∧
      (o.value.summary.failed = p.summary.failed →
        ToldAs r.source d (Reflected r.naming d o.state.secrets) o.state) := by
  cases supply with
  | unissued issuance =>
    have desired := issuance.desired reflecting.calm
    refine ⟨mirrors.order_of_desired desired reflecting.inOrder, .of_desired mirrors desired, ?_⟩
    intro noFailure
    rw [issuance.of_none.1] at noFailure
    exact absurd noFailure (Nat.succ_ne_self _)
  | issued issuance delivery =>
    have desired := issuance.desired reflecting.calm
    obtain ⟨summary, issued, -⟩ := issuance.of_some reflecting.going
    rw [Program.Outcome.after, ← List.append_assoc] at years
    obtain ⟨order, alike, done⟩ := delivery.mirrors mirrors
      (issuance.going reflecting.going).1 (made _).1 (made _).2
      (mirrors.order_of_desired desired reflecting.inOrder) word (issued.of_all years.of_append)
      (told.of_desired mirrors desired)
    have before : ToldAlike r.source [] w _ := .of_desired mirrors desired
    refine ⟨order, before.trans alike, ?_⟩
    exact fun noFailure => done (noFailure.trans (congrArg Summary.failed summary).symm)

/-- The status of a healthy secret is accounted for by it. -/
theorem mirrors_reportHealthy (mirrors : r.source.Mirrors InOrder)
    (going : Going naming p w past) (inOrder : InOrder w) (held : s ∈ w.secrets)
    (found : d.matchesSecret s = true)
    {recorded : Timestamp} (expires : s.expiration? = some recorded)
    (inYears : recorded.HasFourDigitYear) (word : d.HasWordGeneration)
    (told : ToldAs r.source d (· = d.status) w) :
    InOrder (w.run (reportHealthy r p d s)).state ∧
      ToldAlike r.source [d.key] w (w.run (reportHealthy r p d s)).state ∧
      ((w.run (reportHealthy r p d s)).value.summary.failed = p.summary.failed →
        ToldAs r.source d (Reflected r.naming d (w.run (reportHealthy r p d s)).state.secrets)
          (w.run (reportHealthy r p d s)).state) := by
  have secrets := (keeps_reportHealthy mirrors.plain (d := d) s going).2.1
  rw [secrets]
  unfold reportHealthy
  rw [expires]
  obtain ⟨order, alike, done⟩ := (run_report r.source p d
    ((s.text? Secret.roleArnKey).getD (r.naming.resolve d.role)) recorded w).mirrors mirrors inOrder
      word inYears told
  refine ⟨order, alike, fun noFailure => (done noFailure).mono fun status holds => ?_⟩
  intro generation generated
  exact ⟨s, held, Declaration.key_of_matchesSecret found, recorded, expires,
    holds generation generated⟩

theorem Reflecting.years (reflecting : Reflecting r InOrder p w past) {α : Type}
    (controller : Controller α) : IssuedInYears (past ++ (w.run controller).steps) := by
  obtain ⟨-, years⟩ := calm_run controller reflecting.calm
  intro before arn session duration keys member
  rcases List.mem_append.mp member with early | late
  · exact reflecting.inYears _ _ _ _ _ early
  · exact years _ _ _ _ _ late

/-- A run leads on to a world of the same kind. -/
theorem Reflecting.run (reflecting : Reflecting r InOrder p w past) {α : Type}
    (controller : Controller α) {q : Progress}
    (going : Going r.naming q (w.run controller).state (past ++ (w.run controller).steps))
    (inOrder : InOrder (w.run controller).state) :
    Reflecting r InOrder q (w.run controller).state (past ++ (w.run controller).steps) :=
  ⟨going, (calm_run controller reflecting.calm).1, inOrder, reflecting.years controller⟩

/-- Whether what is stored and what is told have changed for some keys only. -/
structure MirrorFrame (source : Source) (keys : List ObjectKey) (w after : World) : Prop where
  secrets : SameOutside keys w.secrets after.secrets
  told : ToldAlike source keys w after

theorem MirrorFrame.refl (source : Source) (keys : List ObjectKey) (w : World) :
    MirrorFrame source keys w w :=
  ⟨.refl _ _, .refl _ _ _⟩

theorem MirrorFrame.trans {source : Source} {third : World} (one : MirrorFrame source keys w after)
    (two : MirrorFrame source others after third) : MirrorFrame source (keys ++ others) w third :=
  ⟨one.secrets.trans two.secrets, one.told.trans two.told⟩

/-- The status of a declaration stays accounted for while other keys change. -/
theorem reflected_frame {source : Source}
    (told : ToldAs source d (Reflected naming d w.secrets) w)
    (frame : MirrorFrame source keys w after) (apart : d.key ∉ keys) :
    ToldAs source d (Reflected naming d after.secrets) after := by
  refine (told.frame frame.told apart).mono fun status reflected generation generated => ?_
  obtain ⟨s, held, key, rest⟩ := reflected generation generated
  exact ⟨s, (frame.secrets s (key ▸ apart)).mpr held, key, rest⟩

theorem Deletion.desired {o : World.Outcome Progress} (deletion : Deletion p s w o) :
    w.SameDesired o.state := by
  cases deletion with
  | refused served => exact .refl w
  | deleted removed plain =>
    rw [removed]
    exact ⟨rfl, rfl, rfl⟩

/-- The deletion of orphans, in a world that the source mirrors. Nothing is told differently. -/
def mirroredOrphans (r : Reconciler) (mirrors : r.source.Mirrors InOrder) : Phase deleteOrphan where
  key := Secret.key
  Going := Reflecting r InOrder
  Frame keys w after := SameOutside keys w.secrets after.secrets ∧ w.SameDesired after
  Before s _ := s.IsNamed
  Done _ _ _ := True
  Chunk _ _ _ := True
  frame_refl w := ⟨.refl _ _, .refl w⟩
  frame_trans one two := ⟨one.1.trans two.1, one.2.trans two.2⟩
  before_frame _ _ named := named
  done_frame _ _ _ := trivial
  chunk_more _ := trivial
  turn s p w past reflecting named := by
    obtain ⟨going, frame, -, failed, -⟩ :=
      (orphanPhase r.naming).turn s p w past reflecting.going named
    have desired := (run_deleteOrphan p named w).desired
    exact ⟨reflecting.run _ going (mirrors.order_of_desired desired reflecting.inOrder),
      ⟨frame, desired⟩, trivial, failed, fun _ => trivial⟩

/-- What is known of a managed secret before its turn, in a world that the source mirrors. -/
structure MirroredPair (r : Reconciler) (deadline : Option Timestamp) (m : Drift.Managed)
    (w : World) : Prop where
  paired : Paired deadline m w
  word : m.declaration.HasWordGeneration
  inYears : m.drift = .healthy → ∀ recorded, m.secret.expiration? = some recorded →
    recorded.HasFourDigitYear
  told : ToldAs r.source m.declaration (· = m.declaration.status) w

/-- The renewal of managed secrets, in a world that the source mirrors. -/
def mirroredManaged (r : Reconciler) (mirrors : r.source.Mirrors InOrder)
    (deadline : Option Timestamp) : Phase (syncManaged r) where
  key m := m.declaration.key
  Going := Reflecting r InOrder
  Frame := MirrorFrame r.source
  Before := MirroredPair r deadline
  Done m w _ :=
    ToldAs r.source m.declaration (Reflected r.naming m.declaration w.secrets) w
  Chunk _ _ _ := True
  frame_refl _ := .refl _ _ _
  frame_trans one two := one.trans two
  before_frame := by
    intro m keys w after apart frame pair
    have paired := (managedPhase r mirrors.plain deadline).before_frame apart frame.secrets pair.paired
    exact ⟨paired, pair.word, pair.inYears, pair.told.frame frame.told apart⟩
  done_frame apart frame told := reflected_frame told frame apart
  chunk_more _ := trivial
  turn m p w past reflecting pair := by
    obtain ⟨going, frame, -, failed, -⟩ :=
      (managedPhase r mirrors.plain deadline).turn m p w past reflecting.going pair.paired
    have mirrored : InOrder (w.run (syncManaged r p m)).state ∧
        ToldAlike r.source [m.declaration.key] w (w.run (syncManaged r p m)).state ∧
        ((w.run (syncManaged r p m)).value.summary.failed = p.summary.failed →
          ToldAs r.source m.declaration
            (Reflected r.naming m.declaration (w.run (syncManaged r p m)).state.secrets)
            (w.run (syncManaged r p m)).state) := by
      have found := pair.paired.found
      by_cases healthy : m.drift = .healthy
      · have outlasts :=
          (Drift.classify_eq_healthy_iff.mp (pair.paired.drift.symm.trans healthy)).2
        obtain ⟨recorded, -, expires, -, -⟩ := Drift.outlasts_eq_true_iff.mp outlasts
        rw [syncManaged_healthy healthy]
        exact mirrors_reportHealthy mirrors reflecting.going reflecting.inOrder pair.paired.held
          found expires (pair.inYears healthy recorded expires) pair.word pair.told
      · have years := reflecting.years (syncManaged r p m)
        rw [syncManaged_drifted healthy] at years ⊢
        exact (run_supply ..).mirrors mirrors (fun c => ⟨found, rfl⟩) reflecting years pair.word
          pair.told
    obtain ⟨order, alike, done⟩ := mirrored
    exact ⟨reflecting.run _ going order, ⟨frame, alike⟩, trivial, failed, done⟩

/-- The creation of missing secrets, in a world that the source mirrors. -/
def mirroredMissing (r : Reconciler) (mirrors : r.source.Mirrors InOrder)
    (deadline : Option Timestamp) : Phase (createMissing r) where
  key := Declaration.key
  Going := Reflecting r InOrder
  Frame := MirrorFrame r.source
  Before d w := d.HasWordGeneration ∧ ToldAs r.source d (· = d.status) w
  Done d w _ := ToldAs r.source d (Reflected r.naming d w.secrets) w
  Chunk _ _ _ := True
  frame_refl _ := .refl _ _ _
  frame_trans one two := one.trans two
  before_frame apart frame before := ⟨before.1, before.2.frame frame.told apart⟩
  done_frame apart frame told := reflected_frame told frame apart
  chunk_more _ := trivial
  turn d p w past reflecting before := by
    obtain ⟨going, frame, -, failed, -⟩ :=
      (missingPhase r mirrors.plain deadline).turn d p w past reflecting.going trivial
    have years := reflecting.years (createMissing r p d)
    obtain ⟨order, alike, done⟩ := (run_supply r .create (newSecret d) p d w).mirrors mirrors
      (fun c => ⟨matchesSecret_newSecret d c, rfl⟩) reflecting years before.1 before.2
    exact ⟨reflecting.run _ going order, ⟨frame, alike⟩, trivial, failed, done⟩

/-- What is known of a plan before it is carried out in a world that the source mirrors. -/
structure Mirrored (source : Source) (deadline : Option Timestamp) (plan : Drift.Plan) (w : World) :
    Prop extends Feasible deadline plan w where
  words : ∀ d ∈ plan.managed.map Drift.Managed.declaration ++ plan.missing, d.HasWordGeneration
  inYears : ∀ m ∈ plan.managed, m.drift = .healthy → ∀ recorded,
    m.secret.expiration? = some recorded → recorded.HasFourDigitYear
  told : ∀ d ∈ plan.managed.map Drift.Managed.declaration ++ plan.missing,
    ToldAs source d (· = d.status) w

/-- Before anything is done, all is well if the store is keyed and the world calm. -/
theorem Reflecting.start (keyed : Keyed w.secrets) (calm : w.Calm) (inOrder : InOrder w) :
    Reflecting r InOrder {} w [] where
  going := ⟨keyed, calm.undisturbed, fun _ _ kept => by cases kept⟩
  calm := calm
  inOrder := inOrder
  inYears _ _ _ _ _ member := absurd member List.not_mem_nil

/-- Once a plan is carried out without a failure, what is told of its declarations is what the store
accounts for, and of them only the status can have changed. -/
theorem reflected_carryOut (mirrors : r.source.Mirrors InOrder) {deadline : Option Timestamp}
    {plan : Drift.Plan} (start : Reflecting r InOrder {} w past)
    (mirrored : Mirrored r.source deadline plan w) :
    ToldAlike r.source (declaredKeys plan) w (w.run (carryOut r plan)).state ∧
      ((w.run (carryOut r plan)).value.failed = 0 →
        ∀ d ∈ plan.managed.map Drift.Managed.declaration ++ plan.missing,
          ToldAs r.source d (Reflected r.naming d (w.run (carryOut r plan)).state.secrets)
            (w.run (carryOut r plan)).state) := by
  obtain ⟨deleted, cared, created, deletion, care, creation, same⟩ := run_carryOut r plan w
  rw [same]
  obtain ⟨orphanKeys, managedKeys, -⟩ := mirrored.nodup_listed
  obtain ⟨missingKeys, separate⟩ := mirrored.nodup_missing
  have first := (mirroredOrphans r mirrors).pass orphanKeys start mirrored.named
  rw [deletion] at first
  have pairs : ∀ m ∈ plan.managed, MirroredPair r deadline m deleted.state := by
    intro m member
    have inside := List.mem_append_left plan.missing
      (List.mem_map_of_mem (f := Drift.Managed.declaration) member)
    exact ⟨mirrored.paired_of_frame first.frame.1 m member, mirrored.words _ inside,
      mirrored.inYears m member, (mirrored.told _ inside).of_desired mirrors first.frame.2⟩
  have second := (mirroredManaged r mirrors deadline).pass managedKeys first.going pairs
  rw [care] at second
  have absent : ∀ d ∈ plan.missing,
      d.HasWordGeneration ∧ ToldAs r.source d (· = d.status) cared.state := by
    intro d member
    have inside := List.mem_append_right (plan.managed.map Drift.Managed.declaration) member
    refine ⟨mirrored.words d inside, ?_⟩
    refine ((mirrored.told d inside).of_desired mirrors first.frame.2).frame second.frame.told ?_
    intro shared
    obtain ⟨m, managed, key⟩ := List.mem_map.mp shared
    exact separate m managed d member key
  have third := (mirroredMissing r mirrors deadline).pass missingKeys second.going absent
  rw [creation] at third
  refine ⟨?_, fun noFailure d member => ?_⟩
  · rw [declaredKeys_eq]
    have before : ToldAlike r.source [] w deleted.state := .of_desired mirrors first.frame.2
    exact before.trans (second.frame.told.trans third.frame.told)
  · dsimp only at noFailure
    have one := first.failed_le
    have two := second.failed_le
    have three := third.failed_le
    rcases List.mem_append.mp member with managed | missing
    · obtain ⟨m, inside, rfl⟩ := List.mem_map.mp managed
      refine reflected_frame (second.done (by omega) m inside) third.frame ?_
      intro shared
      obtain ⟨e, absent, key⟩ := List.mem_map.mp shared
      exact separate m inside e absent key.symm
    · exact third.done (by omega) d missing

end RoleSecrets.Tick
