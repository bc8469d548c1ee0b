import RoleSecrets.Proofs.StatusSteps

/-! # The three loops of a tick

A tick deletes the orphans, looks after the managed secrets and creates the missing ones. Each loop
is a phase in which every turn keeps to the key of its item, and no two items of one loop have one
key. `Carried` puts together what the three have done once a plan is carried out.
-/

namespace RoleSecrets.Tick

open World

/-- The deletion of the secrets that nothing declares. -/
def orphanPhase (naming : RoleNaming) : Phase deleteOrphan where
  key := Secret.key
  Going := Going naming
  Frame keys w after := SameOutside keys w.secrets after.secrets
  Before s _ := s.IsNamed
  Done s w _ := ∀ t ∈ w.secrets, t.key ≠ s.key
  Chunk _ chunk _ := ∀ step ∈ chunk, Silent step
  frame_refl _ := .refl _ _
  frame_trans one two := one.trans two
  before_frame _ _ named := named
  done_frame apart frame gone t member same :=
    gone t ((frame t (same ▸ apart)).mp member) same
  chunk_more silent := silent
  turn s p w past going named := by
    have deletion := run_deleteOrphan p named w
    obtain ⟨goes, frame, failed, done⟩ := deletion.keeps going
    exact ⟨goes, frame, deletion.silent, failed, done⟩

/-- What is known of a managed secret before its turn. -/
structure Paired (deadline : Option Timestamp) (m : Drift.Managed) (w : World) : Prop where
  held : m.secret ∈ w.secrets
  found : m.declaration.matchesSecret m.secret = true
  owned : m.declaration.accepts m.secret = true
  drift : m.drift = Drift.classify m.declaration m.secret deadline

/-- What is known of a managed secret once it has been looked after. -/
structure Cared (naming : RoleNaming) (m : Drift.Managed) (w : World) (steps : List World.Step) :
    Prop where
  found : m.declaration.matchesSecret m.secret = true
  kept : m.drift = .healthy → m.secret ∈ w.secrets
  renewed : m.drift ≠ .healthy →
    ∃ c, IssuedFor naming m.declaration c steps ∧ refreshed m.secret m.declaration c ∈ w.secrets

theorem matchesSecret_newSecret (d : Declaration) (c : Credentials) :
    d.matchesSecret (newSecret d c) = true := by
  simp [Declaration.matchesSecret, newSecret]

/-- A new secret belongs to the owner it is created for. -/
theorem accepts_newSecret (d : Declaration) (c : Credentials) :
    d.accepts (newSecret d c) = true := by
  unfold Declaration.accepts
  split
  · rfl
  · rename_i owner owns
    simp [newSecret, owns, Metadata.isOwnedBy, OwnerReference.agrees]

/-- The renewal of the managed secrets that have drifted. -/
def managedPhase (r : Reconciler) (plain : r.source.Plain) (deadline : Option Timestamp) :
    Phase (syncManaged r) where
  key m := m.declaration.key
  Going := Going r.naming
  Frame keys w after := SameOutside keys w.secrets after.secrets
  Before := Paired deadline
  Done := Cared r.naming
  Chunk m := Tells r.naming deadline m.declaration
  frame_refl _ := .refl _ _
  frame_trans one two := one.trans two
  before_frame apart frame paired := by
    have key := Declaration.key_of_matchesSecret paired.found
    exact { paired with held := (frame _ (key ▸ apart)).mpr paired.held }
  done_frame := by
    intro m keys w after past more apart frame cared
    have outside : m.secret.key ∉ keys := Declaration.key_of_matchesSecret cared.found ▸ apart
    refine ⟨cared.found, fun healthy => ?_, fun drifted => ?_⟩
    · exact (frame _ outside).mpr (cared.kept healthy)
    · obtain ⟨c, issued, member⟩ := cared.renewed drifted
      exact ⟨c, issued.more _, (frame (refreshed _ _ c) outside).mpr member⟩
  chunk_more tells := tells.more _
  turn m p w past going paired := by
    have key := Declaration.key_of_matchesSecret paired.found
    by_cases healthy : m.drift = .healthy
    · rw [syncManaged_healthy healthy]
      obtain ⟨goes, secrets, failed⟩ := keeps_reportHealthy plain m.secret going
      refine ⟨goes, secrets ▸ .refl _ _, ?_, failed, fun _ => ⟨paired.found, fun _ => ?_, ?_⟩⟩
      · exact tells_reportHealthy plain going.undisturbed paired.held paired.found paired.owned
          (paired.drift.symm.trans healthy)
      · exact secrets ▸ paired.held
      · exact fun drifted => absurd healthy drifted
    · rw [syncManaged_drifted healthy]
      have supply := run_supply r (.update m.drift) (refreshed m.secret m.declaration) p
        m.declaration w
      have named := going.keyed.named _ paired.held
      obtain ⟨goes, frame, failed, done⟩ := supply.keeps plain (fun c => ⟨named, key⟩) going
      refine ⟨goes, frame, ?_, failed, fun noFailure => ⟨paired.found, ?_, fun _ => ?_⟩⟩
      · exact supply.tells plain (fun c => ⟨paired.found, paired.owned, rfl⟩) going
      · exact fun stays => absurd stays healthy
      · exact done noFailure

/-- The creation of the secrets that are missing. -/
def missingPhase (r : Reconciler) (plain : r.source.Plain) (deadline : Option Timestamp) :
    Phase (createMissing r) where
  key := Declaration.key
  Going := Going r.naming
  Frame keys w after := SameOutside keys w.secrets after.secrets
  Before _ _ := True
  Done d w steps := ∃ c, IssuedFor r.naming d c steps ∧ newSecret d c ∈ w.secrets
  Chunk := Tells r.naming deadline
  frame_refl _ := .refl _ _
  frame_trans one two := one.trans two
  before_frame _ _ _ := trivial
  done_frame apart frame := by
    rintro ⟨c, issued, member⟩
    exact ⟨c, issued.more _, (frame (newSecret _ c) apart).mpr member⟩
  chunk_more tells := tells.more _
  turn d p w past going _ := by
    have supply := run_supply r .create (newSecret d) p d w
    have made := fun c => matchesSecret_newSecret d c
    obtain ⟨goes, frame, failed, done⟩ := supply.keeps plain
      (fun c => ⟨Declaration.isNamed_of_matchesSecret (made c), rfl⟩) going
    exact ⟨goes, frame, supply.tells plain (fun c => ⟨made c, accepts_newSecret d c, rfl⟩) going,
      failed, done⟩

/-- The keys of the declarations that a plan looks after or creates secrets for. -/
def declaredKeys (plan : Drift.Plan) : List ObjectKey :=
  (plan.managed.map Drift.Managed.declaration ++ plan.missing).map Declaration.key

/-- A plan is carried out in three loops, one after the other. -/
theorem run_carryOut (r : Reconciler) (plan : Drift.Plan) (w : World) :
    ∃ deleted cared created, w.run (plan.orphans.foldlM deleteOrphan {}) = deleted ∧
      deleted.state.run (plan.managed.foldlM (syncManaged r) deleted.value) = cared ∧
      cared.state.run (plan.missing.foldlM (createMissing r) cared.value) = created ∧
      w.run (carryOut r plan) =
        ⟨created.value.summary, created.state, deleted.steps ++ (cared.steps ++ created.steps)⟩ := by
  refine ⟨_, _, _, rfl, rfl, rfl, ?_⟩
  rw [carryOut, run_bind, run_bind, run_bind, run_pure, List.append_nil]

/-- Turns that are all silent make up a silent loop. -/
theorem silent_flatten {orphans : List Secret} {chunks : List (List World.Step)}
    (each : List.Forall₂ (fun _ chunk => ∀ step ∈ chunk, Silent step) orphans chunks) :
    ∀ step ∈ chunks.flatten, Silent step := by
  intro step member
  induction each with
  | nil => exact absurd member List.not_mem_nil
  | cons first rest ih =>
    rcases List.mem_append.mp member with here | later
    · exact first step here
    · exact ih later

/-- What has been done once a plan is carried out; `past` are the steps before. -/
structure Carried (r : Reconciler) (deadline : Option Timestamp) (plan : Drift.Plan) (w : World)
    (past : List World.Step) (o : World.Outcome Summary) : Prop where
  keyed : Keyed o.state.secrets
  undisturbed : o.state.Undisturbed
  frame : SameOutside (plan.orphans.map Secret.key ++ declaredKeys plan) w.secrets o.state.secrets
  deleted : o.value.failed = 0 → ∀ s ∈ plan.orphans, s.key ∉ declaredKeys plan →
    ∀ t ∈ o.state.secrets, t.key ≠ s.key
  cared : o.value.failed = 0 → ∀ m ∈ plan.managed, Cared r.naming m o.state (past ++ o.steps)
  created : o.value.failed = 0 → ∀ d ∈ plan.missing,
    ∃ c, IssuedFor r.naming d c (past ++ o.steps) ∧ newSecret d c ∈ o.state.secrets
  /-- Every report is backed, and none is made for a declaration that failed. -/
  told : ∀ step ∈ o.steps, step.question.isReport = true →
    ∃ d ∈ plan.managed.map Drift.Managed.declaration ++ plan.missing,
      BackedReport r.naming deadline d (past ++ o.steps) step ∧
        ∀ other ∈ o.steps, failedKey? other ≠ some d.key

/-- Whether a plan fits a world so that its turns do not get in each other's way. -/
structure Feasible (deadline : Option Timestamp) (plan : Drift.Plan) (w : World) : Prop where
  named : ∀ s ∈ plan.orphans, s.IsNamed
  listed : ((plan.orphans ++ plan.managed.map Drift.Managed.secret).map Secret.key).Nodup
  declared : (declaredKeys plan).Nodup
  paired : ∀ m ∈ plan.managed, Paired deadline m w

theorem declaredKeys_eq (plan : Drift.Plan) : declaredKeys plan =
    (plan.managed.map fun m => m.declaration.key) ++ plan.missing.map Declaration.key := by
  rw [declaredKeys, List.map_append, List.map_map]
  rfl

namespace Feasible

variable {deadline : Option Timestamp} {plan : Drift.Plan} {w : World}

/-- Orphans and managed secrets have keys of their own, the latter those of their declarations. -/
theorem nodup_listed (feasible : Feasible deadline plan w) :
    (plan.orphans.map Secret.key).Nodup ∧ (plan.managed.map fun m => m.declaration.key).Nodup ∧
      ∀ s ∈ plan.orphans, ∀ m ∈ plan.managed, s.key ≠ m.declaration.key := by
  have sameKeys : (plan.managed.map Drift.Managed.secret).map Secret.key =
      plan.managed.map fun m => m.declaration.key := by
    rw [List.map_map]
    exact List.map_congr_left fun m member =>
      Declaration.key_of_matchesSecret (feasible.paired m member).found
  have listed := feasible.listed
  rw [List.map_append, sameKeys] at listed
  obtain ⟨orphans, managed, apart⟩ := List.nodup_append.mp listed
  refine ⟨orphans, managed, fun s orphan m member => ?_⟩
  exact apart _ (List.mem_map_of_mem orphan) _ (List.mem_map_of_mem member)

/-- Nor does a missing declaration share its key with another one. -/
theorem nodup_missing (feasible : Feasible deadline plan w) :
    (plan.missing.map Declaration.key).Nodup ∧
      ∀ m ∈ plan.managed, ∀ d ∈ plan.missing, m.declaration.key ≠ d.key := by
  have declared := feasible.declared
  rw [declaredKeys_eq] at declared
  obtain ⟨-, missing, separate⟩ := List.nodup_append.mp declared
  refine ⟨missing, fun m member d absent => ?_⟩
  exact separate _ (List.mem_map_of_mem member) _ (List.mem_map_of_mem absent)

/-- Once the orphans are gone, the managed secrets are still there. -/
theorem paired_of_frame (feasible : Feasible deadline plan w) {after : World}
    (frame : SameOutside (plan.orphans.map Secret.key) w.secrets after.secrets) :
    ∀ m ∈ plan.managed, Paired deadline m after := by
  intro m member
  have paired := feasible.paired m member
  refine { paired with held := (frame _ ?_).mpr paired.held }
  rw [Declaration.key_of_matchesSecret paired.found]
  intro inside
  obtain ⟨s, orphan, same⟩ := List.mem_map.mp inside
  exact feasible.nodup_listed.2.2 s orphan m member same

end Feasible

theorem carried {r : Reconciler} (plain : r.source.Plain) {deadline : Option Timestamp}
    {plan : Drift.Plan} {w : World} (past : List World.Step) (keyed : Keyed w.secrets)
    (undisturbed : w.Undisturbed) (feasible : Feasible deadline plan w) :
    Carried r deadline plan w past (w.run (carryOut r plan)) := by
  obtain ⟨deleted, cared, created, deletion, care, creation, same⟩ := run_carryOut r plan w
  rw [same]
  obtain ⟨orphanKeys, managedKeys, -⟩ := feasible.nodup_listed
  obtain ⟨missingKeys, separate⟩ := feasible.nodup_missing
  have start : Going r.naming {} w past := ⟨keyed, undisturbed, fun _ _ kept => by cases kept⟩
  have first := (orphanPhase r.naming).pass orphanKeys start feasible.named
  rw [deletion] at first
  have second := (managedPhase r plain deadline).pass managedKeys first.going
    (feasible.paired_of_frame first.frame)
  rw [care] at second
  have third := (missingPhase r plain deadline).pass missingKeys second.going fun _ _ => trivial
  rw [creation] at third
  have assoc : past ++ (deleted.steps ++ (cared.steps ++ created.steps)) =
      past ++ deleted.steps ++ cared.steps ++ created.steps := by simp only [List.append_assoc]
  have counts : created.value.summary.failed = 0 →
      deleted.value.summary.failed = 0 ∧ cared.value.summary.failed = 0 := by
    intro none
    have one := second.failed_le
    have two := third.failed_le
    omega
  refine ⟨third.going.keyed, third.going.undisturbed, ?_, ?_, ?_, ?_, ?_⟩
  · rw [declaredKeys_eq, ← List.append_assoc]
    exact (first.frame.trans second.frame).trans third.frame
  · intro noFailure s member outside t held same
    obtain ⟨none, -⟩ := counts noFailure
    rw [declaredKeys_eq, List.mem_append, not_or, ← same] at outside
    refine first.done none s member t ?_ same
    exact (second.frame t outside.1).mp ((third.frame t outside.2).mp held)
  · intro noFailure m member
    obtain ⟨none, none'⟩ := counts noFailure
    have done := second.done (none'.trans none.symm) m member
    dsimp only
    rw [assoc]
    refine (managedPhase r plain deadline).done_frame ?_ third.frame done
    intro inside
    obtain ⟨d, absent, key⟩ := List.mem_map.mp inside
    exact separate m member d absent key.symm
  · intro noFailure d member
    obtain ⟨none, none'⟩ := counts noFailure
    have done := third.done (noFailure.trans none'.symm) d member
    rw [← assoc] at done
    exact done
  · obtain ⟨deletions, flat, silent⟩ := first.chunks
    obtain ⟨renewals, flat', tells⟩ := second.chunks
    obtain ⟨creations, flat'', tells'⟩ := third.chunks
    have all : List.Forall₂ (fun d chunk => Tells r.naming deadline d chunk
          (past ++ (deleted.steps ++ (cared.steps ++ created.steps))))
        (plan.managed.map Drift.Managed.declaration ++ plan.missing) (renewals ++ creations) := by
      rw [assoc]
      refine List.rel_append (List.forall₂_map_left_iff.mpr ?_) tells'
      exact tells.imp fun _ _ told => Tells.more told created.steps
    have quiet : ∀ step ∈ deleted.steps, Silent step := flat ▸ silent_flatten silent
    have told := Tells.flatten_after quiet all feasible.declared
    rw [List.flatten_append, ← flat', ← flat''] at told
    exact told

end RoleSecrets.Tick
