import RoleSecrets.Proofs.DriftPlan

/-! # A plan loses nothing and takes nothing twice

Whatever is declared and listed, twice or without names as it may be, every listed secret is either
managed or an orphan, and every counting declaration either has a managed secret or is missing. What
decides is the first secret that is listed with the key of a declaration: whether there is one, and
whether it records the declared owner.
-/

namespace RoleSecrets

/-- Whether a secret records the owner that a declaration names, if it names one. -/
def Declaration.OwnerIn (d : Declaration) (s : Secret) : Prop :=
  ∀ owner, d.owner = some owner → ∃ recorded ∈ s.metadata.owners.getD [],
    recorded.apiVersion = owner.apiVersion ∧ recorded.kind = owner.kind ∧
      recorded.uid = owner.uid ∧ recorded.name = owner.name

theorem Declaration.accepts_eq_true_iff {d : Declaration} {s : Secret} :
    d.accepts s = true ↔ d.OwnerIn s := by
  unfold accepts OwnerIn
  cases d.owner with
  | none => simp
  | some owner =>
    simp [Metadata.isOwnedBy, OwnerReference.agrees, and_assoc]

namespace Drift

/-- Of the secrets with a key, the one that is listed first. -/
def firstWith (secrets : List Secret) (key : ObjectKey) : Option Secret :=
  secrets.find? (·.key = key)

section FirstWith

variable {s t : Secret} {secrets : List Secret} {key : ObjectKey}

theorem firstWith_cons_self : firstWith (s :: secrets) s.key = some s :=
  List.find?_cons_of_pos (by simp)

theorem firstWith_cons_of_ne (differs : s.key ≠ key) :
    firstWith (s :: secrets) key = firstWith secrets key :=
  List.find?_cons_of_neg (by simpa using differs)

theorem firstWith_cons_eq_none_iff :
    firstWith (s :: secrets) key = none ↔ s.key ≠ key ∧ firstWith secrets key = none := by
  simp [firstWith]

end FirstWith

/-- Whether a secret that is listed after some others is to be managed for a declaration: it is one
of those in question and has the key of the secret, no secret before has this key, and the secret
records the declared owner. -/
structure Pairs (among : Declaration → Prop) (earlier : List Secret) (s : Secret)
    (d : Declaration) : Prop where
  candidate : among d
  key : d.key = s.key
  first : firstWith earlier s.key = none
  owned : d.OwnerIn s

/-- Whether a plan tells some orphans and some managed secrets in between those that it makes of
what is listed earlier and those that it makes of what is listed later. -/
def Plan.TellsBetween (plan : Plan) (earlier later orphans : List Secret)
    (managed : List Managed) : Prop :=
  ∃ before after : Plan,
    (before.orphans ++ before.managed.map Managed.secret).Perm earlier ∧
      (after.orphans ++ after.managed.map Managed.secret).Perm later ∧
      plan.orphans = before.orphans ++ orphans ++ after.orphans ∧
      plan.managed = before.managed ++ managed ++ after.managed

/-- Whether a plan manages the secret at one place of a listing for the declaration it is to be
managed for, and tells it as an orphan where there is none. -/
def Plan.Decides (deadline : Option Timestamp) (among : Declaration → Prop) (earlier : List Secret)
    (s : Secret) (later : List Secret) (plan : Plan) : Prop :=
  (∃ d, Pairs among earlier s d ∧
    plan.TellsBetween earlier later [] [⟨d, s, classify d s deadline⟩]) ∨
  (∀ d, ¬ Pairs among earlier s d) ∧ plan.TellsBetween earlier later [s] []

namespace Plan

variable {plan told : Plan} {earlier later orphans : List Secret} {managed : List Managed}

theorem TellsBetween.cons_orphan (tells : plan.TellsBetween earlier later orphans managed)
    (missing : List Declaration) (s : Secret) :
    TellsBetween ⟨s :: plan.orphans, plan.managed, missing⟩ (s :: earlier) later orphans
      managed := by
  obtain ⟨before, after, first, last, toldOrphans, toldManaged⟩ := tells
  refine ⟨⟨s :: before.orphans, before.managed, []⟩, after, first.cons s, last, ?_, toldManaged⟩
  rw [toldOrphans, List.cons_append, List.cons_append]

theorem TellsBetween.cons_managed (tells : plan.TellsBetween earlier later orphans managed)
    (missing : List Declaration) (m : Managed) :
    TellsBetween ⟨plan.orphans, m :: plan.managed, missing⟩ (m.secret :: earlier) later orphans
      managed := by
  obtain ⟨before, after, first, last, toldOrphans, toldManaged⟩ := tells
  refine ⟨⟨before.orphans, m :: before.managed, []⟩, after,
    List.perm_middle.trans (first.cons m.secret), last, toldOrphans, ?_⟩
  rw [toldManaged, List.cons_append, List.cons_append]

/-- What is decided at a place stays so with one more secret before it, which leaves the
declarations with other keys in question. -/
theorem Decides.cons {deadline : Option Timestamp} {among left : Declaration → Prop} {s t : Secret}
    (decides : plan.Decides deadline left earlier s later)
    (isLeft : ∀ d, left d ↔ among d ∧ d.key ≠ t.key)
    (tells : ∀ orphans managed, plan.TellsBetween earlier later orphans managed →
      told.TellsBetween (t :: earlier) later orphans managed) :
    told.Decides deadline among (t :: earlier) s later := by
  rcases decides with ⟨d, pairs, between⟩ | ⟨unpaired, between⟩
  · obtain ⟨candidate, differs⟩ := (isLeft d).mp pairs.candidate
    have first : firstWith (t :: earlier) s.key = none :=
      firstWith_cons_eq_none_iff.mpr ⟨pairs.key ▸ differs.symm, pairs.first⟩
    exact .inl ⟨d, ⟨candidate, pairs.key, first, pairs.owned⟩, tells _ _ between⟩
  · refine .inr ⟨fun d pairs => unpaired d ?_, tells _ _ between⟩
    obtain ⟨differs, first⟩ := firstWith_cons_eq_none_iff.mp pairs.first
    exact ⟨(isLeft d).mpr ⟨pairs.candidate, pairs.key ▸ differs.symm⟩, pairs.key, first,
      pairs.owned⟩

end Plan

/-- How a plan divides declarations and secrets. -/
structure Plan.Partitions (deadline : Option Timestamp) (declarations : List Declaration)
    (secrets : List Secret) (plan : Plan) : Prop where
  secrets_perm : (plan.orphans ++ plan.managed.map Managed.secret).Perm secrets
  orphans_sublist : plan.orphans.Sublist secrets
  managed_sublist : (plan.managed.map Managed.secret).Sublist secrets
  keys_nodup :
    ((plan.managed.map Managed.declaration ++ plan.missing).map Declaration.key).Nodup
  mem_keys : ∀ key,
    key ∈ (plan.managed.map Managed.declaration ++ plan.missing).map Declaration.key ↔
      key ∈ declarations.map Declaration.key
  counts : ∀ d ∈ plan.managed.map Managed.declaration ++ plan.missing, d.Counts declarations
  /-- A secret is managed for a declaration if it is the first one for it and records its owner. -/
  managed_iff : ∀ s d, (∃ m ∈ plan.managed, m.secret = s ∧ m.declaration = d) ↔
    d.Counts declarations ∧ firstWith secrets d.key = some s ∧ d.OwnerIn s
  matched : ∀ m ∈ plan.managed, m.drift = classify m.declaration m.secret deadline ∧
    (m.secret.IsNamed → m.declaration.matchesSecret m.secret = true)
  /-- The same of every place in the listing, which tells equal secrets apart. -/
  places : ∀ earlier s later, secrets = earlier ++ s :: later →
    plan.Decides deadline (·.Counts declarations) earlier s later
  /-- Missing are those whose first secret does not record the owner, in the order of these secrets,
  and then those that have none, in the order of the keys. -/
  missing : ∃ refused unlisted, plan.missing = refused ++ unlisted ∧
    (∀ d, d ∈ refused ↔
      d.Counts declarations ∧ ∃ s, firstWith secrets d.key = some s ∧ ¬ d.OwnerIn s) ∧
    (refused.Pairwise fun d e =>
      secrets.findIdx (·.key = d.key) < secrets.findIdx (·.key = e.key)) ∧
    (∀ d, d ∈ unlisted ↔ d.Counts declarations ∧ firstWith secrets d.key = none) ∧ Sorted unlisted
  /-- Where no two secrets have one key, an orphan is one that no declaration is to have, and
  missing is what is to have no secret. -/
  distinct : (secrets.map Secret.key).Nodup →
    (∀ s ∈ secrets, s ∈ plan.orphans ↔
      ∀ d : Declaration, d.Counts declarations → d.key = s.key → ¬ d.OwnerIn s) ∧
    (∀ d, d.Counts declarations →
      (d ∈ plan.missing ↔ ∀ s ∈ secrets, s.key = d.key → ¬ d.OwnerIn s))

section Plan

variable (deadline : Option Timestamp) {pending : List Declaration}
  (declared : (pending.map Declaration.key).Nodup)

/-- The declaration that is found for a key is the only pending one with it. -/
theorem found_iff (declared : (pending.map Declaration.key).Nodup) {e : Declaration}
    {key : ObjectKey} (found : pending.find? (·.key = key) = some e) (d : Declaration) :
    d = e ↔ d ∈ pending ∧ d.key = key := by
  have member : e ∈ pending := List.mem_of_find?_eq_some found
  have key : e.key = key := by simpa using List.find?_some found
  constructor
  · rintro rfl
    exact ⟨member, key⟩
  · rintro ⟨other, same⟩
    exact List.inj_on_of_nodup_map declared other member (same.trans key.symm)

/-- Where none is found for a key, no pending declaration has it. -/
theorem key_ne_of_unknown {key : ObjectKey} (unknown : pending.find? (·.key = key) = none)
    {d : Declaration} (member : d ∈ pending) : d.key ≠ key := by
  simpa using List.find?_eq_none.mp unknown d member

theorem mem_left_iff {key : ObjectKey} {d : Declaration} :
    d ∈ pending.filter (·.key ≠ key) ↔ d ∈ pending ∧ d.key ≠ key := by
  simp

include declared

/-- Managed are the pending declarations with their first secrets, where they accept these. -/
theorem managed_plan_iff (secrets : List Secret) (s : Secret) (d : Declaration) :
    (∃ m ∈ (plan deadline pending secrets).managed, m.secret = s ∧ m.declaration = d) ↔
      d ∈ pending ∧ firstWith secrets d.key = some s ∧ d.accepts s = true := by
  induction secrets generalizing pending with
  | nil => simp [plan, firstWith]
  | cons t rest ih =>
    rw [plan]
    split
    · rename_i unknown
      rw [ih declared]
      refine and_congr_right fun member => ?_
      rw [firstWith_cons_of_ne (key_ne_of_unknown unknown member).symm]
    · rename_i e found
      have later := ih (nodup_pending declared t.key)
      rw [mem_left_iff] at later
      have this := found_iff declared found d
      by_cases same : d.key = t.key
      · -- the declaration is the one whose first secret comes here
        have notLater : ¬ ∃ m ∈ (plan deadline (pending.filter (·.key ≠ t.key)) rest).managed,
            m.secret = s ∧ m.declaration = d := fun m => (later.mp m).1.2 same
        rw [same, firstWith_cons_self, Option.some_inj]
        by_cases accepted : e.accepts t = true
        · rw [if_pos accepted]
          simp only [List.mem_cons, exists_eq_or_imp, notLater, or_false]
          constructor
          · rintro ⟨rfl, rfl⟩
            exact ⟨(this.mp rfl).1, rfl, accepted⟩
          · rintro ⟨member, rfl, -⟩
            exact ⟨rfl, (this.mpr ⟨member, same⟩).symm⟩
        · rw [if_neg accepted]
          refine iff_of_false notLater ?_
          rintro ⟨member, rfl, accepts⟩
          rw [this.mpr ⟨member, same⟩] at accepts
          exact accepted accepts
      · rw [firstWith_cons_of_ne (Ne.symm same)]
        simp only [ne_eq, same, not_false_eq_true, and_true] at later
        rw [← later]
        by_cases accepted : e.accepts t = true
        · rw [if_pos accepted]
          simp only [List.mem_cons, exists_eq_or_imp]
          refine or_iff_right ?_
          rintro ⟨-, rfl⟩
          exact same (this.mp rfl).2
        · rw [if_neg accepted]

theorem decides_plan (earlier : List Secret) (s : Secret) (later : List Secret) :
    (plan deadline pending (earlier ++ s :: later)).Decides deadline (· ∈ pending) earlier s
      later := by
  induction earlier generalizing pending with
  | nil =>
    rw [List.nil_append, plan]
    split
    · rename_i unknown
      refine .inr ⟨fun d pairs => ?_, {}, plan deadline pending later, .refl _,
        (splits_plan deadline later declared).secrets_perm, rfl, rfl⟩
      exact key_ne_of_unknown unknown pairs.candidate pairs.key
    · rename_i e found
      have rest := splits_plan deadline later (nodup_pending declared s.key)
      by_cases accepted : e.accepts s = true
      · rw [if_pos accepted]
        obtain ⟨member, key⟩ := (found_iff declared found e).mp rfl
        exact .inl ⟨e, ⟨member, key, rfl, Declaration.accepts_eq_true_iff.mp accepted⟩,
          {}, _, .refl _, rest.secrets_perm, rfl, rfl⟩
      · rw [if_neg accepted]
        refine .inr ⟨fun d pairs => accepted ?_, {}, _, .refl _, rest.secrets_perm, rfl, rfl⟩
        rw [← (found_iff declared found d).mpr ⟨pairs.candidate, pairs.key⟩]
        exact Declaration.accepts_eq_true_iff.mpr pairs.owned
  | cons t earlier ih =>
    rw [List.cons_append, plan]
    split
    · rename_i unknown
      refine (ih declared).cons (fun d => ?_) fun _ _ tells => tells.cons_orphan _ t
      exact (and_iff_left_of_imp (key_ne_of_unknown unknown)).symm
    · rename_i e found
      refine (ih (nodup_pending declared t.key)).cons (fun d => mem_left_iff) fun _ _ tells => ?_
      split
      · exact tells.cons_managed _ ⟨e, t, _⟩
      · exact tells.cons_orphan _ t

/-- Missing are first the pending declarations that do not accept their first secrets, and then
those without any. -/
theorem missing_plan (secrets : List Secret) :
    ∃ refused, (plan deadline pending secrets).missing =
        refused ++ pending.filter (fun d => (firstWith secrets d.key).isNone) ∧
      (∀ d, d ∈ refused ↔
        d ∈ pending ∧ ∃ s, firstWith secrets d.key = some s ∧ d.accepts s = false) ∧
      refused.Pairwise fun d e =>
        secrets.findIdx (·.key = d.key) < secrets.findIdx (·.key = e.key) := by
  induction secrets generalizing pending with
  | nil => exact ⟨[], by simp [plan, firstWith], by simp [firstWith], List.Pairwise.nil⟩
  | cons s rest ih =>
    obtain ⟨refused, missing, isRefused, order⟩ := ih (nodup_pending declared s.key)
    have later : ∀ d ∈ refused, s.key ≠ d.key := fun d member =>
      (mem_left_iff.mp ((isRefused d).mp member).1).2.symm
    have refusedLater : ∀ d, d ∈ refused ↔ d.key ≠ s.key ∧
        d ∈ pending ∧ ∃ t, firstWith (s :: rest) d.key = some t ∧ d.accepts t = false := by
      intro d
      rw [isRefused, mem_left_iff, and_assoc, and_left_comm]
      refine and_congr_right fun differs => ?_
      rw [firstWith_cons_of_ne differs.symm]
    have unlisted : (pending.filter (·.key ≠ s.key)).filter
        (fun d => (firstWith rest d.key).isNone) =
          pending.filter (fun d => (firstWith (s :: rest) d.key).isNone) := by
      rw [List.filter_filter]
      refine List.filter_congr fun d _ => ?_
      rw [Bool.eq_iff_iff, Bool.and_eq_true, Option.isNone_iff_eq_none, Option.isNone_iff_eq_none,
        decide_eq_true_eq, firstWith_cons_eq_none_iff, and_comm, ne_comm]
    have shifted : refused.Pairwise fun d e =>
        (s :: rest).findIdx (·.key = d.key) < (s :: rest).findIdx (·.key = e.key) := by
      refine order.imp_of_mem fun {d e} first second less => ?_
      simpa [List.findIdx_cons, later d first, later e second] using less
    rw [unlisted] at missing
    rw [plan]
    split
    · rename_i unknown
      have all : ∀ d ∈ pending, d.key ≠ s.key := fun d => key_ne_of_unknown unknown
      rw [List.filter_eq_self.mpr (by simpa using all)] at missing
      refine ⟨refused, missing, fun d => ?_, shifted⟩
      rw [refusedLater]
      exact and_iff_right_of_imp fun member => all d member.1
    · rename_i e found
      have this := found_iff declared found
      split
      · rename_i accepted
        refine ⟨refused, missing, fun d => ?_, shifted⟩
        rw [refusedLater]
        refine and_iff_right_of_imp ?_
        rintro ⟨member, t, first, refuses⟩ same
        rw [same, firstWith_cons_self, Option.some_inj] at first
        rw [(this d).mpr ⟨member, same⟩, ← first, accepted] at refuses
        cases refuses
      · rename_i accepted
        refine ⟨e :: refused, congrArg (e :: ·) missing, fun d => ?_,
          List.pairwise_cons.mpr ⟨?_, shifted⟩⟩
        · rw [List.mem_cons, refusedLater, this d]
          constructor
          · rintro (⟨member, same⟩ | ⟨-, refused⟩)
            · refine ⟨member, s, by rw [same, firstWith_cons_self], ?_⟩
              rw [(this d).mpr ⟨member, same⟩]
              exact Bool.eq_false_iff.mpr accepted
            · exact refused
          · rintro refused
            by_cases same : d.key = s.key
            · exact .inl ⟨refused.1, same⟩
            · exact .inr ⟨same, refused⟩
        · intro d member
          have first : s.key = e.key := ((this e).mp rfl).2.symm
          simp [List.findIdx_cons, first, first ▸ later d member]

end Plan

/-- A key is declared if and only if some declaration with it counts. -/
theorem mem_keys_counting {declarations : List Declaration} {key : ObjectKey} :
    key ∈ (counting declarations).map Declaration.key ↔ key ∈ declarations.map Declaration.key := by
  constructor
  · rintro counts
    obtain ⟨d, member, rfl⟩ := List.mem_map.mp counts
    exact List.mem_map_of_mem (mem_of_mem_counting member)
  · intro declared
    induction declarations using List.reverseRecOn with
    | nil => cases declared
    | append_singleton earlier last ih =>
      rw [List.mem_map]
      simp only [counting_concat, mem_insert (sorted_counting earlier)]
      by_cases same : last.key = key
      · exact ⟨last, .inl rfl, same⟩
      · have before : key ∈ earlier.map Declaration.key := by
          simpa [Ne.symm same] using declared
        obtain ⟨d, member, rfl⟩ := List.mem_map.mp (ih before)
        exact ⟨d, .inr ⟨member, Ne.symm same⟩, rfl⟩

/-- Orphans and missing declarations where no two secrets have one key. -/
theorem Plan.Fits.distinct {deadline : Option Timestamp} {pending : List Declaration}
    {secrets : List Secret} {plan : Plan} (fits : plan.Fits deadline pending secrets)
    (declared : (pending.map Declaration.key).Nodup) :
    (∀ s ∈ secrets, s ∈ plan.orphans ↔ ∀ d ∈ pending, d.key = s.key → d.accepts s = false) ∧
      ∀ d ∈ pending, d ∈ plan.missing ↔ ∀ s ∈ secrets, s.key = d.key → d.accepts s = false := by
  have inPending : ∀ m ∈ plan.managed, m.declaration ∈ pending := fun m member =>
    fits.declarations_perm.subset (List.mem_append_left _ (List.mem_map_of_mem member))
  have inSecrets : ∀ m ∈ plan.managed, m.secret ∈ secrets := fun m member =>
    fits.secrets_perm.subset (List.mem_append_right _ (List.mem_map_of_mem member))
  constructor
  · refine fun s listed => ⟨fits.orphaned s, fun refused => ?_⟩
    rcases List.mem_append.mp (fits.secrets_perm.symm.subset listed) with orphan | managed
    · exact orphan
    · obtain ⟨m, member, rfl⟩ := List.mem_map.mp managed
      obtain ⟨key, accepted, -⟩ := fits.paired m member
      rw [refused m.declaration (inPending m member) key] at accepted
      cases accepted
  · refine fun d pendingMember => ⟨fun missing s listed same =>
      fits.refused_of_missing declared missing s listed same.symm, fun refused => ?_⟩
    rcases List.mem_append.mp (fits.declarations_perm.symm.subset pendingMember) with
      managed | missing
    · obtain ⟨m, member, rfl⟩ := List.mem_map.mp managed
      obtain ⟨key, accepted, -⟩ := fits.paired m member
      rw [refused m.secret (inSecrets m member) key.symm] at accepted
      cases accepted
    · exact missing

/-- Whatever is declared and listed, a plan divides it. -/
theorem detect_partitions (declarations : List Declaration) (secrets : List Secret)
    (refreshLimit : Nat) (now : Timestamp) :
    (detect declarations secrets refreshLimit now).Partitions (now.add? refreshLimit) declarations
      secrets := by
  have declared := nodup_keys_counting declarations
  have splits := splits_plan (now.add? refreshLimit) secrets declared
  have inOrder := sublist_plan (now.add? refreshLimit) (counting declarations) secrets
  have keys := splits.declarations_perm.map Declaration.key
  have refuses : ∀ (d : Declaration) s, d.accepts s = false ↔ ¬ d.OwnerIn s := fun d s => by
    rw [← Declaration.accepts_eq_true_iff, Bool.not_eq_true]
  exact {
    secrets_perm := splits.secrets_perm
    orphans_sublist := inOrder.1
    managed_sublist := inOrder.2
    keys_nodup := keys.nodup_iff.mpr declared
    mem_keys := fun key => keys.mem_iff.trans mem_keys_counting
    counts := fun d member => mem_counting_iff.mp (splits.declarations_perm.subset member)
    managed_iff := fun s d => by
      rw [← mem_counting_iff, ← Declaration.accepts_eq_true_iff]
      exact managed_plan_iff _ declared secrets s d
    matched := fun m member => by
      obtain ⟨key, -, drift⟩ := splits.paired m member
      exact ⟨drift, fun named => Declaration.matchesSecret_of_key named key⟩
    places := by
      rintro earlier s later rfl
      have decides := decides_plan (now.add? refreshLimit) declared earlier s later
      simp only [mem_counting_iff] at decides
      exact decides
    missing := by
      obtain ⟨refused, missing, isRefused, order⟩ :=
        missing_plan (now.add? refreshLimit) declared secrets
      refine ⟨refused, _, missing, fun d => ?_, order, fun d => ?_, ?_⟩
      · simp only [isRefused, mem_counting_iff, refuses]
      · rw [List.mem_filter, mem_counting_iff, Option.isNone_iff_eq_none]
      · exact (sorted_counting declarations).sublist List.filter_sublist
    distinct := fun listed => by
      have fits := fits_detect declarations refreshLimit now listed
      simpa only [mem_counting_iff, refuses] using fits.distinct declared }

/-- The second secret of a declaration records its owner, but the first decides. -/
example :
    let owner : OwnerReference :=
      { apiVersion := "v1", kind := "Role", name := "reader", uid := "id" }
    let reader : Metadata := { name := some "reader", ns := some "apps" }
    let plan := detect
      [{ ns := "apps", secretName := "writer", role := "writer", duration := 900 },
        { ns := "apps", secretName := "reader", role := "reader", duration := 900, owner }]
      [{ metadata := reader }, { metadata := { reader with owners := some [owner] } }] 60 .epoch
    plan.orphans.map (·.metadata.owners) = [none, some [owner]] ∧ plan.managed.length = 0 ∧
      plan.missing.map (·.secretName) = ["reader", "writer"] := by
  decide

end Drift

end RoleSecrets
