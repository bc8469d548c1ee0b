import RoleSecrets.Proofs.Confinement
import RoleSecrets.Proofs.FirstListing
import RoleSecrets.Proofs.Vaults
import RoleSecrets.Race

/-! # Reconcilers that race

The ticks of several reconcilers share one cluster, and each goes by what it listed at its start.
Updates are safe, as a secret is replaced only in the version that was listed. Deletions go by the
key alone, so one can hit a secret that another reconciler has written in the meantime.
-/

namespace RoleSecrets

open Tick

namespace Reconciler

/-- What may be asked before the last deletion, with the secrets that were listed. -/
def Early (r : Reconciler) (listed : List Secret) : Query → Prop
  | .deleteSecret key => ∃ s ∈ listed, r.source.manages s = true ∧ s.key = key
  | .listSecrets _ | .createSecret _ | .updateSecret _ => False
  | _ => True

/-- What may be asked after the last deletion. -/
def Late (r : Reconciler) (listed : List Secret) : Query → Prop
  | .updateSecret t => ∃ s ∈ listed, r.source.manages s = true ∧ s.key = t.key ∧
      s.metadata.resourceVersion = t.metadata.resourceVersion
  | .listSecrets _ | .deleteSecret _ => False
  | _ => True

/-- What a tick does once it has listed the secrets. -/
def afterListing (r : Reconciler) (now : Timestamp) :
    Except StoreError (List Secret) → Controller (Except TickError Summary)
  | .error e => pure (.error (.secrets e))
  | .ok listed => do
      match ← r.source.declarations with
      | .error e => pure (.error (.declarations e))
      | .ok declarations => do
          let summary ← carryOut r
            (Drift.detect declarations (listed.filter r.source.manages) r.refreshLimit now)
          pure (.ok summary)

theorem tick_eq_ask (r : Reconciler) (now : Timestamp) :
    r.tick now = .ask (.listSecrets r.source.selector) (r.afterListing now) := by
  refine congrArg (Program.ask _) (funext fun listing => ?_)
  cases listing <;> rfl

variable {r : Reconciler}

theorem early_of_isLookup {question : Query} (lookup : question.isLookup = true)
    (listed : List Secret) : r.Early listed question := by
  cases question <;> trivial

theorem not_may_list {item : Item} {selector : Selector} :
    ¬ item.May r (.listSecrets selector) := by
  rintro (_ | _ | _)
  · rename_i news
    exact news.choose_spec
  · rename_i obtains
    exact obtains

/-- For the orphans of a plan, only secrets that were listed are deleted. -/
theorem early_of_may {now : Timestamp} {declarations : List Declaration} {listed : List Secret}
    {question : Query} {item : Item}
    (orphan : item ∈ (Drift.detect declarations (listed.filter r.source.manages) r.refreshLimit
      now).orphans.map Item.orphan) (may : item.May r question) : r.Early listed question := by
  obtain ⟨s, planned, rfl⟩ := List.mem_map.mp orphan
  cases question with
  | listSecrets selector => exact not_may_list may
  | createSecret t =>
    obtain ⟨d, c, same, -⟩ := may.of_create
    cases same
  | updateSecret t =>
    obtain ⟨m, c, same, -⟩ := may.of_update
    cases same
  | deleteSecret key =>
    obtain ⟨t, same, -, key⟩ := may.of_delete
    cases same
    obtain ⟨held, manages⟩ := List.mem_filter.mp
      ((Drift.sublist_plan _ _ _).1.subset planned)
    exact ⟨s, held, manages, key⟩
  | _ => trivial

/-- For all other items, only secrets that were listed are updated, in their version. -/
theorem late_of_may {now : Timestamp} {declarations : List Declaration} {listed : List Secret}
    {question : Query} {item : Item}
    (other : item ∈ (Drift.detect declarations (listed.filter r.source.manages) r.refreshLimit
        now).managed.map Item.managed ++
      (Drift.detect declarations (listed.filter r.source.manages) r.refreshLimit
        now).missing.map Item.missing) (may : item.May r question) : r.Late listed question := by
  cases question with
  | listSecrets selector => exact not_may_list may
  | updateSecret t =>
    obtain ⟨m, c, rfl, rfl⟩ := may.of_update
    have planned : m ∈ (Drift.detect declarations (listed.filter r.source.manages)
        r.refreshLimit now).managed := by simpa using other
    obtain ⟨held, manages⟩ := List.mem_filter.mp
      ((Drift.sublist_plan _ _ _).2.subset (List.mem_map_of_mem planned))
    exact ⟨m.secret, held, manages, rfl, rfl⟩
  | deleteSecret key =>
    obtain ⟨s, rfl, -⟩ := may.of_delete
    simp at other
  | _ => trivial

/-- Once it has listed the secrets, a tick deletes first and then updates and creates. -/
theorem asksThen_afterListing (plain : r.source.Plain) (now : Timestamp) (listed : List Secret) :
    (r.afterListing now (.ok listed)).AsksThen (r.Early listed) (r.Late listed) := by
  refine (plain.declarations.mono fun _ lookup =>
    early_of_isLookup lookup listed).then_bind fun answer => ?_
  cases answer with
  | error e => trivial
  | ok declarations =>
    have split : items (Drift.detect declarations (listed.filter r.source.manages)
        r.refreshLimit now) = _ := List.append_assoc ..
    dsimp only
    rw [carryOut_eq, split, List.foldlM_append, bind_assoc, bind_assoc]
    refine Program.Asks.then_bind ((asks_loop plain _ _).mono ?_) fun p => ?_
    · rintro question ⟨item, orphan, may⟩
      exact early_of_may orphan may
    · refine Program.Asks.asksThen ?_
      refine Program.Asks.bind ((asks_loop plain _ _).mono ?_) fun p => .pure _
      rintro question ⟨item, other, may⟩
      exact late_of_may other may

section Race

variable {ι : Type} {turn other : ι} {past since : List (ι × Cluster.Step)} {c : Cluster}
  {listed : List Secret} {now : Timestamp} {question : Query}

/-- Whether a secret was brought by others after one had listed the secrets for its tick. -/
def BroughtMeanwhile (r : Reconciler) (turn : ι) (past : List (ι × Cluster.Step)) (s : Secret) :
    Prop :=
  ∃ before listing since, past = before ++ (turn, listing) :: since ∧
    listing.question = .listSecrets r.source.selector ∧
    ∃ entry ∈ since, entry.1 ≠ turn ∧ entry.2.Brings s

/-- Whether a step takes away only what is owned by the source whose turn it is. All it may hit
beside is a secret that it deletes by its key, brought by others after the listing. -/
def Rightful (r : Reconciler) (turn : ι) (past : List (ι × Cluster.Step)) (step : Cluster.Step) :
    Prop :=
  ∀ s, step.Takes s → r.source.owns s = true ∨
    step.question = .deleteSecret s.key ∧ r.BroughtMeanwhile turn past s

/-- Which secrets were listed for a tick, and what has been done since. -/
structure HasListed (r : Reconciler) (turn : ι) (past : List (ι × Cluster.Step)) (c : Cluster)
    (listed : List Secret) (since : List (ι × Cluster.Step)) (start : Cluster) : Prop where
  split : ∃ before, past = before ++ (turn, ⟨start, .listSecrets r.source.selector, .ok listed⟩) :: since
  selected : ∀ s ∈ listed, s ∈ start.vault.secrets ∧ r.source.selector.selects s = true
  grown : start.vault.Grown c.vault since

/-- How far the tick of a reconciler has got in a race. -/
inductive Standing (r : Reconciler) (now : Timestamp) (turn : ι)
    (past : List (ι × Cluster.Step)) (c : Cluster) (task : Controller (Except TickError Summary)) :
    Prop
  | fresh (start : task = r.tick now)
  | early {listed : List Secret} {since : List (ι × Cluster.Step)} {start : Cluster}
      (has : r.HasListed turn past c listed since start)
      (own : ∀ entry ∈ since, entry.1 = turn → ∀ s, ¬ entry.2.Brings s)
      (asks : task.AsksThen (r.Early listed) (r.Late listed))
  | late {listed : List Secret} {since : List (ι × Cluster.Step)} {start : Cluster}
      (has : r.HasListed turn past c listed since start) (asks : task.Asks (r.Late listed))
  | ended (asks : task.Asks fun _ => False)

theorem HasListed.step {start : Cluster} (has : r.HasListed turn past c listed since start)
    (other : ι) (question : Query) :
    r.HasListed turn (past ++ [(other, ⟨c, question, (Cluster.serve question c).1⟩)])
      (Cluster.serve question c).2 listed
      (since ++ [(other, ⟨c, question, (Cluster.serve question c).1⟩)]) start := by
  obtain ⟨before, split⟩ := has.split
  exact ⟨⟨before, by rw [split, List.append_assoc, List.cons_append]⟩, has.selected,
    has.grown.step other question⟩

/-- What others do leaves a tick where it is. -/
theorem Standing.step_other {task : Controller (Except TickError Summary)}
    (standing : r.Standing now turn past c task) (apart : other ≠ turn) (question : Query) :
    r.Standing now turn (past ++ [(other, ⟨c, question, (Cluster.serve question c).1⟩)])
      (Cluster.serve question c).2 task := by
  cases standing with
  | fresh start => exact .fresh start
  | early has own asks =>
    refine .early (has.step other question) (fun entry member mine => ?_) asks
    rcases List.mem_append.mp member with before | last
    · exact own entry before mine
    · rw [List.mem_singleton.mp last] at mine
      exact absurd mine apart
  | late has asks => exact .late (has.step other question) asks
  | ended asks => exact .ended asks

/-- A secret that was listed is still the same where its key and version are. -/
theorem HasListed.owns {start : Cluster} (has : r.HasListed turn past c listed since start)
    {s t : Secret} (member : s ∈ listed) (manages : r.source.manages s = true)
    (held : t ∈ c.vault.secrets) (key : s.key = t.key)
    (same : s.metadata.resourceVersion = t.metadata.resourceVersion) : r.source.owns t = true := by
  obtain ⟨first, selects⟩ := has.selected s member
  obtain rfl := has.grown.eq_of_version first held key same
  rw [Source.owns, selects, manages]
  rfl

/-- An update only replaces what was listed. -/
theorem HasListed.rightful_late {start : Cluster}
    (has : r.HasListed turn past c listed since start) (may : r.Late listed question) :
    r.Rightful turn past ⟨c, question, (Cluster.serve question c).1⟩ := by
  rintro s ⟨held, gone⟩
  rcases (Cluster.changes_serve question c).taken held gone with ⟨t, rfl, key, latest⟩ | rfl
  · obtain ⟨u, member, manages, sameKey, sameVersion⟩ := may
    obtain ⟨version, -, stamped⟩ := start.vault.versioned u (has.selected u member).1
    have same : u.metadata.resourceVersion = s.metadata.resourceVersion := by
      rcases latest with unset | latest
      · rw [← sameVersion, stamped] at unset
        cases unset
      · exact sameVersion.trans latest
    exact .inl (has.owns member manages held (sameKey.trans key.symm) same)
  · cases may

/-- A deletion takes away what was listed, or what others have brought since. -/
theorem HasListed.rightful_early {start : Cluster}
    (has : r.HasListed turn past c listed since start)
    (own : ∀ entry ∈ since, entry.1 = turn → ∀ s, ¬ entry.2.Brings s)
    (may : r.Early listed question) :
    r.Rightful turn past ⟨c, question, (Cluster.serve question c).1⟩ := by
  rintro s ⟨held, gone⟩
  rcases (Cluster.changes_serve question c).taken held gone with ⟨t, rfl, -⟩ | rfl
  · cases may
  · obtain ⟨u, member, manages, key⟩ := may
    obtain ⟨first, selects⟩ := has.selected u member
    rcases has.grown.origin s held with before | ⟨⟨entry, inside, brings⟩, -⟩
    · obtain rfl := start.vault.keyed.eq_of_key first before key
      exact .inl (by rw [Source.owns, selects, manages]; rfl)
    · obtain ⟨before, split⟩ := has.split
      exact .inr ⟨rfl, before, _, since, split, rfl, entry, inside,
        fun mine => own entry inside mine s brings, brings⟩

/-- A question before the last deletion brings nothing. -/
theorem not_brings_of_early (may : r.Early listed question) (s : Secret) :
    ¬ Cluster.Step.Brings ⟨c, question, (Cluster.serve question c).1⟩ s := by
  rintro ⟨new, held⟩
  obtain ⟨⟨t, rfl | rfl⟩, -⟩ := (Cluster.changes_serve question c).brought held new <;> cases may

/-- In its turn a tick takes away only what it may, and gets further. -/
theorem Standing.step (plain : r.source.Plain)
    {next : Reply question → Controller (Except TickError Summary)}
    (standing : r.Standing now turn past c (.ask question next)) :
    r.Rightful turn past ⟨c, question, (Cluster.serve question c).1⟩ ∧
      r.Standing now turn (past ++ [(turn, ⟨c, question, (Cluster.serve question c).1⟩)])
        (Cluster.serve question c).2 (next (Cluster.serve question c).1) := by
  cases standing with
  | fresh start =>
    rw [tick_eq_ask] at start
    cases start
    have kept := c.state_listSecrets r.source.selector
    constructor
    · rintro s ⟨held, gone⟩
      rw [kept] at gone
      exact absurd held gone
    rw [kept]
    cases answer : (Cluster.serve (.listSecrets r.source.selector) c).1 with
    | error e => exact .ended (.pure _)
    | ok listed =>
      have has : r.HasListed turn (past ++ [(turn, ⟨c, .listSecrets r.source.selector, .ok listed⟩)])
          c listed [] c := ⟨⟨past, rfl⟩, Cluster.mem_of_listed answer, .refl _⟩
      refine .early has ?_ (asksThen_afterListing plain now listed)
      exact fun entry member => absurd member List.not_mem_nil
  | early has own asks =>
    rcases asks with ⟨may, asks⟩ | asks
    · refine ⟨has.rightful_early own may, .early (has.step turn question) ?_ (asks _)⟩
      intro entry member mine
      rcases List.mem_append.mp member with before | last
      · exact own entry before mine
      · rw [List.mem_singleton.mp last]
        exact not_brings_of_early may
    · exact ⟨has.rightful_late asks.1, .late (has.step turn question) (asks.2 _)⟩
  | late has asks => exact ⟨has.rightful_late asks.1, .late (has.step turn question) (asks.2 _)⟩
  | ended asks => exact absurd asks.1 id

/-- Whoever has the turns, everyone takes away only what it may. -/
theorem rightful_race [DecidableEq ι] {r : ι → Reconciler} (plain : ∀ turn, (r turn).source.Plain)
    {now : ι → Timestamp} (schedule : List ι) {tasks : ι → Controller (Except TickError Summary)}
    (past : List (ι × Cluster.Step)) {c : Cluster}
    (standing : ∀ turn, (r turn).Standing (now turn) turn past c (tasks turn)) :
    ∀ before turn step after,
      Program.race Cluster.serve tasks c schedule = before ++ (turn, step) :: after →
      (r turn).Rightful turn (past ++ before) step := by
  induction schedule generalizing tasks past c with
  | nil =>
    intro before turn step after split
    cases before <;> cases split
  | cons first later ih =>
    intro before turn step after split
    cases task : tasks first with
    | done value =>
      rw [Program.race_of_done _ _ _ task] at split
      exact ih past standing before turn step after split
    | ask question next =>
      rw [Program.race_of_ask _ _ _ task] at split
      obtain ⟨rightful, further⟩ := (task ▸ standing first).step (plain first)
      rcases List.cons_eq_append_iff.mp split with ⟨rfl, same⟩ | ⟨rest, rfl, tail⟩
      · obtain ⟨same, -⟩ := List.cons.inj same
        cases same
        rwa [List.append_nil]
      · have all : ∀ other, (r other).Standing (now other) other
            (past ++ [(first, ⟨c, question, (Cluster.serve question c).1⟩)])
            (Cluster.serve question c).2
            (Function.update tasks first (next (Cluster.serve question c).1) other) := by
          intro other
          by_cases same : other = first
          · subst same
            rw [Function.update_self]
            exact further
          · rw [Function.update_of_ne same]
            exact (standing other).step_other (Ne.symm same) question
        have rightful := ih _ all rest turn step after tail
        rwa [List.append_assoc] at rightful

end Race

/-- However the ticks of some reconcilers take their turns, each step takes away only a secret that
the source of its reconciler owns at that moment, but for one case: a deletion can hit a secret that
others have created or updated after the tick had listed the secrets. -/
theorem race_is_rightful {ι : Type} [DecidableEq ι] (r : ι → Reconciler)
    (plain : ∀ turn, (r turn).source.Plain) (now : ι → Timestamp) (c : Cluster) (schedule : List ι) :
    ∀ before turn step after,
      Program.race Cluster.serve (fun turn => (r turn).tick (now turn)) c schedule =
        before ++ (turn, step) :: after →
      (r turn).Rightful turn before step :=
  rightful_race plain schedule [] fun _ => .fresh rfl

end Reconciler

section Sample

/-- The two reconcilers of a controller. -/
inductive Side
  | pods
  | roles
deriving DecidableEq

def Side.reconciler : Side → Reconciler
  | pods => .podSample
  | roles => .resourceSample

/-- A cluster in which nobody owns the secret that a resource declares, and no pod uses a role. -/
def Cluster.sample : Cluster where
  vault := {
    secrets := [{ metadata := {
      name := some "reader"
      ns := some "apps"
      labels := some [RoleResource.heritage, RoleResource.secretType]
      resourceVersion := some (versionText 1) } }]
    next := 2
    keyed := ⟨by decide, by decide⟩
    versioned := by
      intro s member
      obtain rfl := List.mem_singleton.mp member
      exact ⟨1, by decide, rfl⟩ }
  scope := none
  world := { World.resourceSample with registry := { synced := true } }

/-- Both sides list the secret. The one replaces it by one with an owner, and the other deletes
that. -/
private def overtaken : List Side :=
  List.replicate 3 .pods ++ List.replicate 6 .roles ++ [.pods]

/-- Whether a step of the pods' side takes away a secret with an owner. -/
private def hitsOwned (entry : Side × Cluster.Step) : Bool :=
  entry.1 = .pods && entry.2.before.vault.secrets.any fun s => s.metadata.hasOwner &&
    (Cluster.serve entry.2.question entry.2.before).2.vault.secrets.all fun t => t.key ≠ s.key

/-- The pods' side deletes a secret that has an owner, as it was created after the listing. -/
theorem Reconciler.race_is_rightful_sample :
    ∃ before step s,
      Program.race Cluster.serve (fun side => (Side.reconciler side).tick .epoch) .sample overtaken =
        before ++ [(.pods, step)] ∧
      step.Takes s ∧ s.metadata.hasOwner = true ∧ podSample.BroughtMeanwhile Side.pods before s := by
  have hit : (Program.race Cluster.serve (fun side => (Side.reconciler side).tick .epoch) .sample
      overtaken).getLast?.any hitsOwned = true := by decide +kernel
  obtain ⟨⟨side, step⟩, last, hits⟩ := (Option.any_eq_true _ _).mp hit
  obtain ⟨before, split⟩ := List.getLast?_eq_some_iff.mp last
  simp only [hitsOwned, Bool.and_eq_true, decide_eq_true_eq, List.any_eq_true] at hits
  obtain ⟨rfl, s, held, owned, gone⟩ := hits
  have takes : step.Takes s :=
    ⟨held, fun still => by simpa using List.all_eq_true.mp gone s still⟩
  refine ⟨before, step, s, split, takes, owned, ?_⟩
  have plain : ∀ side : Side, side.reconciler.source.Plain := by
    rintro (_ | _)
    · exact Source.plain_ofPods
    · exact Source.plain_ofResources none
  rcases Reconciler.race_is_rightful Side.reconciler plain (fun _ => .epoch) .sample overtaken
    before .pods step [] split s takes with owns | ⟨-, meanwhile⟩
  · have unowned : (!s.metadata.hasOwner) = true := (Bool.and_eq_true_iff.mp owns).2
    rw [owned] at unowned
    cases unowned
  · exact meanwhile

end Sample

end RoleSecrets
