import RoleSecrets.Proofs.Consumers
import RoleSecrets.Proofs.Cutting
import RoleSecrets.Proofs.FirstListing

/-! # The registry and the pods that are alive

What is observed of the pods says which of them are alive: a listing that comes to its end tells all
of them, and after that they come and go one by one. Whatever is observed, in listings that are cut
short too, the registry then holds the uses of roles by the pods that are alive, and what the source
of pods declares is read off these pods.
-/

namespace RoleSecrets

namespace Pod

def key (pod : Pod) : Option String × Option String := (pod.metadata.ns, pod.metadata.name)

def IsNamed (pod : Pod) : Prop := pod.metadata.ns.isSome ∧ pod.metadata.name.isSome

/-- The first of the secrets of its volumes that may name a role. -/
def roleSecret? (pod : Pod) : Option String :=
  pod.volumeSecrets.find? fun name => Secret.nameStart.toList.isPrefixOf name.toList

/-- Whether a pod uses a role, and under which names. -/
structure Uses (pod : Pod) (c : Consumer) : Prop where
  ns : pod.metadata.ns = some c.ns
  name : pod.metadata.name = some c.name
  secret : pod.roleSecret? = some (Secret.nameStart ++ c.role)
  role : c.role ≠ ""

end Pod

/-- What is known of the pods from what has been observed. -/
structure PodView where
  live : List Pod := []
  /-- The pods of a listing that has not come to its end. -/
  listing : List Pod := []

namespace PodView

/-- What is known once something else has been observed. A listing that is started anew takes nothing
over from one before. -/
def next (v : PodView) : PodEvent → PodView
  | .listingStarted => { v with listing := [] }
  | .listed pod => { v with listing := v.listing ++ [pod] }
  | .listingDone => { live := v.listing }
  | .applied pod => { v with live := v.live.filter (·.key ≠ pod.key) ++ [pod] }
  | .deleted pod => { v with live := v.live.filter (·.key ≠ pod.key) }

/-- What is known once all of some events have been observed. -/
def after (v : PodView) (events : List PodEvent) : PodView := events.foldl next v

/-- Whether something may be observed next: all pods have names, and as long as a pod is alive its
volumes stay the same. -/
def Allows (v : PodView) : PodEvent → Prop
  | .listingStarted | .listingDone => True
  | .listed pod => pod.IsNamed
  | .applied pod | .deleted pod =>
      pod.IsNamed ∧ ∀ other ∈ v.live, other.key = pod.key → other.volumeSecrets = pod.volumeSecrets

/-- Whether some events may be observed one after the other. -/
def Delivers (v : PodView) : List PodEvent → Prop
  | [] => True
  | event :: events => v.Allows event ∧ (v.next event).Delivers events

end PodView

/-! ## Roles and the secrets that name them -/

namespace Pod

variable {pod : Pod} {c : Consumer}

theorem roleOfSecretName?_eq_some_iff {name role : String} :
    roleOfSecretName? name = some role ↔ name = Secret.nameStart ++ role := by
  rw [roleOfSecretName?, Option.map_eq_some_iff]
  constructor
  · rintro ⟨rest, cut, rfl⟩
    rw [Text.dropStart?_eq_some_iff] at cut
    exact String.toList_injective (by simp [cut])
  · rintro rfl
    exact ⟨role.toList, Text.dropStart?_eq_some_iff.mpr (by simp), by simp⟩

/-- The role is what follows the fixed start of the first secret that has it. -/
theorem role?_eq_some_iff {role : String} : pod.role? = some role ↔
    pod.roleSecret? = some (Secret.nameStart ++ role) ∧ role ≠ "" := by
  have first : pod.volumeSecrets.findSome? roleOfSecretName? = some role ↔
      pod.roleSecret? = some (Secret.nameStart ++ role) := by
    rw [roleSecret?]
    induction pod.volumeSecrets with
    | nil => simp
    | cons name names ih =>
      cases named : roleOfSecretName? name with
      | none =>
        have other : Secret.nameStart.toList.isPrefixOf name.toList = false := by
          refine Bool.eq_false_iff.mpr fun starts => ?_
          obtain ⟨rest, same⟩ := List.isPrefixOf_iff_prefix.mp starts
          rw [roleOfSecretName?, Text.dropStart?_eq_some_iff.mpr same.symm] at named
          cases named
        rw [List.findSome?_cons, named, List.find?_cons, other]
        exact ih
      | some found =>
        obtain rfl := roleOfSecretName?_eq_some_iff.mp named
        have starts : Secret.nameStart.toList.isPrefixOf
            (Secret.nameStart ++ found).toList = true := by
          simp
        rw [List.findSome?_cons, named, List.find?_cons, starts, Option.some.injEq,
          Option.some.injEq, String.append_right_inj]
  rw [role?, Option.filter_eq_some_iff, first, decide_eq_true_eq]

theorem consumer?_eq_some_iff : pod.consumer? = some c ↔ pod.Uses c := by
  obtain ⟨role, ns, name⟩ := c
  simp only [consumer?, Option.bind_eq_bind, Option.bind_eq_some_iff, role?_eq_some_iff,
    Option.pure_def, Option.some.injEq, Consumer.mk.injEq]
  constructor
  · rintro ⟨_, ⟨secret, filled⟩, _, ns, _, name, rfl, rfl, rfl⟩
    exact ⟨ns, name, secret, filled⟩
  · rintro ⟨ns, name, secret, filled⟩
    exact ⟨_, ⟨secret, filled⟩, _, ns, _, name, rfl, rfl, rfl⟩

theorem Uses.key {pod other : Pod} {c : Consumer} (first : pod.Uses c) (second : other.Uses c) :
    other.key = pod.key := by
  rw [Pod.key, Pod.key, first.ns, first.name, second.ns, second.name]

/-- Pods with the same names and volumes use the same role. -/
theorem Uses.of_same {other : Pod} (uses : pod.Uses c) (key : other.key = pod.key)
    (volumes : other.volumeSecrets = pod.volumeSecrets) : other.Uses c := by
  obtain ⟨ns, name⟩ := Prod.mk.inj key
  exact ⟨ns.trans uses.ns, name.trans uses.name,
    by rw [roleSecret?, volumes]; exact uses.secret, uses.role⟩

end Pod

/-! ## The registry follows the pods -/

namespace Registry

variable {r : Registry} {c : Consumer}

theorem Tight.foldl (tight : r.Tight) (events : List RoleEvent) :
    (events.foldl applyEvent r).Tight := by
  induction events generalizing r with
  | nil => exact tight
  | cons event events ih => exact ih (tight.apply event.change)

/-- A pod that comes adds its use of a role, if it has one. -/
theorem mem_of_applied (r : Registry) (pod : Pod) (c : Consumer) :
    c ∈ (pod.consumer?.map RoleEvent.desired).toList.foldl applyEvent r ↔ pod.Uses c ∨ c ∈ r := by
  rw [← Pod.consumer?_eq_some_iff]
  cases pod.consumer? with
  | none => simp
  | some own => simpa [applyEvent, apply, RoleEvent.change] using mem_add

/-- A pod that goes takes its use of a role away. -/
theorem mem_of_deleted (r : Registry) (pod : Pod) (c : Consumer) :
    c ∈ (pod.consumer?.map RoleEvent.undesired).toList.foldl applyEvent r ↔
      ¬ pod.Uses c ∧ c ∈ r := by
  rw [← Pod.consumer?_eq_some_iff]
  cases pod.consumer? with
  | none => simp
  | some own => simpa [applyEvent, apply, RoleEvent.change] using mem_remove

end Registry

/-- Whether a registry holds what the pods that are alive use, and the listing that goes on has
brought up some uses. -/
structure PodView.Tracks (v : PodView) (listed : List Consumer) (r : Registry) : Prop where
  listed : listed = v.listing.filterMap Pod.consumer?
  uses : ∀ c, c ∈ r ↔ ∃ pod ∈ v.live, pod.Uses c
  tight : r.Tight
  live : ∀ pod ∈ v.live, pod.IsNamed
  listing : ∀ pod ∈ v.listing, pod.IsNamed

namespace PodView.Tracks

variable {v : PodView} {listed : List Consumer} {r : Registry}

theorem start : Tracks {} [] {} where
  listed := rfl
  uses c := by simpa using Registry.not_mem_empty
  tight := Registry.tight_empty
  live pod member := absurd member List.not_mem_nil
  listing pod member := absurd member List.not_mem_nil

/-- What a pod used is used by no other when it goes, and by itself alone when it comes. -/
theorem uses_of_others (tracks : v.Tracks listed r) {pod : Pod}
    (steady : ∀ other ∈ v.live, other.key = pod.key → other.volumeSecrets = pod.volumeSecrets)
    (c : Consumer) :
    (∃ other ∈ v.live.filter (·.key ≠ pod.key), other.Uses c) ↔ ¬ pod.Uses c ∧ c ∈ r := by
  rw [tracks.uses]
  constructor
  · rintro ⟨other, member, uses⟩
    obtain ⟨alive, apart⟩ := List.mem_filter.mp member
    refine ⟨fun own => ?_, other, alive, uses⟩
    exact (of_decide_eq_true apart) (own.key uses)
  · rintro ⟨notOwn, other, alive, uses⟩
    refine ⟨other, List.mem_filter.mpr ⟨alive, decide_eq_true fun key => notOwn ?_⟩, uses⟩
    exact uses.of_same key.symm (steady other alive key).symm

/-- Something is observed, and what it says of the uses of roles goes to the registry. -/
theorem step (tracks : v.Tracks listed r) {event : PodEvent} (allowed : v.Allows event) :
    (v.next event).Tracks (RoleEvent.ofPodEvent listed event).2
      ((RoleEvent.ofPodEvent listed event).1.toList.foldl Registry.applyEvent r) := by
  have sameListed := tracks.listed
  have tight := tracks.tight.foldl (RoleEvent.ofPodEvent listed event).1.toList
  cases event with
  | listingStarted => exact ⟨rfl, tracks.uses, tight, tracks.live, by simp [next]⟩
  | listed pod =>
    refine ⟨?_, tracks.uses, tight, tracks.live, fun other member => ?_⟩
    · rw [RoleEvent.ofPodEvent, next, List.filterMap_append, ← sameListed]
      cases uses : pod.consumer? <;> simp [uses]
    · rcases List.mem_append.mp member with before | new
      · exact tracks.listing other before
      · exact List.mem_singleton.mp new ▸ allowed
  | listingDone =>
    refine ⟨rfl, fun c => ?_, tight, tracks.listing, by simp [next]⟩
    refine Registry.mem_replace.trans ?_
    rw [sameListed, List.mem_filterMap]
    simp only [Pod.consumer?_eq_some_iff, next]
  | applied pod =>
    refine ⟨sameListed, fun c => (Registry.mem_of_applied r pod c).trans ?_, tight, ?_,
      tracks.listing⟩
    · simp only [next, List.mem_append, List.mem_singleton, or_and_right, exists_or,
        exists_eq_left, tracks.uses_of_others allowed.2 c]
      exact or_comm.trans (or_congr_left' fun notOwn => (and_iff_right notOwn).symm)
    · intro other member
      rcases List.mem_append.mp member with before | new
      · exact tracks.live other (List.mem_of_mem_filter before)
      · exact List.mem_singleton.mp new ▸ allowed.1
  | deleted pod =>
    refine ⟨sameListed, fun c => (Registry.mem_of_deleted r pod c).trans ?_, tight, ?_,
      tracks.listing⟩
    · exact (tracks.uses_of_others allowed.2 c).symm
    · exact fun other member => tracks.live other (List.mem_of_mem_filter member)

theorem run (tracks : v.Tracks listed r) {events : List PodEvent} (delivered : v.Delivers events) :
    ∃ left, (v.after events).Tracks left ((roleEvents listed events).foldl Registry.applyEvent r) := by
  induction events generalizing v listed r with
  | nil => exact ⟨listed, tracks⟩
  | cons event events ih =>
    obtain ⟨left, rest⟩ := ih (tracks.step delivered.1) delivered.2
    refine ⟨left, ?_⟩
    rw [roleEvents, List.foldl_append]
    exact rest

end PodView.Tracks

/-- A registry is synced once the end of some listing has been observed. -/
theorem Registry.synced_foldl (r : Registry) (listed : List Consumer) (events : List PodEvent) :
    ((roleEvents listed events).foldl applyEvent r).synced =
      (r.synced || events.contains .listingDone) := by
  induction events generalizing r listed with
  | nil => exact (Bool.or_false _).symm
  | cons event events ih =>
    have first : ((RoleEvent.ofPodEvent listed event).1.toList.foldl applyEvent r).synced =
        (r.synced || PodEvent.listingDone == event) := by
      cases event with
      | applied pod | deleted pod =>
        rw [RoleEvent.ofPodEvent]
        cases pod.consumer? <;> exact (Bool.or_false _).symm
      | listingDone => exact (Bool.or_true _).symm
      | _ => exact (Bool.or_false _).symm
    rw [roleEvents, List.foldl_append, ih, first, List.contains_cons, Bool.or_assoc]

/-! ## What the pods declare -/

namespace Source

/-- What the source of pods declares, given what the registry holds. -/
theorem mem_podsTold {w : World} (tight : w.registry.Tight) {declarations : List Declaration}
    (told : podsTold w = .ok declarations) (d : Declaration) :
    d ∈ declarations ↔ d = podDeclaration d.role d.ns ∧
      ∃ name, (⟨d.role, d.ns, name⟩ : Consumer) ∈ w.registry := by
  rw [podsTold] at told
  split at told
  · obtain rfl := Except.ok.inj told
    simp only [List.mem_map, Prod.exists, tight.mem_snapshot]
    constructor
    · rintro ⟨role, ns, used, rfl⟩
      exact ⟨rfl, used⟩
    · rintro ⟨same, used⟩
      exact ⟨d.role, d.ns, used, same.symm⟩
  · cases told

theorem key_podDeclaration (role ns : String) :
    (podDeclaration role ns).key = ⟨ns, Secret.nameStart ++ role⟩ := rfl

/-- No secret is declared twice. -/
theorem nodup_keys_podsTold {w : World} {declarations : List Declaration}
    (told : podsTold w = .ok declarations) : (declarations.map Declaration.key).Nodup := by
  rw [podsTold] at told
  split at told
  · obtain rfl := Except.ok.inj told
    rw [List.map_map]
    refine w.registry.nodup_snapshot.map fun first second same => ?_
    obtain ⟨role, ns⟩ := first
    obtain ⟨role', ns'⟩ := second
    simp only [Function.comp, key_podDeclaration, ObjectKey.mk.injEq, String.append_right_inj] at same
    rw [same.1, same.2]
  · cases told

end Source

/-- Whatever is observed, the registry holds the uses of roles by the pods that are alive. Once some
listing has come to its end, the source of pods declares one secret for every namespace and secret
that pods alive ask for, and no other; before that it declares nothing. -/
theorem Registry.tracks_pods {events : List PodEvent} (delivered : PodView.Delivers {} events)
    {w : World} (fed : w.registry = (roleEvents [] events).foldl Registry.applyEvent {}) :
    (∀ c : Consumer, c ∈ w.registry ↔ ∃ pod ∈ (PodView.after {} events).live, pod.Uses c) ∧
    (.listingDone ∉ events → (w.run Source.ofPods.declarations).value = .error .notSynced) ∧
    (.listingDone ∈ events → ∃ declarations,
      (w.run Source.ofPods.declarations).value = .ok declarations ∧
      (declarations.map Declaration.key).Nodup ∧
      ∀ d, d ∈ declarations ↔ d = Source.podDeclaration d.role d.ns ∧
        ∃ pod ∈ (PodView.after {} events).live, pod.metadata.ns = some d.ns ∧
          pod.roleSecret? = some d.secretName ∧ Secret.nameStart.length < d.secretName.length) := by
  obtain ⟨left, tracks⟩ := PodView.Tracks.start.run delivered
  rw [← fed] at tracks
  obtain ⟨steps, asked⟩ := Source.run_ofPods w
  have synced : w.registry.synced = events.contains .listingDone := by
    rw [fed, synced_foldl, Bool.false_or]
  refine ⟨tracks.uses, fun none => ?_, fun some => ?_⟩
  · rw [asked, Source.podsTold, synced, if_neg (by simpa using none)]
  · have told : Source.podsTold w = .ok _ :=
      if_pos (by simpa [synced] using some)
    refine ⟨_, by rw [asked, told], Source.nodup_keys_podsTold told, fun d => ?_⟩
    rw [Source.mem_podsTold tracks.tight told]
    refine and_congr_right fun same => ?_
    have secret : d.secretName = Secret.nameStart ++ d.role := congrArg Declaration.secretName same
    have longer : Secret.nameStart.length < d.secretName.length ↔ d.role ≠ "" := by
      rw [secret, String.length_append, ne_eq, ← String.length_eq_zero_iff]
      omega
    simp only [tracks.uses, longer]
    rw [secret]
    constructor
    · rintro ⟨name, pod, alive, uses⟩
      exact ⟨pod, alive, uses.ns, uses.secret, uses.role⟩
    · rintro ⟨pod, alive, ns, names, filled⟩
      obtain ⟨name, named⟩ := Option.isSome_iff_exists.mp (tracks.live pod alive).2
      exact ⟨name, pod, alive, ns, named, names, filled⟩

section Sample

/-- A pod with volumes for secrets. -/
private def Pod.withSecrets (name : String) (volumeSecrets : List String) : Pod :=
  ⟨{ name := some name, ns := some "apps" }, volumeSecrets⟩

/-- A listing that is cut short, one that is not, and two changes. -/
private def someWeb : List PodEvent :=
  [.listingStarted, .listed (.withSecrets "gone" ["aws-iam-old"]),
    .listingStarted, .listed (.withSecrets "web-0" ["tls", "aws-iam-reader"]),
    .listed (.withSecrets "web-1" ["aws-iam-reader"]), .listed (.withSecrets "bare" ["aws-iam-"]),
    .listingDone, .applied (.withSecrets "api" ["aws-iam-writer", "aws-iam-reader"]),
    .deleted (.withSecrets "web-0" ["tls", "aws-iam-reader"])]

/-- A role stays in use as long as one of two pods does, and what was listed in vain is forgotten. -/
theorem Registry.tracks_pods_sample :
    let w : World := {
      registry := (roleEvents [] someWeb).foldl applyEvent {}, expiration := .epoch }
    PodView.Delivers {} someWeb ∧
      (⟨"reader", "apps", "web-1"⟩ : Consumer) ∈ w.registry ∧
      (⟨"reader", "apps", "web-0"⟩ : Consumer) ∉ w.registry ∧
      ∃ declarations, (w.run Source.ofPods.declarations).value = .ok declarations ∧
        Source.podDeclaration "reader" "apps" ∈ declarations ∧
        Source.podDeclaration "old" "apps" ∉ declarations := by
  intro w
  have delivered : PodView.Delivers {} someWeb := by
    simp [someWeb, PodView.Delivers, PodView.Allows, PodView.next, Pod.withSecrets, Pod.IsNamed,
      Pod.key]
  have live : (PodView.after {} someWeb).live =
      [.withSecrets "web-1" ["aws-iam-reader"], .withSecrets "bare" ["aws-iam-"],
        .withSecrets "api" ["aws-iam-writer", "aws-iam-reader"]] := by decide
  obtain ⟨uses, -, declares⟩ := Registry.tracks_pods delivered (w := w) rfl
  obtain ⟨declarations, told, -, declared⟩ := declares (by decide)
  rw [live] at uses declared
  refine ⟨delivered, (uses _).mpr ⟨_, List.mem_cons_self .., rfl, rfl, by decide, by decide⟩, ?_,
    declarations, told, (declared _).mpr ⟨rfl, _, List.mem_cons_self .., rfl, ?_⟩, ?_⟩
  · rintro kept
    obtain ⟨pod, alive, uses⟩ := (uses _).mp kept
    have named := uses.name
    simp only [List.mem_cons, List.not_mem_nil, or_false] at alive
    rcases alive with rfl | rfl | rfl <;> exact absurd named (by decide)
  · decide
  · rintro kept
    obtain ⟨-, pod, alive, -, secret, -⟩ := (declared _).mp kept
    simp only [List.mem_cons, List.not_mem_nil, or_false] at alive
    rcases alive with rfl | rfl | rfl <;> exact absurd secret (by decide)

end Sample

end RoleSecrets
