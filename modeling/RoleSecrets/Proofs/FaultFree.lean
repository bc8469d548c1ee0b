import RoleSecrets.Proofs.Items
import RoleSecrets.Proofs.Quiescence
import RoleSecrets.Proofs.Rotation
import RoleSecrets.Proofs.StatusReadBack

/-! # When a tick goes through

That a tick counts no failure can be read off the world it starts in: nothing there is made to fail,
the source finds what it reports about, every declared role has a session name, and what the owned
secrets say of their expiry can be told in a status. A history goes through if every tick does.
Secrets of others are of no concern: the store of a `World` puts a secret in the place of any with
its key, and one that refuses to is a world with a fault for that key.
-/

namespace RoleSecrets

open Tick

/-- Whether a change from outside makes nothing fail, and lets credentials expire at times of some
kind only. -/
def Change.IsReliable (P : Timestamp → Prop) : Change → Prop
  | .faults given => given = {}
  | .expiration time => P time
  | _ => True

theorem Change.IsReliable.mono {P Q : Timestamp → Prop} {change : Change}
    (reliable : change.IsReliable P) (weaker : ∀ time, P time → Q time) : change.IsReliable Q := by
  cases change with
  | faults given => exact reliable
  | expiration time => exact weaker time reliable
  | _ => trivial

namespace World

/-- Whether nothing is made to fail and credentials expire at times of some kind, now and after all
changes still to come. -/
structure Reliable (P : Timestamp → Prop) (w : World) : Prop where
  faults : w.faults = {}
  expiration : P w.expiration
  schedule : ∀ entry ∈ w.schedule, entry.2.IsReliable P

variable {P Q : Timestamp → Prop} {w : World}

theorem Reliable.mono (reliable : w.Reliable P) (weaker : ∀ time, P time → Q time) :
    w.Reliable Q :=
  ⟨reliable.faults, weaker _ reliable.expiration,
    fun entry member => (reliable.schedule entry member).mono weaker⟩

theorem reliable_apply {change : Change} (isReliable : change.IsReliable P)
    (faults : w.faults = {}) (expiration : P w.expiration) :
    (w.apply change).faults = {} ∧ P (w.apply change).expiration := by
  cases change with
  | faults given => exact ⟨isReliable, expiration⟩
  | expiration time => exact ⟨faults, isReliable⟩
  | _ => exact ⟨faults, expiration⟩

theorem reliable_applyDue {schedule : List (Nat × Change)} (faults : w.faults = {})
    (expiration : P w.expiration) (reliable : ∀ entry ∈ schedule, entry.2.IsReliable P) :
    (w.applyDue schedule).Reliable P := by
  obtain ⟨⟨faults, expiration⟩, left⟩ := applyDue_induction
    (I := fun after => after.faults = {} ∧ P after.expiration)
    (fun _ _ isReliable kept => reliable_apply isReliable kept.1 kept.2) (fun _ _ kept => kept)
    reliable ⟨faults, expiration⟩
  exact ⟨faults, expiration, left⟩

theorem Reliable.awaited (reliable : w.Reliable P) : w.awaited.Reliable P :=
  reliable_applyDue (w := { w with
    delays := w.delays.tail, clock := max w.clock (w.clock + w.delays.headD 0) })
    reliable.faults reliable.expiration reliable.schedule

/-- Whatever is asked, nothing comes to fail by it. -/
theorem reliable_serve (question : Query) (w : World) (reliable : w.Reliable P) :
    (serve question w).2.Reliable P := by
  rcases serve_state question w with ⟨_, _, _, same⟩ | ⟨-, _, same⟩ <;> rw [same]
  · exact ⟨reliable.faults, reliable.expiration, reliable.schedule⟩
  · exact ⟨reliable.awaited.faults, reliable.awaited.expiration, reliable.awaited.schedule⟩

/-- The issuer issues, and what it issues expires at such a time. -/
theorem Reliable.serveIssuer (reliable : w.Reliable P) (roleArn sessionName : String) :
    ∃ keys, (w.serveIssuer roleArn sessionName).1 = .ok keys ∧ P keys.expiration := by
  rw [serveIssuer_eq, reliable.awaited.faults]
  exact ⟨_, rfl, reliable.awaited.expiration⟩

/-- All credentials that a run gets expire at such times. -/
theorem Reliable.allIssued (reliable : w.Reliable P) {α : Type} (controller : Controller α) :
    AllIssued (P ·.expiration) (w.run controller).steps := by
  intro before arn session duration keys member
  have there := (run_keeps reliable_serve controller reliable).2 _ member
  have answered := Program.answer_of_mem_run serve member
  obtain ⟨keys', issued, expires⟩ := there.serveIssuer arn session
  obtain rfl : keys = keys' := Except.ok.inj (answered.trans issued)
  exact expires

theorem Reliable.createSecret (reliable : w.Reliable P) (s : Secret) :
    serve (.createSecret s) w = (.ok (), { w with secrets := putSecret s w.secrets }) := by
  rw [serve, serveWrite, reliable.faults]
  rfl

theorem Reliable.updateSecret (reliable : w.Reliable P) (s : Secret) :
    serve (.updateSecret s) w = (.ok (), { w with secrets := putSecret s w.secrets }) := by
  rw [serve, serveWrite, reliable.faults]
  rfl

theorem Reliable.deleteSecret (reliable : w.Reliable P) (key : ObjectKey) :
    serve (.deleteSecret key) w = (.ok (), { w with secrets := removeSecret key w.secrets }) := by
  rw [serve, serveWrite, reliable.faults]
  rfl

end World

/-- Whether the role of a declaration has a session name. -/
def RoleNaming.Names (naming : RoleNaming) (d : Declaration) : Prop :=
  ∃ session, naming.sessionName (naming.resolve d.role) = .ok session

/-- What a source relies on so that a report about any of some declarations goes through. `Fit` is
what it relies on in a world, and `Tellable` are the times of expiry that a status can tell. -/
structure Source.Unfailing (source : Source) (declarations : List Declaration) (Fit : World → Prop)
    (Tellable : Timestamp → Prop) : Prop where
  reliable : ∀ {w : World}, Fit w → w.Reliable Tellable
  /-- Other questions than reports leave a world fit. -/
  serve : ∀ (question : Query) {w : World}, question.isReport = false → Fit w →
    Fit (World.serve question w).2
  report : ∀ {w : World} {d : Declaration} {generation : Int} {expiration : Timestamp}
    (roleArn : String), Fit w → d ∈ declarations → d.generation = some generation →
      Tellable expiration →
        (w.run (source.report d (.of generation roleArn expiration))).value = .ok () ∧
          Fit (w.run (source.report d (.of generation roleArn expiration))).state

namespace Tick

/-- What holds between turns of which none has failed. -/
structure Sound (Fit : World → Prop) (Tellable : Timestamp → Prop) (p : Progress) (w : World) :
    Prop where
  fit : Fit w
  noFailure : p.summary.failed = 0
  issued : ∀ d c, p.issued? d = some c → Tellable c.expiration

variable {r : Reconciler} {Fit : World → Prop} {Tellable : Timestamp → Prop}
  {declarations : List Declaration} {p : Progress} {d : Declaration} {w : World}

theorem Reporting.sound {o : World.Outcome Progress} {roleArn : String} {expiration : Timestamp}
    (reporting : Reporting r.source p d roleArn expiration w o)
    (unfailing : r.source.Unfailing declarations Fit Tellable) (sound : Sound Fit Tellable p w)
    (declared : d ∈ declarations) (tellable : Tellable expiration) :
    Sound Fit Tellable o.value o.state := by
  cases reporting with
  | ungenerated _ => exact sound
  | known _ _ => exact sound
  | told generated _ ran =>
    have report := unfailing.report roleArn sound.fit declared generated tellable
    rw [ran] at report
    exact ⟨report.2, sound.noFailure, sound.issued⟩
  | refused generated _ ran =>
    have report := unfailing.report roleArn sound.fit declared generated tellable
    rw [ran] at report
    cases report.1

/-- Credentials are come by for every role with a session name. -/
theorem Issuance.sound {o : World.Outcome (Option Credentials × Progress)}
    (issuance : Issuance r.naming p d w o)
    (unfailing : r.source.Unfailing declarations Fit Tellable) (sound : Sound Fit Tellable p w)
    (named : r.naming.Names d) :
    Sound Fit Tellable o.value.2 o.state ∧ ∃ c, o.value.1 = some c ∧ Tellable c.expiration := by
  cases issuance with
  | reused kept => exact ⟨sound, _, rfl, sound.issued d _ kept⟩
  | unnamed _ nameless =>
    obtain ⟨session, named⟩ := named
    rw [nameless] at named
    cases named
  | refused _ _ served =>
    obtain ⟨keys, issued, -⟩ := (unfailing.reliable sound.fit).serveIssuer _ _
    rw [World.serve] at served
    rw [served] at issued
    cases issued
  | issued _ _ served =>
    rename_i session keys after _ _
    obtain ⟨keys', issued, tellable⟩ := (unfailing.reliable sound.fit).serveIssuer _ _
    have fit := unfailing.serve
      (.assumeRole (r.naming.resolve d.role) session d.duration) rfl sound.fit
    rw [served] at fit
    rw [World.serve] at served
    rw [served] at issued
    obtain rfl := Except.ok.inj issued
    refine ⟨⟨fit, sound.noFailure, fun other found kept => ?_⟩, _, rfl, tellable⟩
    rcases Progress.lookup_remember kept with ⟨-, rfl⟩ | before
    · exact tellable
    · exact sound.issued other found before

theorem value_ask {P : Timestamp → Prop} (reliable : w.Reliable P) (write : Write) (s : Secret) :
    (w.run (write.ask s)).value = .ok () := by
  cases write with
  | create => rw [Write.ask, World.run_request, reliable.createSecret]
  | update drift => rw [Write.ask, World.run_request, reliable.updateSecret]

/-- Nothing keeps a secret from being written. -/
theorem Delivery.sound {o : World.Outcome Progress} {write : Write} {c : Credentials} {s : Secret}
    (delivery : Delivery r write p d c s w o)
    (unfailing : r.source.Unfailing declarations Fit Tellable) (sound : Sound Fit Tellable p w)
    (declared : d ∈ declarations) (tellable : Tellable c.expiration) :
    Sound Fit Tellable o.value o.state := by
  have reliable := unfailing.reliable sound.fit
  cases delivery with
  | rejected asked =>
    have done := value_ask reliable write s
    rw [asked] at done
    cases done
  | written put reporting =>
    have fit := unfailing.serve (.createSecret s) rfl sound.fit
    rw [reliable.createSecret, ← put] at fit
    refine reporting.sound unfailing ⟨fit, ?_, sound.issued⟩ declared tellable
    cases write <;> exact sound.noFailure

theorem Supply.sound {o : World.Outcome Progress} {write : Write} {make : Credentials → Secret}
    (supply : Supply r write make p d w o)
    (unfailing : r.source.Unfailing declarations Fit Tellable) (sound : Sound Fit Tellable p w)
    (declared : d ∈ declarations) (named : r.naming.Names d) :
    Sound Fit Tellable o.value o.state := by
  cases supply with
  | unissued issuance =>
    obtain ⟨-, c, none, -⟩ := issuance.sound unfailing sound named
    cases none
  | issued issuance delivery =>
    obtain ⟨still, c, same, tellable⟩ := issuance.sound unfailing sound named
    obtain rfl := Option.some.inj same
    exact delivery.sound unfailing still declared tellable

theorem Deletion.sound {s : Secret} {o : World.Outcome Progress} (deletion : Deletion p s w o)
    (unfailing : r.source.Unfailing declarations Fit Tellable) (sound : Sound Fit Tellable p w) :
    Sound Fit Tellable o.value o.state := by
  have gone := (unfailing.reliable sound.fit).deleteSecret s.key
  cases deletion with
  | refused served =>
    rw [gone] at served
    cases served
  | deleted removed _ =>
    have fit := unfailing.serve (.deleteSecret s.key) rfl sound.fit
    rw [gone, ← removed] at fit
    exact ⟨fit, sound.noFailure, sound.issued⟩

/-- Whether all that the turn of an item relies on is there. -/
def Item.Ready (naming : RoleNaming) (declarations : List Declaration)
    (Tellable : Timestamp → Prop) : Item → Prop
  | orphan s => s.IsNamed
  | managed m => m.declaration ∈ declarations ∧ naming.Names m.declaration ∧
      ∀ expiration, m.secret.expiration? = some expiration → Tellable expiration
  | missing d => d ∈ declarations ∧ naming.Names d

theorem Item.sound_handle {item : Item} (ready : item.Ready r.naming declarations Tellable)
    (unfailing : r.source.Unfailing declarations Fit Tellable) (sound : Sound Fit Tellable p w) :
    Sound Fit Tellable (w.run (item.handle r p)).value (w.run (item.handle r p)).state := by
  cases item with
  | orphan s => exact (run_deleteOrphan p ready w).sound unfailing sound
  | managed m =>
    obtain ⟨declared, named, recorded⟩ := ready
    rw [Item.handle]
    by_cases healthy : m.drift = .healthy
    · rw [syncManaged_healthy healthy, reportHealthy]
      cases expires : m.secret.expiration? with
      | none => exact sound
      | some expiration =>
        exact (run_report ..).sound unfailing sound declared (recorded _ expires)
    · rw [syncManaged_drifted healthy]
      exact (run_supply ..).sound unfailing sound declared named
  | missing d => exact (run_supply ..).sound unfailing sound ready.1 ready.2

theorem sound_foldlM {items : List Item}
    (unfailing : r.source.Unfailing declarations Fit Tellable)
    (ready : ∀ item ∈ items, item.Ready r.naming declarations Tellable)
    (sound : Sound Fit Tellable p w) :
    Sound Fit Tellable (w.run (items.foldlM (Item.handle r) p)).value
      (w.run (items.foldlM (Item.handle r) p)).state := by
  induction items generalizing p w with
  | nil => exact sound
  | cons item items ih =>
    rw [List.foldlM_cons, World.run_bind]
    refine ih (fun other member => ready other (List.mem_cons_of_mem _ member)) ?_
    exact Item.sound_handle (ready item (List.mem_cons_self ..)) unfailing sound

/-- The items of a plan are ready where the roles are named and the recorded times can be told. -/
theorem ready_of_mem_items (now : Timestamp) (keyed : Keyed w.secrets)
    (named : ∀ d ∈ Drift.counting declarations, r.naming.Names d)
    (recorded : ∀ s ∈ w.secrets, r.source.owns s = true → ∀ expiration,
      s.expiration? = some expiration → Tellable expiration) :
    ∀ item ∈ items (r.plan now w declarations), item.Ready r.naming declarations Tellable := by
  have fits := r.plan_fits now declarations keyed
  have known : ∀ d ∈ (r.plan now w declarations).managed.map Drift.Managed.declaration ++
      (r.plan now w declarations).missing, d ∈ declarations ∧ r.naming.Names d := by
    intro d planned
    have counts := fits.declarations_perm.subset planned
    exact ⟨Drift.mem_of_mem_counting counts, named d counts⟩
  intro item member
  simp only [items, List.mem_append, List.mem_map] at member
  obtain (⟨s, orphan, rfl⟩ | ⟨m, managed, rfl⟩) | ⟨d, missing, rfl⟩ := member
  · have listed := fits.secrets_perm.subset (List.mem_append_left _ orphan)
    exact keyed.named s (List.mem_of_mem_filter listed)
  · obtain ⟨declared, named⟩ := known _ (List.mem_append_left _ (List.mem_map_of_mem managed))
    obtain ⟨held, owned⟩ := List.mem_filter.mp (held_of_managed keyed managed)
    exact ⟨declared, named, recorded _ held owned⟩
  · exact known _ (List.mem_append_right _ missing)

end Tick

namespace Reconciler

variable {r : Reconciler} {Fit : World → Prop} {Tellable : Timestamp → Prop}
  {declarations : List Declaration} {now : Timestamp} {w : World}

/-- A tick in a fit world counts no failure, if every declared role has a session name and what the
owned secrets record can be told. -/
theorem faultless_tick (plain : r.source.Plain)
    (unfailing : r.source.Unfailing declarations Fit Tellable) (fit : Fit w)
    (keyed : Keyed w.secrets) (told : (w.run r.source.declarations).value = .ok declarations)
    (named : ∀ d ∈ Drift.counting declarations, r.naming.Names d)
    (recorded : ∀ s ∈ w.secrets, r.source.owns s = true → ∀ expiration,
      s.expiration? = some expiration → Tellable expiration) :
    ∃ summary, (w.run (r.tick now)).value = .ok summary ∧ summary.failed = 0 := by
  have found : Fit (w.run r.source.declarations).state :=
    (plain.declarations.run World.serve Fit (fun _ _ lookup fit =>
      unfailing.serve _ (Query.isReport_of_isLookup lookup) fit) fit).1
  have ticking := run_tick r now w
  generalize w.run (r.tick now) = o at ticking
  cases ticking with
  | unlisted served =>
    rw [World.serve, (unfailing.reliable fit).faults] at served
    cases served
  | undeclared asked =>
    rw [asked] at told
    cases told
  | carried asked ran =>
    rw [asked] at told found
    obtain rfl := Except.ok.inj told
    subst ran
    have start : Sound Fit Tellable {} _ := ⟨found, rfl, fun _ _ kept => by cases kept⟩
    have last := sound_foldlM unfailing (ready_of_mem_items now keyed named recorded) start
    refine ⟨_, rfl, ?_⟩
    rw [carryOut_eq, World.run_bind, World.run_pure]
    exact last.noFailure

/-- Such a tick goes through, if new credentials last until the refresh limit is over. -/
theorem smooth_of_unfailing {InOrder : World → Prop} {deadline : Timestamp}
    (mirrors : r.source.Mirrors InOrder)
    (unfailing : r.source.Unfailing declarations Fit Tellable) (fit : Fit w)
    (keyed : Keyed w.secrets) (told : r.source.told w = .ok declarations)
    (named : ∀ d ∈ Drift.counting declarations, r.naming.Names d)
    (recorded : ∀ s ∈ w.secrets, r.source.owns s = true → ∀ expiration,
      s.expiration? = some expiration → Tellable expiration)
    (limit : now.add? r.refreshLimit = some deadline) (lasting : w.Reliable (·.Outlasts deadline)) :
    r.Smooth now w where
  faultless := by
    obtain ⟨steps, ran⟩ := mirrors.lookup (w := w) (by rw [lasting.faults])
    refine faultless_tick mirrors.plain unfailing fit keyed ?_ named recorded
    rw [ran]
    exact told
  declared := by
    intro others ran d counts
    exact mirrors.taken (mirrors.told_of_run ran) d (Drift.mem_of_mem_counting counts)
  lasting := ⟨deadline, limit, lasting.allIssued _⟩

end Reconciler

namespace Source

theorem unfailing_ofPods (declarations : List Declaration) :
    ofPods.Unfailing declarations (World.Reliable fun _ => True) fun _ => True where
  reliable fit := fit
  serve question _ _ fit := World.reliable_serve question _ fit
  report _ fit _ _ _ := ⟨rfl, fit⟩

/-- Whether a source of resources, whose reports do not fail, is shown all of some declarations. -/
structure Reportable (ns : Option String) (declarations : List Declaration) (w : World) : Prop where
  reliable : w.Reliable (·.HasFourDigitYear)
  calm : w.Calm
  shown : ∀ d ∈ declarations, ∃ resource, w.Shows ns d.key resource

variable {ns : Option String} {declarations : List Declaration} {w : World}

theorem Reportable.patched (reportable : Reportable ns declarations w) (key : ObjectKey)
    {status : RoleStatus} (word : Decimal.fitsInt64 status.generation = true)
    (inYears : status.expiration.HasFourDigitYear) :
    Reportable ns declarations { w with resources := w.resources.map (patchIf key status) } where
  reliable := ⟨reportable.reliable.faults, reportable.reliable.expiration,
    reportable.reliable.schedule⟩
  calm := ⟨reportable.calm.inYears, reportable.calm.schedule⟩
  shown d member := by
    obtain ⟨resource, shown⟩ := reportable.shown d member
    by_cases same : key = d.key
    · subst same
      exact ⟨_, shown.patched word inYears⟩
    · exact ⟨_, shown.patched_of_ne same word inYears⟩

theorem unfailing_ofResources (ns : Option String)
    (words : ∀ d ∈ declarations, d.HasWordGeneration) :
    (ofResources ns).Unfailing declarations (Reportable ns declarations) (·.HasFourDigitYear) where
  reliable := Reportable.reliable
  serve question w noReport reportable := by
    obtain ⟨calm, same⟩ := World.desired_serve noReport reportable.calm
    have reliable := World.reliable_serve question w reportable.reliable
    refine ⟨reliable, calm, fun d member => ?_⟩
    obtain ⟨resource, shown⟩ := reportable.shown d member
    refine ⟨resource, ?_, ?_, same.resources ▸ shown.readable, same.resources ▸ shown.only,
      shown.covered, shown.identified, shown.ns, shown.name⟩
    · rw [reliable.faults]
    · rw [reliable.faults]
      rfl
  report {w d generation expiration} roleArn reportable member generated inYears := by
    have word : Decimal.fitsInt64 (RoleStatus.of generation roleArn expiration).generation = true :=
      words d member generation generated
    obtain ⟨resource, shown⟩ := reportable.shown d member
    obtain ⟨steps, ran⟩ := shown.run_report rfl word inYears
    rw [report_ofResources, ran]
    exact ⟨rfl, reportable.patched d.key word inYears⟩

end Source

namespace Reconciler

variable {r : Reconciler} {declarations : List Declaration} {now deadline : Timestamp} {w : World}

/-- A tick of the source of pods goes through in a world without faults, once the pods are listed,
if all roles in use have session names and new credentials outlast the refresh limit. -/
theorem smooth_of_pods (pods : r.source = .ofPods) (keyed : Keyed w.secrets)
    (reliable : w.Reliable (·.Outlasts deadline)) (limit : now.add? r.refreshLimit = some deadline)
    (told : r.source.told w = .ok declarations)
    (named : ∀ d ∈ Drift.counting declarations, r.naming.Names d) : r.Smooth now w :=
  smooth_of_unfailing (pods ▸ Source.mirrors_ofPods) (pods ▸ Source.unfailing_ofPods declarations)
    (reliable.mono fun _ _ => trivial) keyed told named (fun _ _ _ _ _ => trivial) limit reliable

/-- So does one of a source of resources that is shown all resources it declares, if besides the
owned secrets record no expiry outside the years 0 to 9999. -/
theorem smooth_of_resources {ns : Option String} (resources : r.source = .ofResources ns)
    (keyed : Keyed w.secrets) (calm : w.Calm) (reliable : w.Reliable (·.Outlasts deadline))
    (limit : now.add? r.refreshLimit = some deadline)
    (told : r.source.told w = .ok declarations)
    (shown : ∀ d ∈ declarations, ∃ resource, w.Shows ns d.key resource)
    (named : ∀ d ∈ Drift.counting declarations, r.naming.Names d)
    (recorded : ∀ s ∈ w.secrets, r.source.owns s = true → ∀ expiration,
      s.expiration? = some expiration → expiration.HasFourDigitYear) : r.Smooth now w := by
  have mirrors := Source.mirrors_ofResources ns
  rw [← resources] at mirrors
  have words : ∀ d ∈ declarations, d.HasWordGeneration :=
    fun d member => (mirrors.taken told d member).2
  exact smooth_of_unfailing mirrors (resources ▸ Source.unfailing_ofResources ns words)
    ⟨reliable.mono fun _ outlasts => outlasts.1, calm, shown⟩ keyed told named recorded limit
    reliable

theorem smooth_of_resources_sample : resourceSample.Smooth .epoch .resourceSample := by
  have told : ∃ d, (Source.ofResources none).told .resourceSample = .ok [d] ∧
      d.key = ⟨"apps", "reader"⟩ ∧ d.role = "reader" := ⟨_, rfl, rfl, rfl⟩
  obtain ⟨d, told, key, role⟩ := told
  refine smooth_of_resources rfl ⟨by decide, by decide⟩
    ⟨by decide, fun _ member => absurd member List.not_mem_nil⟩
    ⟨rfl, ?_, fun _ member => absurd member List.not_mem_nil⟩ rfl told ?_ ?_
    fun _ held => absurd held List.not_mem_nil
  · exact ⟨by decide, by decide⟩
  · intro e member
    obtain rfl := List.mem_singleton.mp member
    rw [key]
    refine ⟨_, rfl, rfl, ?_, ⟨_, rfl, rfl⟩, .inl rfl, Option.some_ne_none _, ⟨by decide, by decide⟩,
      ⟨by decide, by decide⟩⟩
    intro value listed
    obtain rfl := List.mem_singleton.mp listed
    rfl
  · intro e counts
    obtain rfl := List.mem_singleton.mp (Drift.mem_of_mem_counting counts)
    rw [RoleNaming.Names, role]
    exact ⟨_, rfl⟩

/-- A history goes through if each of its ticks does in a keyed and reliable world, and no change
from outside makes anything fail or touches the secrets. -/
theorem steady_of_each {P : Timestamp → Prop} {acts : List Act} {w : World} (plain : r.source.Plain)
    (keyed : Keyed w.secrets) (undisturbed : w.Undisturbed) (reliable : w.Reliable P)
    (changes : ∀ change, .change change ∈ acts →
      change.keepsSecrets = true ∧ change.IsReliable P)
    (each : ∀ earlier now later, acts = earlier ++ .tick now :: later →
      Keyed (r.live w earlier).2.secrets → (r.live w earlier).2.Reliable P →
        r.Smooth now (r.live w earlier).2) : r.Steady w acts := by
  induction acts generalizing w with
  | nil => trivial
  | cons act acts ih =>
    have changesLater := fun change member => changes change (List.mem_cons_of_mem _ member)
    have eachLater : ∀ earlier now later, acts = earlier ++ .tick now :: later →
        Keyed (r.live (r.act w act).2 earlier).2.secrets →
          (r.live (r.act w act).2 earlier).2.Reliable P →
            r.Smooth now (r.live (r.act w act).2 earlier).2 :=
      fun earlier now later split => each (act :: earlier) now later (by rw [split]; rfl)
    cases act with
    | tick now =>
      refine ⟨each [] now acts rfl keyed reliable, ?_⟩
      obtain ⟨stillKeyed, stillUndisturbed⟩ := (run_tick r now w).keeps plain keyed undisturbed
      have stillReliable := (World.run_keeps World.reliable_serve (r.tick now) reliable).1
      exact ih stillKeyed stillUndisturbed stillReliable changesLater eachLater
    | change change =>
      obtain ⟨keeps, isReliable⟩ := changes change (List.mem_cons_self ..)
      have same := World.schedule_apply change w
      obtain ⟨faults, expiration⟩ :=
        World.reliable_apply isReliable reliable.faults reliable.expiration
      refine ⟨keeps, ih ?_ ?_ ⟨faults, expiration, same ▸ reliable.schedule⟩ changesLater eachLater⟩
      · rw [World.secrets_apply keeps]
        exact keyed
      · rw [World.Undisturbed, same]
        exact undisturbed

/-- A history of the source of pods goes through, if the pods are listed at every tick, all roles in
use have session names then, and new credentials outlast the refresh limit of every tick. -/
theorem steady_of_pods (pods : r.source = .ofPods) {acts : List Act} {latest : Timestamp}
    (keyed : Keyed w.secrets) (undisturbed : w.Undisturbed)
    (reliable : w.Reliable (·.Outlasts latest))
    (changes : ∀ change, .change change ∈ acts →
      change.keepsSecrets = true ∧ change.IsReliable (·.Outlasts latest))
    (soon : ∀ now, .tick now ∈ acts →
      ∃ deadline, now.add? r.refreshLimit = some deadline ∧ deadline ≤ latest)
    (told : ∀ earlier now later, acts = earlier ++ .tick now :: later →
      ∃ declarations, r.source.told (r.live w earlier).2 = .ok declarations ∧
        ∀ d ∈ Drift.counting declarations, r.naming.Names d) : r.Steady w acts := by
  refine steady_of_each (pods ▸ Source.plain_ofPods) keyed undisturbed reliable changes ?_
  intro earlier now later split keyedThere reliableThere
  obtain ⟨declarations, told, named⟩ := told earlier now later split
  obtain ⟨deadline, limit, inTime⟩ := soon now (by rw [split]; simp)
  refine smooth_of_pods pods keyedThere (reliableThere.mono fun _ outlasts => ?_) limit told named
  exact ⟨outlasts.1, Timestamp.le_trans inTime outlasts.2⟩

end Reconciler

end RoleSecrets
