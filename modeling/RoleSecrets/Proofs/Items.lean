import RoleSecrets.Proofs.TickPhases

/-! # The items of a plan

A plan is carried out item by item: first the orphans, then the managed secrets, then the missing
declarations. `Tick.Item.May` says all that may be asked for an item, and `Tick.turns` what is done
for each one. Of what was done before, only the credentials that were issued matter to an item.
-/

namespace RoleSecrets

/-- Whether a question does no more than to make something about a declaration known. -/
def Query.IsNews (d : Declaration) : Query → Prop
  | .log _ => True
  | .recordEvent event => d.subject? = some event.subject
  | question => ∃ status, question.Reports d status

/-- Whether a question asks for the credentials of a declaration, or makes it known that there are
none. -/
def Query.Obtains (naming : RoleNaming) (d : Declaration) : Query → Prop
  | .assumeRole roleArn _ duration => roleArn = naming.resolve d.role ∧ duration = d.duration
  | .log _ => True
  | .recordEvent event => d.subject? = some event.subject
  | _ => False

theorem Query.isNews_of_reports {d : Declaration} {status : RoleStatus} {question : Query}
    (reports : question.Reports d status) : question.IsNews d := by
  cases question <;> first | exact ⟨status, reports⟩ | cases reports

theorem Query.isNews_of_isRemark (d : Declaration) {question : Query}
    (remark : question.isRemark = true) : question.IsNews d := by
  cases question <;> trivial

instance : Add Summary where
  add a b := {
    created := a.created + b.created
    updated := a.updated + b.updated
    deleted := a.deleted + b.deleted
    reported := a.reported + b.reported
    failed := a.failed + b.failed }

instance : Zero Summary := ⟨{}⟩

namespace Summary

theorem add_def (a b : Summary) : a + b = ⟨a.created + b.created, a.updated + b.updated,
    a.deleted + b.deleted, a.reported + b.reported, a.failed + b.failed⟩ := rfl

theorem zero_add (a : Summary) : 0 + a = a := by
  change (⟨0 + _, 0 + _, 0 + _, 0 + _, 0 + _⟩ : Summary) = a
  simp

theorem add_assoc (a b c : Summary) : a + b + c = a + (b + c) := by
  simp [add_def, Nat.add_assoc]

end Summary

namespace Tick

open World

/-- What a plan has to do with one secret or declaration. -/
inductive Item
  | orphan (secret : Secret)
  | managed (m : Drift.Managed)
  | missing (declaration : Declaration)

namespace Item

def key : Item → ObjectKey
  | orphan s => s.key
  | managed m => m.declaration.key
  | missing d => d.key

/-- What an item is to be brought in line with. -/
def declaration? : Item → Option Declaration
  | orphan _ => none
  | managed m => some m.declaration
  | missing d => some d

def handle (r : Reconciler) (p : Progress) : Item → Controller Progress
  | orphan s => deleteOrphan p s
  | managed m => syncManaged r p m
  | missing d => createMissing r p d

/-- What may be asked for an item. -/
inductive May (r : Reconciler) : Item → Query → Prop
  | log {item : Item} {record : LogRecord} : May r item (.log record)
  | news {item : Item} {d : Declaration} {question : Query} (of : item.declaration? = some d)
      (news : question.IsNews d) : May r item question
  | obtain {item : Item} {d : Declaration} {question : Query} (of : item.declaration? = some d)
      (obtains : question.Obtains r.naming d) : May r item question
  | delete {s : Secret} (named : s.IsNamed) : May r (.orphan s) (.deleteSecret s.key)
  | update {m : Drift.Managed} (c : Credentials) :
      May r (.managed m) (.updateSecret (refreshed m.secret m.declaration c))
  | create {d : Declaration} (c : Credentials) : May r (.missing d) (.createSecret (newSecret d c))

end Item

/-- The items of a plan, in the order in which they are handled. -/
def items (plan : Drift.Plan) : List Item :=
  plan.orphans.map .orphan ++ plan.managed.map .managed ++ plan.missing.map .missing

theorem carryOut_eq (r : Reconciler) (plan : Drift.Plan) :
    carryOut r plan = (items plan).foldlM (Item.handle r) {} >>= fun p => pure p.summary := by
  simp only [items, List.foldlM_append, List.foldlM_map, bind_assoc]
  rfl

section Asks

variable {r : Reconciler} {d : Declaration}

theorem asks_record (d : Declaration) (type : EventType) (reason note : String) :
    (record d type reason note).Asks (Query.IsNews d) := by
  unfold record
  split
  · rename_i subject known
    exact .request known
  · exact .pure _

theorem asks_report (plain : r.source.Plain) (p : Progress) (roleArn : String)
    (expiration : Timestamp) : (report r.source p d roleArn expiration).Asks (Query.IsNews d) := by
  unfold report
  split
  · exact .pure _
  · dsimp only
    split
    · exact .pure _
    · refine Program.Asks.bind ((plain.report d _).mono ?_) fun answer => ?_
      · rintro question (reports | remark)
        · exact Query.isNews_of_reports reports
        · exact Query.isNews_of_isRemark d remark
      · cases answer with
        | ok _ => exact .pure _
        | error e => exact Program.Asks.bind (.request trivial) fun _ => .pure _

theorem asks_reportHealthy (plain : r.source.Plain) (p : Progress) (s : Secret) :
    (reportHealthy r p d s).Asks (Query.IsNews d) := by
  unfold reportHealthy
  split
  · exact .pure _
  · exact asks_report plain ..

/-- All that comes after a write makes its outcome known. -/
theorem deliver_eq (r : Reconciler) (plain : r.source.Plain) (write : Write) (p : Progress)
    (d : Declaration) (c : Credentials) (s : Secret) :
    ∃ tell : Except StoreError Unit → Controller Progress,
      deliver r write p d c s = write.ask s >>= tell ∧
        ∀ answer, (tell answer).Asks (Query.IsNews d) := by
  refine ⟨_, rfl, fun answer => ?_⟩
  cases answer with
  | error e =>
    exact Program.Asks.bind (.request trivial) fun _ => (asks_record ..).bind fun _ => .pure _
  | ok _ =>
    exact Program.Asks.bind (.request trivial) fun _ =>
      (asks_record ..).bind fun _ => asks_report plain ..

/-- To fetch credentials is to ask the issuer, if anyone. -/
theorem asks_fetch (naming : RoleNaming) (p : Progress) (d : Declaration) :
    (fetch naming p d).Asks fun question => ∃ session,
      question = .assumeRole (naming.resolve d.role) session d.duration := by
  unfold fetch
  split
  · exact .pure _
  · refine Program.Asks.bind ?_ fun answer => ?_
    · unfold RoleNaming.fetch
      dsimp only
      split
      · exact .pure _
      · refine Program.Asks.bind (.request ⟨_, rfl⟩) fun answer => ?_
        split <;> exact .pure _
    · split <;> exact .pure _

theorem asks_issue (naming : RoleNaming) (p : Progress) (d : Declaration) :
    (issue naming p d).Asks (Query.Obtains naming d) := by
  have fetched : (fetch naming p d).Asks (Query.Obtains naming d) := by
    refine (asks_fetch naming p d).mono ?_
    rintro question ⟨session, rfl⟩
    exact ⟨rfl, rfl⟩
  refine fetched.bind fun answer => ?_
  split
  · exact .pure _
  · refine Program.Asks.bind (.request trivial) fun _ => ?_
    refine Program.Asks.bind ?_ fun _ => .pure _
    unfold record
    split
    · rename_i subject known
      exact .request known
    · exact .pure _

theorem asks_supply (plain : r.source.Plain) (p : Progress) {item : Item}
    (of : item.declaration? = some d) {write : Write} {make : Credentials → Secret}
    (asks : ∀ c, (write.ask (make c)).Asks (item.May r)) :
    (supply r write make p d).Asks (item.May r) := by
  refine ((asks_issue r.naming p d).mono fun _ => .obtain of).bind fun answer => ?_
  obtain ⟨credentials, q⟩ := answer
  cases credentials with
  | none => exact .pure _
  | some c =>
    obtain ⟨tell, same, news⟩ := deliver_eq r plain write q d c (make c)
    dsimp only
    rw [same]
    exact (asks c).bind fun answer => (news answer).mono fun _ => .news of

end Asks

theorem asks_deleteOrphan (r : Reconciler) (p : Progress) (s : Secret) :
    (deleteOrphan p s).Asks (Item.May r (.orphan s)) := by
  unfold deleteOrphan
  split
  · rename_i ns name hasNs hasName
    have named : s.IsNamed := ⟨by rw [hasNs]; rfl, by rw [hasName]; rfl⟩
    have key : (⟨ns, name⟩ : ObjectKey) = s.key := by simp [Secret.key, hasNs, hasName]
    rw [key]
    refine Program.Asks.bind (.request (.delete named)) fun answer => ?_
    cases answer with
    | error e => exact Program.Asks.bind (.request .log) fun _ => .pure _
    | ok _ => exact Program.Asks.bind (.request .log) fun _ => .pure _
  · exact Program.Asks.bind (.request .log) fun _ => .pure _

/-- For an item nothing is asked but what may be. -/
theorem Item.asks_handle {r : Reconciler} (plain : r.source.Plain) (p : Progress) (item : Item) :
    (item.handle r p).Asks (item.May r) := by
  cases item with
  | orphan s => exact asks_deleteOrphan r p s
  | managed m =>
    rw [handle]
    by_cases healthy : m.drift = .healthy
    · rw [syncManaged_healthy healthy]
      exact (asks_reportHealthy plain p m.secret).mono fun _ => .news rfl
    · rw [syncManaged_drifted healthy]
      exact asks_supply plain p rfl fun c => .request (.update c)
  | missing d => exact asks_supply plain p rfl fun c => .request (.create c)

section Counting

/-- Progress after something else that was counted. -/
def Progress.tally (before : Summary) (p : Progress) : Progress :=
  { p with summary := before + p.summary }

variable (before : Summary) (r : Reconciler) (p : Progress) (d : Declaration)

theorem issue_tally : issue r.naming (p.tally before) d =
    Prod.map id (Progress.tally before) <$> issue r.naming p d := by
  have fetched : fetch r.naming (p.tally before) d =
      Prod.map id (Progress.tally before) <$> fetch r.naming p d := by
    have kept : (p.tally before).issued? d = p.issued? d := rfl
    unfold fetch
    rw [kept]
    cases p.issued? d with
    | some c => rfl
    | none =>
      simp only [map_bind]
      refine bind_congr fun answer => ?_
      cases answer <;> rfl
  unfold issue
  rw [fetched, bind_map_left, map_bind]
  refine bind_congr fun answer => ?_
  obtain ⟨answer, q⟩ := answer
  cases answer with
  | ok c => rfl
  | error e =>
    simp only [Prod.map_apply, id_eq, map_bind]
    rfl

theorem report_tally (source : Source) (roleArn : String) (expiration : Timestamp) :
    report source (p.tally before) d roleArn expiration =
      Progress.tally before <$> report source p d roleArn expiration := by
  unfold report
  split
  · rfl
  · dsimp only
    split
    · rfl
    · rw [map_bind]
      refine bind_congr fun answer => ?_
      cases answer <;> rfl

theorem deliver_tally (write : Write) (c : Credentials) (s : Secret) :
    deliver r write (p.tally before) d c s = Progress.tally before <$> deliver r write p d c s := by
  have counted : write.count (before + p.summary) = before + write.count p.summary := by
    cases write <;> rfl
  unfold deliver
  rw [map_bind]
  refine bind_congr fun answer => ?_
  cases answer with
  | error e => simp only [map_bind]; rfl
  | ok _ =>
    simp only [map_bind, ← report_tally, Progress.tally, counted]

theorem supply_tally (write : Write) (make : Credentials → Secret) :
    supply r write make (p.tally before) d = Progress.tally before <$> supply r write make p d := by
  unfold supply
  rw [issue_tally, bind_map_left, map_bind]
  refine bind_congr fun answer => ?_
  obtain ⟨credentials, q⟩ := answer
  cases credentials with
  | none => rfl
  | some c => exact deliver_tally ..

/-- What an item counts does not depend on what was counted before. -/
theorem Item.handle_tally (item : Item) :
    item.handle r (p.tally before) = Progress.tally before <$> item.handle r p := by
  cases item with
  | orphan s =>
    simp only [handle, deleteOrphan]
    split
    · rw [map_bind]
      refine bind_congr fun answer => ?_
      cases answer <;> rfl
    · rfl
  | managed m =>
    rw [handle, handle]
    by_cases healthy : m.drift = .healthy
    · rw [syncManaged_healthy healthy, syncManaged_healthy healthy, reportHealthy, reportHealthy]
      split
      · rfl
      · exact report_tally ..
    · rw [syncManaged_drifted healthy, syncManaged_drifted healthy]
      exact supply_tally ..
  | missing d => exact supply_tally ..

end Counting

/-- What was done for an item, and what it counts. -/
structure Turn where
  item : Item
  steps : List World.Step
  counted : Summary

/-- The turns of some items in a world, with the credentials that were issued before. -/
def turns (r : Reconciler) (issued : List ((String × Nat) × Credentials)) (w : World) :
    List Item → List Turn
  | [] => []
  | item :: items =>
      let outcome := w.run (item.handle r { issued })
      ⟨item, outcome.steps, outcome.value.summary⟩ ::
        turns r outcome.value.issued outcome.state items

theorem item_turns (r : Reconciler) (issued : List ((String × Nat) × Credentials)) (w : World)
    (items : List Item) : (turns r issued w items).map (·.item) = items := by
  induction items generalizing issued w with
  | nil => rfl
  | cons item items ih => exact congrArg (item :: ·) (ih ..)

/-- In the turn of an item nothing is asked but what may be for it. -/
theorem may_of_mem_turns {r : Reconciler} (plain : r.source.Plain)
    {issued : List ((String × Nat) × Credentials)} {w : World} {items : List Item} :
    ∀ turn ∈ turns r issued w items, ∀ step ∈ turn.steps, turn.item.May r step.question := by
  induction items generalizing issued w with
  | nil => exact fun _ member => absurd member List.not_mem_nil
  | cons item items ih =>
    intro turn member
    rcases List.mem_cons.mp member with rfl | later
    · exact asked_of_mem_run (item.asks_handle plain _) w
    · exact ih turn later

theorem run_foldlM_handle (r : Reconciler) (p : Progress) (w : World) (items : List Item) :
    (w.run (items.foldlM (Item.handle r) p)).value.summary =
        p.summary + ((turns r p.issued w items).map (·.counted)).sum ∧
      (w.run (items.foldlM (Item.handle r) p)).steps =
        (turns r p.issued w items).flatMap (·.steps) := by
  induction items generalizing p w with
  | nil => exact ⟨rfl, rfl⟩
  | cons item items ih =>
    have first : item.handle r p =
        Progress.tally p.summary <$> item.handle r { issued := p.issued } :=
      Item.handle_tally p.summary r { issued := p.issued } item
    rw [List.foldlM_cons, first, bind_map_left, run_bind]
    obtain ⟨counted, steps⟩ := ih
      (Progress.tally p.summary (w.run (item.handle r { issued := p.issued })).value)
      (w.run (item.handle r { issued := p.issued })).state
    exact ⟨counted.trans (Summary.add_assoc ..), congrArg _ steps⟩

/-- A plan is carried out in the turns of its items. -/
theorem run_carryOut_turns (r : Reconciler) (plan : Drift.Plan) (w : World) :
    (w.run (carryOut r plan)).value = ((turns r [] w (items plan)).map (·.counted)).sum ∧
      (w.run (carryOut r plan)).steps = (turns r [] w (items plan)).flatMap (·.steps) := by
  obtain ⟨counted, steps⟩ := run_foldlM_handle r {} w (items plan)
  rw [carryOut_eq, run_bind, run_pure, List.append_nil]
  exact ⟨counted.trans (Summary.zero_add _), steps⟩

end Tick

namespace Reconciler

/-- What a tick finds out first: the declarations, and the secrets it manages. -/
def opening (r : Reconciler) :
    Controller (Except TickError (List Declaration × List Secret)) := do
  match ← Controller.request (.listSecrets r.source.selector) with
  | .error e => pure (.error (.secrets e))
  | .ok listed =>
      match ← r.source.declarations with
      | .error e => pure (.error (.declarations e))
      | .ok declarations => pure (.ok (declarations, listed.filter r.source.manages))

/-- What a tick does once it has found out. -/
def proceed (r : Reconciler) (now : Timestamp) :
    Except TickError (List Declaration × List Secret) → Controller (Except TickError Summary)
  | .error e => pure (.error e)
  | .ok (declarations, secrets) => do
      let summary ← Tick.carryOut r (Drift.detect declarations secrets r.refreshLimit now)
      pure (.ok summary)

theorem tick_eq (r : Reconciler) (now : Timestamp) : r.tick now = r.opening >>= r.proceed now := by
  rw [opening, bind_assoc]
  refine bind_congr fun listing => ?_
  cases listing with
  | error e => rfl
  | ok listed =>
    dsimp only
    rw [bind_assoc]
    refine bind_congr fun answer => ?_
    cases answer <;> rfl

/-- The turns of a tick in a world, one for each item of its plan. -/
def turns (r : Reconciler) (now : Timestamp) (w : World) : List Tick.Turn :=
  match (w.run r.opening).value with
  | .error _ => []
  | .ok (declarations, secrets) =>
      Tick.turns r [] (w.run r.opening).state
        (Tick.items (Drift.detect declarations secrets r.refreshLimit now))

/-- Whether a tick is made up of its opening and of one turn for each item of its plan, with what may
be asked for the item. -/
structure Divided (r : Reconciler) (now : Timestamp) (w : World) : Prop where
  items : (r.turns now w).map (·.item) = match (w.run r.opening).value with
    | .error _ => []
    | .ok (declarations, secrets) =>
        Tick.items (Drift.detect declarations secrets r.refreshLimit now)
  value : (w.run (r.tick now)).value =
    (w.run r.opening).value.map fun _ => ((r.turns now w).map (·.counted)).sum
  steps : (w.run (r.tick now)).steps =
    (w.run r.opening).steps ++ (r.turns now w).flatMap (·.steps)
  own : ∀ turn ∈ r.turns now w, ∀ step ∈ turn.steps, turn.item.May r step.question

theorem divided {r : Reconciler} (plain : r.source.Plain) (now : Timestamp) (w : World) :
    r.Divided now w := by
  have run := congrArg w.run (r.tick_eq now)
  rw [World.run_bind] at run
  rcases found : (w.run r.opening).value with e | ⟨declarations, secrets⟩
  · have none : r.turns now w = [] := by rw [turns, found]
    rw [found] at run
    refine ⟨by rw [none, found]; rfl, by rw [run, found]; rfl, by rw [run, none]; rfl,
      fun turn member => ?_⟩
    rw [none] at member
    exact absurd member List.not_mem_nil
  · have some : r.turns now w = Tick.turns r [] (w.run r.opening).state
        (Tick.items (Drift.detect declarations secrets r.refreshLimit now)) := by
      rw [turns, found]
    obtain ⟨summary, steps⟩ := Tick.run_carryOut_turns r
      (Drift.detect declarations secrets r.refreshLimit now) (w.run r.opening).state
    rw [found, proceed, World.run_bind, World.run_pure, List.append_nil] at run
    refine ⟨?_, ?_, by rw [run, some, ← steps], some ▸ Tick.may_of_mem_turns plain⟩
    · rw [some, found, Tick.item_turns]
    · rw [run, some, found, ← summary]
      rfl

end Reconciler

end RoleSecrets
