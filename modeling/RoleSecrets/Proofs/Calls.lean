import RoleSecrets.Proofs.Items

/-! # The calls made for an item

Beside its calls, a tick does no more than to make known what was done. The calls for a declaration
that lacks a secret with credentials are those that come by credentials, and then the write of the
secret, if there are any. They are kept for the role and duration that they were asked for.
-/

namespace RoleSecrets

open Tick

namespace Query

/-- Whether a question does more than to make known what was done. -/
def isCall : Query → Bool
  | .log _ | .recordEvent _ => false
  | question => !question.isReport

theorem isCall_of_isNews {d : Declaration} {question : Query} (news : question.IsNews d) :
    question.isCall = false := by
  cases question with
  | api request =>
    obtain ⟨status, reports⟩ := news
    obtain rfl : request = Source.reportRequest d status := reports
    rfl
  | _ => first | rfl | exact absurd news.choose_spec id

end Query

/-- The calls among some steps: what was asked for beside events, reports and records. -/
def callsOf (steps : List World.Step) : List Query :=
  (steps.map (·.question)).filter Query.isCall

theorem callsOf_append (first second : List World.Step) :
    callsOf (first ++ second) = callsOf first ++ callsOf second := by
  rw [callsOf, List.map_append, List.filter_append]
  rfl

/-- A program that only makes something known makes no calls. -/
theorem callsOf_eq_nil {α : Type} {p : Controller α} (tells : p.Asks (Query.isCall · = false))
    (w : World) : callsOf (w.run p).steps = [] := by
  refine List.filter_eq_nil_iff.mpr fun question member => ?_
  obtain ⟨step, inside, rfl⟩ := List.mem_map.mp member
  rw [World.asked_of_mem_run tells w step inside]
  exact Bool.false_ne_true

namespace Tick

open World

def Write.question (write : Write) (s : Secret) : Query :=
  match write with
  | .create => .createSecret s
  | .update _ => .updateSecret s

variable {r : Reconciler} (p : Progress) {d : Declaration} (s : Secret) (w : World)

/-- An orphan is deleted if it has a key. -/
theorem calls_deleteOrphan : callsOf (w.run (deleteOrphan p s)).steps =
    if s.IsNamed then [.deleteSecret s.key] else [] := by
  by_cases named : s.IsNamed
  · have deletion := run_deleteOrphan p named w
    generalize w.run (deleteOrphan p s) = o at deletion
    rw [if_pos named]
    cases deletion <;> rfl
  · rw [if_neg named]
    unfold deleteOrphan
    split
    · rename_i ns name hasNs hasName
      exact absurd ⟨by rw [hasNs]; rfl, by rw [hasName]; rfl⟩ named
    · rfl

theorem issued_deleteOrphan : (w.run (deleteOrphan p s)).value.issued = p.issued := by
  unfold deleteOrphan
  split
  · rw [run_bind]
    dsimp only
    split <;> rfl
  · rfl

theorem Reporting.issued {roleArn : String} {expiration : Timestamp} {o : World.Outcome Progress}
    (reporting : Reporting r.source p d roleArn expiration w o) : o.value.issued = p.issued := by
  cases reporting <;> rfl

theorem issued_reportHealthy : (w.run (reportHealthy r p d s)).value.issued = p.issued := by
  unfold reportHealthy
  split
  · rfl
  · exact (run_report ..).issued

theorem issued_deliver (write : Write) (c : Credentials) :
    (w.run (deliver r write p d c s)).value.issued = p.issued := by
  have delivery := run_deliver r write p d c s w
  generalize w.run (deliver r write p d c s) = o at delivery
  cases delivery with
  | rejected asked => rfl
  | written put reporting => exact reporting.issued

theorem issued_supply (write : Write) (make : Credentials → Secret) :
    (w.run (supply r write make p d)).value.issued =
      (w.run (issue r.naming p d)).value.2.issued := by
  rw [supply, run_bind]
  generalize (w.run (issue r.naming p d)).state = after
  rcases (w.run (issue r.naming p d)).value with ⟨credentials, q⟩
  cases credentials with
  | none => rfl
  | some c => exact issued_deliver ..

/-- What credentials are there for a declaration once they have been asked for. -/
theorem lookup_issue_self (naming : RoleNaming) (d : Declaration) :
    (w.run (issue naming p d)).value.2.issued.lookup (d.role, d.duration) =
      (w.run (issue naming p d)).value.1 := by
  have issuance := run_issue naming p d w
  generalize w.run (issue naming p d) = o at issuance
  cases issuance with
  | reused kept => exact kept
  | unnamed fresh => exact fresh
  | refused fresh => exact fresh
  | issued => exact List.lookup_cons_self

theorem lookup_issue (naming : RoleNaming) (d : Declaration) {asked : String × Nat}
    (other : asked ≠ (d.role, d.duration)) :
    (w.run (issue naming p d)).value.2.issued.lookup asked = p.issued.lookup asked := by
  have issuance := run_issue naming p d w
  generalize w.run (issue naming p d) = o at issuance
  cases issuance with
  | issued =>
    rw [Progress.remember, List.lookup_cons, beq_eq_false_iff_ne.mpr other]
  | _ => rfl

/-- The turn of an item leaves the credentials as they are, or as they are once its declaration has
some. -/
theorem issued_handle (r : Reconciler) (item : Item) :
    (w.run (item.handle r p)).value.issued = p.issued ∨ ∃ d, item.declaration? = some d ∧
      (w.run (item.handle r p)).value.issued = (w.run (issue r.naming p d)).value.2.issued := by
  cases item with
  | orphan s => exact .inl (issued_deleteOrphan p s w)
  | managed m =>
    rw [Item.handle]
    by_cases healthy : m.drift = .healthy
    · rw [syncManaged_healthy healthy]
      exact .inl (issued_reportHealthy p m.secret w)
    · rw [syncManaged_drifted healthy]
      exact .inr ⟨_, rfl, issued_supply ..⟩
  | missing d => exact .inr ⟨d, rfl, issued_supply ..⟩

theorem lookup_handle {item : Item} {asked : String × Nat}
    (other : ∀ d, item.declaration? = some d → asked ≠ (d.role, d.duration)) :
    (w.run (item.handle r p)).value.issued.lookup asked = p.issued.lookup asked := by
  rcases issued_handle p w r item with same | ⟨d, of, same⟩ <;> rw [same]
  exact lookup_issue p w r.naming d (other d of)

section Plain

variable (plain : r.source.Plain)

include plain

theorem calls_reportHealthy : callsOf (w.run (reportHealthy r p d s)).steps = [] :=
  callsOf_eq_nil ((asks_reportHealthy plain p s).mono fun _ => Query.isCall_of_isNews) w

theorem calls_deliver (write : Write) (c : Credentials) :
    callsOf (w.run (deliver r write p d c s)).steps = [write.question s] := by
  obtain ⟨tell, same, news⟩ := deliver_eq r plain write p d c s
  have told := fun answer => (news answer).mono fun _ => Query.isCall_of_isNews
  rw [same, run_bind, callsOf_append, callsOf_eq_nil (told _), List.append_nil]
  cases write <;> rfl

/-- Whatever comes of them, the calls for a declaration end with the write of its secret. -/
theorem calls_supply (write : Write) (make : Credentials → Secret) :
    callsOf (w.run (supply r write make p d)).steps =
      callsOf (w.run (issue r.naming p d)).steps ++
        ((w.run (issue r.naming p d)).value.1.map fun c => write.question (make c)).toList := by
  rw [supply, run_bind, callsOf_append]
  generalize (w.run (issue r.naming p d)).state = after
  rcases (w.run (issue r.naming p d)).value with ⟨credentials, q⟩
  cases credentials with
  | none => rfl
  | some c => exact congrArg _ (calls_deliver q (make c) after plain write c)

end Plain

end Tick

end RoleSecrets
