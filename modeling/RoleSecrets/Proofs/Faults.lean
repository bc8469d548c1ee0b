import RoleSecrets.Proofs.Likeness
import RoleSecrets.Proofs.Mirrors

/-! # What a fault makes a difference to

A fault lets a write or a report fail. What else is asked for the items of a plan is answered in two
worlds alike, so long as they issue credentials alike and their resources are the same outside the
keys that have been touched. Neither writes nor reports make a difference to any of this.
-/

namespace RoleSecrets

/-- The fault that lets a write or a report fail in a world. -/
def World.faultOn (w : World) : Query → Option String
  | .createSecret s => w.faults.create.get? s.key.text
  | .updateSecret s => w.faults.update.get? s.key.text
  | .deleteSecret key => w.faults.delete.get? key.text
  | .reportDeclared d _ => w.faults.report.get? d.key.text
  | .api request =>
      match request.method, request.path.name with
      | .patch, some name =>
          w.faults.report.get? (ObjectKey.text ⟨request.path.ns.getD "", name⟩)
      | _, _ => none
  | _ => none

namespace Query

/-- Whether a question writes a secret, reports a status, or tells of what was done. -/
def IsLocal : Query → Prop
  | .createSecret _ | .updateSecret _ | .deleteSecret _ => True
  | .log _ | .recordEvent _ | .reportDeclared .. => True
  | .api request => ∃ d status, request = Source.reportRequest d status
  | _ => False

/-- Whether all that a question may report is about declarations with certain keys. -/
def ReportsWithin (keys : ObjectKey → Prop) (question : Query) : Prop :=
  ∀ d status, question.Reports d status → keys d.key

theorem reportsWithin_of_noReport {question : Query} (noReport : question.isReport = false)
    (keys : ObjectKey → Prop) : question.ReportsWithin keys := by
  intro d status reports
  cases question with
  | api request =>
    obtain rfl : request = Source.reportRequest d status := reports
    cases noReport
  | reportDeclared _ _ => cases noReport
  | _ => cases reports

theorem isLocal_of_isNews {d : Declaration} {question : Query} (news : question.IsNews d) :
    question.IsLocal := by
  cases question with
  | api request =>
    obtain ⟨status, reports⟩ := news
    exact ⟨d, status, reports⟩
  | _ => first | trivial | exact absurd news.choose_spec id

/-- The key of the declaration that a report is about can be read off the question. -/
theorem key_of_isNews {d d' : Declaration} {status : RoleStatus} {question : Query}
    (news : question.IsNews d) (reports : question.Reports d' status) : d'.key = d.key := by
  cases question with
  | api request =>
    obtain ⟨status', same⟩ := news
    obtain rfl : request = Source.reportRequest d' status := reports
    have path := congrArg ApiRequest.path (same : _ = Source.reportRequest d status')
    simp only [Source.reportRequest, ApiPath.mk.injEq, Option.some.injEq] at path
    simp only [Declaration.key, path]
  | reportDeclared e reported =>
    obtain ⟨status', rfl, -⟩ := news
    obtain ⟨rfl, -⟩ := reports
    rfl
  | _ => cases reports

end Query

/-- Whether resources are the same in their order, but for some with certain keys. -/
def SameResources (touched : ObjectKey → Prop) (resources resources' : List Json) : Prop :=
  List.Forall₂ (fun resource resource' => resourceKey? resource = resourceKey? resource' ∧
    (resource = resource' ∨ ∃ key, resourceKey? resource = some key ∧ touched key))
    resources resources'

namespace SameResources

variable {touched more : ObjectKey → Prop} {resources resources' : List Json}

theorem refl (touched : ObjectKey → Prop) (resources : List Json) :
    SameResources touched resources resources :=
  List.forall₂_same.mpr fun _ _ => ⟨rfl, .inl rfl⟩

theorem symm (same : SameResources touched resources resources') :
    SameResources touched resources' resources := by
  refine List.Forall₂.flip (same.imp fun resource resource' related => ?_)
  obtain ⟨keys, rfl | ⟨key, keyed, isTouched⟩⟩ := related
  · exact ⟨rfl, .inl rfl⟩
  · exact ⟨keys.symm, .inr ⟨key, keys ▸ keyed, isTouched⟩⟩

theorem mono (same : SameResources touched resources resources')
    (weaker : ∀ key, touched key → more key) : SameResources more resources resources' :=
  same.imp fun _ _ related =>
    ⟨related.1, related.2.imp_right fun ⟨key, keyed, isTouched⟩ => ⟨key, keyed, weaker key isTouched⟩⟩

/-- A resource that was not touched is found in both. -/
theorem find? (same : SameResources touched resources resources') {key : ObjectKey}
    (untouched : ¬ touched key) :
    resources.find? (fun resource => resourceKey? resource = some key) =
      resources'.find? (fun resource => resourceKey? resource = some key) := by
  induction same with
  | nil => rfl
  | cons first _ ih =>
    obtain ⟨keys, related⟩ := first
    rw [List.find?_cons, List.find?_cons, ← keys]
    split
    · rename_i found
      rcases related with rfl | ⟨key', keyed, isTouched⟩
      · rfl
      · obtain rfl : key' = key := Option.some.inj (keyed.symm.trans (of_decide_eq_true found))
        exact absurd isTouched untouched
    · exact ih

/-- A patch of both keeps them the same. -/
theorem patch (same : SameResources touched resources resources') (key : ObjectKey)
    (status : RoleStatus) :
    SameResources touched (resources.map (Source.patchIf key status))
      (resources'.map (Source.patchIf key status)) := by
  refine List.rel_map (fun resource resource' related => ?_) same
  rw [(Source.patchIf_keys key status resource).1, (Source.patchIf_keys key status resource').1]
  obtain ⟨keys, rfl | isTouched⟩ := related
  · exact ⟨rfl, .inl rfl⟩
  · exact ⟨keys, .inr isTouched⟩

/-- A patch of one of them makes a difference under its key. -/
theorem patch_left (same : SameResources touched resources resources') {key : ObjectKey}
    (isTouched : touched key) (status : RoleStatus) :
    SameResources touched (resources.map (Source.patchIf key status)) resources' := by
  refine List.forall₂_map_left_iff.mpr (same.imp fun resource resource' related => ?_)
  rw [(Source.patchIf_keys key status resource).1]
  refine ⟨related.1, ?_⟩
  by_cases keyed : resourceKey? resource = some key
  · exact .inr ⟨key, keyed, isTouched⟩
  · rw [Source.patchIf, if_neg keyed]
    exact related.2

end SameResources

namespace World

/-- What comes of the report of a status to a resource. -/
theorem serve_reportRequest_eq (w : World) (d : Declaration) (status : RoleStatus) :
    serve (.api (Source.reportRequest d status)) w =
      match w.faults.report.get? d.key.text with
      | some detail => (.failed detail, w)
      | none =>
          match w.resources.find? fun resource => resourceKey? resource = some d.key with
          | none => (.failed "no such resource", w)
          | some resource =>
              (.answered 200 (.json (patchStatus (Source.statusPatch status) resource)),
                { w with resources := w.resources.map (Source.patchIf d.key status) }) := rfl

variable {touched : ObjectKey → Prop} {w w' : World} {q q' : Query}

/-- All that local questions change are secrets, declarations and resources. -/
theorem state_of_isLocal (isLocal : q.IsLocal) (w : World) :
    ∃ secrets declarations resources,
      (serve q w).2 = { w with secrets, declarations, resources } := by
  rcases serve_state q w with changed | ⟨⟨_, _, _, rfl⟩, -⟩
  · exact changed
  · cases isLocal

/-- A local question makes a difference to resources only where it reports. -/
theorem sameResources_left {resources : List Json} (isLocal : q.IsLocal)
    (within : q.ReportsWithin touched) (same : SameResources touched w.resources resources) :
    SameResources touched (serve q w).2.resources resources := by
  cases q with
  | createSecret s =>
    rcases createSecret_cases w s with ⟨e, served⟩ | served <;> rw [served] <;> exact same
  | updateSecret s =>
    rcases updateSecret_cases w s with ⟨e, served⟩ | served <;> rw [served] <;> exact same
  | deleteSecret key =>
    rcases deleteSecret_cases w key with ⟨e, served⟩ | served <;> rw [served] <;> exact same
  | reportDeclared d status =>
    obtain ⟨declarations, served⟩ := reportDeclared_state w d status
    rw [served]
    exact same
  | api request =>
    obtain ⟨d, status, rfl⟩ := isLocal
    rcases Source.serve_reportRequest w d status with ⟨detail, served⟩ | ⟨body, served⟩ <;>
      rw [served]
    · exact same
    · exact same.patch_left (within d status rfl) status
  | log _ => exact same
  | recordEvent _ => exact same
  | _ => cases isLocal

/-- The answer to a write tells whether there is a fault, and no more. -/
theorem answer_of_serveWrite {faults faults' : Fields String} {key key' : ObjectKey}
    (keys : key = key') (fails : faults.get? key.text = faults'.get? key'.text)
    (failure : ObjectKey → ApiError → StoreError) (secrets secrets' : List Secret)
    (same : SameResources touched w.resources w'.resources) :
    HEq (w.serveWrite faults failure key secrets).1 (w'.serveWrite faults' failure key' secrets').1 ∧
      SameResources touched (w.serveWrite faults failure key secrets).2.resources
        (w'.serveWrite faults' failure key' secrets').2.resources := by
  subst keys
  unfold serveWrite
  rw [← fails]
  split <;> exact ⟨HEq.rfl, same⟩

theorem answer_of_report {d : Declaration} {status : RoleStatus}
    (fails : w.faults.report.get? d.key.text = w'.faults.report.get? d.key.text)
    (untouched : ¬ touched d.key) (same : SameResources touched w.resources w'.resources) :
    (serve (.api (Source.reportRequest d status)) w).1 =
        (serve (.api (Source.reportRequest d status)) w').1 ∧
      SameResources touched (serve (.api (Source.reportRequest d status)) w).2.resources
        (serve (.api (Source.reportRequest d status)) w').2.resources := by
  rw [serve_reportRequest_eq, serve_reportRequest_eq, ← fails, ← same.find? untouched]
  split
  · exact ⟨rfl, same⟩
  · split
    · exact ⟨rfl, same⟩
    · exact ⟨rfl, same.patch d.key status⟩

/-- Alike local questions are answered the same where the same faults are on them, but for reports
on what was touched. -/
theorem answer_of_isLocal (alike : q.SameBut Secret.sealedKeys q') (isLocal : q.IsLocal)
    (fails : w.faultOn q = w'.faultOn q') (untouched : q.ReportsWithin (¬ touched ·))
    (same : SameResources touched w.resources w'.resources) :
    Reply.Alike q q' (serve q w).1 (serve q' w').1 ∧
      SameResources touched (serve q w).2.resources (serve q' w').2.resources := by
  cases alike with
  | create written => exact answer_of_serveWrite written.alike.key fails .create _ _ same
  | update written => exact answer_of_serveWrite written.alike.key fails .update _ _ same
  | same =>
    cases q with
    | createSecret s => exact answer_of_serveWrite rfl fails .create _ _ same
    | updateSecret s => exact answer_of_serveWrite rfl fails .update _ _ same
    | deleteSecret key => exact answer_of_serveWrite rfl fails .delete _ _ same
    | log record => exact ⟨HEq.rfl, same⟩
    | recordEvent event => exact ⟨HEq.rfl, same⟩
    | reportDeclared d status =>
      have fails : w.faults.report.get? d.key.text = w'.faults.report.get? d.key.text := fails
      change HEq (serve (.reportDeclared d status) w).1 (serve (.reportDeclared d status) w').1 ∧
        SameResources touched (serve (.reportDeclared d status) w).2.resources
          (serve (.reportDeclared d status) w').2.resources
      simp only [serve, ← fails]
      split <;> exact ⟨HEq.rfl, same⟩
    | api request =>
      obtain ⟨d, status, rfl⟩ := isLocal
      obtain ⟨answers, resources⟩ := answer_of_report fails (untouched d status rfl) same
      exact ⟨heq_of_eq answers, resources⟩
    | _ => cases isLocal

end World

end RoleSecrets
