import RoleSecrets.Proofs.Convergence

/-! # Reports never run ahead of the secrets

Whichever questions fail in a tick, a status is reported only while the store holds a secret that
backs it, and never for a declaration that failed in the tick.
-/

namespace RoleSecrets

open Tick

/-- Looking up what is declared reports nothing and fails for no secret. -/
theorem Tick.silent_of_isLookup {step : World.Step} (lookup : step.question.isLookup = true) :
    Silent step := by
  refine ⟨Query.isReport_of_isLookup lookup, ?_⟩
  obtain ⟨before, question, answer⟩ := step
  cases question with
  | log record =>
    have remark : (⟨before, .log record, answer⟩ : World.Step).question.isRemark = true := lookup
    exact failedKey?_of_isRemark remark
  | _ => first | rfl | cases lookup

/-- In all of a tick, every report is backed and made for a declaration that did not fail. -/
theorem Tick.Ticking.tells {r : Reconciler} {now : Timestamp} {w : World}
    {o : World.Outcome (Except TickError Summary)} (ticking : Ticking r now w o)
    (plain : r.source.Plain) (keyed : Keyed w.secrets) (undisturbed : w.Undisturbed) :
    ∀ step ∈ o.steps, step.question.isReport = true →
      ∃ declarations, (w.run r.source.declarations).value = .ok declarations ∧
        ∃ d ∈ Drift.counting declarations,
          BackedReport r.naming (now.add? r.refreshLimit) d o.steps step ∧
            ∀ other ∈ o.steps, failedKey? other ≠ some d.key := by
  obtain ⟨same, last, lookups⟩ := plain.run_declarations undisturbed
  intro step member reports
  cases ticking with
  | unlisted served =>
    rw [List.mem_singleton.mp member] at reports
    cases reports
  | undeclared asked =>
    rw [asked] at lookups
    rcases List.mem_cons.mp member with rfl | later
    · cases reports
    · rw [(silent_of_isLookup (lookups step later).1).1] at reports
      cases reports
  | carried asked ran =>
    rename_i declarations before steps inner
    rw [asked] at same last lookups
    subst ran
    have early : ∀ other ∈ (⟨w, .listSecrets r.source.selector,
        .ok (w.secrets.filter r.source.selector.selects)⟩ : World.Step) :: steps, Silent other := by
      intro other inside
      rcases List.mem_cons.mp inside with rfl | lookup
      · exact ⟨rfl, rfl⟩
      · exact silent_of_isLookup (lookups other lookup).1
    have carried := carried_plan plain keyed same last now declarations
      (⟨w, .listSecrets r.source.selector, .ok (w.secrets.filter r.source.selector.selects)⟩ :: steps)
    rw [← List.cons_append] at member
    rcases List.mem_append.mp member with before | inPlan
    · rw [(early step before).1] at reports
      cases reports
    · obtain ⟨d, planned, backed, noFailure⟩ := carried.told step inPlan reports
      have counts := (r.plan_fits now declarations keyed).declarations_perm.subset planned
      refine ⟨declarations, by rw [asked], d, counts, backed, ?_⟩
      intro other inside
      rw [← List.cons_append] at inside
      rcases List.mem_append.mp inside with before | during
      · rw [(early other before).2]
        exact fun failed => by cases failed
      · exact noFailure other during

/-- At every report of a status, the store of that moment holds a secret which backs the status; it
is news about a declaration with a generation, and nothing has failed for it in the tick. -/
theorem Reconciler.reports_backed (r : Reconciler) (plain : r.source.Plain) (now : Timestamp)
    (w : World) (keyed : Keyed w.secrets) (undisturbed : w.Undisturbed)
    (inYears : IssuedInYears (w.run (r.tick now)).steps)
    (words : ∀ declarations, (w.run r.source.declarations).value = .ok declarations →
      ∀ d ∈ declarations, d.HasWordGeneration) :
    ∀ step ∈ (w.run (r.tick now)).steps, step.question.isReport = true →
      ∃ declarations, (w.run r.source.declarations).value = .ok declarations ∧
        ∃ d ∈ Drift.counting declarations, ∃ status, step.question.Reports d status ∧
          d.generation = some status.generation ∧ d.status ≠ some status ∧
          (∃ s ∈ step.before.secrets, Backs r.naming (now.add? r.refreshLimit) d status s) ∧
          ∀ other ∈ (w.run (r.tick now)).steps, failedKey? other ≠ some d.key := by
  intro step member reports
  obtain ⟨declarations, told, d, counts, ⟨status, asked, generated, news, backed⟩, noFailure⟩ :=
    (run_tick r now w).tells plain keyed undisturbed step member reports
  have word := words declarations told d (Drift.mem_of_mem_counting counts)
  exact ⟨declarations, told, d, counts, status, asked, generated, news, backed inYears word,
    noFailure⟩

theorem Reconciler.reports_backed_sample :
    (World.sample.run (Reconciler.sample.tick .epoch)).steps.any
        (fun step => step.question.isReport) = true ∧
      ∀ step ∈ (World.sample.run (Reconciler.sample.tick .epoch)).steps,
        step.question.isReport = true → ∃ d ∈ World.sample.declarations, ∃ status,
          step.question.Reports d status ∧ ∃ s ∈ step.before.secrets, d.matchesSecret s = true := by
  refine ⟨by decide, fun step member reports => ?_⟩
  have inYears : IssuedInYears (World.sample.run (Reconciler.sample.tick .epoch)).steps :=
    allIssued_of_unscheduled _ rfl (by decide)
  have words : ∀ declarations, (World.sample.run Source.declared.declarations).value =
      .ok declarations → ∀ d ∈ declarations, d.HasWordGeneration := by
    intro declarations told
    obtain rfl : World.sample.declarations = declarations := Except.ok.inj told
    exact Declaration.hasWordGeneration_sample
  obtain ⟨declarations, told, d, counts, status, asked, -, -, ⟨s, held, backs⟩, -⟩ :=
    Reconciler.reports_backed .sample Source.plain_declared .epoch .sample World.keyed_sample
      World.undisturbed_sample inYears words step member reports
  obtain rfl : World.sample.declarations = declarations := Except.ok.inj told
  exact ⟨d, Drift.mem_of_mem_counting counts, status, asked, s, held, backs.found⟩

end RoleSecrets
