import RoleSecrets.Proofs.TickSteps

/-! # Turns over keyed items

A tick goes through orphans, managed secrets and missing declarations, each item under a key of its
own. A `Phase` says what one turn does with its item and that it keeps to the item's key; what a
whole pass does follows, since no later turn undoes an earlier one.
-/

namespace RoleSecrets.Tick

variable {γ : Type}

/-- What is known of the turns of a loop. `Frame keys` relates worlds that differ under these keys
at most; `Before` is what a turn relies on, `Done` what it has achieved where nothing failed, and
`Chunk` what holds of its steps. The last list of steps always holds all that were made so far. -/
structure Phase (f : Progress → γ → Controller Progress) where
  key : γ → ObjectKey
  /-- What holds between turns. -/
  Going : Progress → World → List World.Step → Prop
  Frame : List ObjectKey → World → World → Prop
  Before : γ → World → Prop
  Done : γ → World → List World.Step → Prop
  Chunk : γ → (chunk all : List World.Step) → Prop
  frame_refl : ∀ w, Frame [] w w
  frame_trans : ∀ {keys others first second third},
    Frame keys first second → Frame others second third → Frame (keys ++ others) first third
  before_frame : ∀ {item keys w after}, key item ∉ keys → Frame keys w after →
    Before item w → Before item after
  done_frame : ∀ {item keys w after past more}, key item ∉ keys → Frame keys w after →
    Done item w past → Done item after (past ++ more)
  chunk_more : ∀ {item chunk all more}, Chunk item chunk all → Chunk item chunk (all ++ more)
  turn : ∀ item p w past, Going p w past → Before item w →
    Going (w.run (f p item)).value (w.run (f p item)).state (past ++ (w.run (f p item)).steps) ∧
      Frame [key item] w (w.run (f p item)).state ∧
      Chunk item (w.run (f p item)).steps (past ++ (w.run (f p item)).steps) ∧
      p.summary.failed ≤ (w.run (f p item)).value.summary.failed ∧
      ((w.run (f p item)).value.summary.failed = p.summary.failed →
        Done item (w.run (f p item)).state (past ++ (w.run (f p item)).steps))

/-- What a pass over some items has done. -/
structure Phase.Passed {f : Progress → γ → Controller Progress} (φ : Phase f) (items : List γ)
    (p : Progress) (w : World) (past : List World.Step) (o : World.Outcome Progress) : Prop where
  going : φ.Going o.value o.state (past ++ o.steps)
  frame : φ.Frame (items.map φ.key) w o.state
  /-- The steps are those of the items, in their order. -/
  chunks : ∃ chunks, o.steps = chunks.flatten ∧
    List.Forall₂ (fun item chunk => φ.Chunk item chunk (past ++ o.steps)) items chunks
  failed_le : p.summary.failed ≤ o.value.summary.failed
  done : o.value.summary.failed = p.summary.failed →
    ∀ item ∈ items, φ.Done item o.state (past ++ o.steps)

theorem Phase.pass {f : Progress → γ → Controller Progress} (φ : Phase f) {items : List γ}
    (distinct : (items.map φ.key).Nodup) {p : Progress} {w : World} {past : List World.Step}
    (going : φ.Going p w past) (before : ∀ item ∈ items, φ.Before item w) :
    φ.Passed items p w past (w.run (items.foldlM f p)) := by
  induction items generalizing p w past with
  | nil =>
    rw [List.foldlM_nil, World.run_pure]
    exact ⟨by simpa using going, φ.frame_refl w, ⟨[], rfl, .nil⟩, Nat.le_refl _, by simp⟩
  | cons item items ih =>
    obtain ⟨apart, restDistinct⟩ := List.nodup_cons.mp distinct
    obtain ⟨goingOn, frame, chunk, failed, done⟩ :=
      φ.turn item p w past going (before item (List.mem_cons_self ..))
    rw [List.foldlM_cons, World.run_bind]
    -- what the later turns rely on is under other keys
    have beforeRest : ∀ other ∈ items, φ.Before other (w.run (f p item)).state := by
      intro other member
      refine φ.before_frame ?_ frame (before other (List.mem_cons_of_mem _ member))
      rw [List.mem_singleton]
      exact fun same => apart (same ▸ List.mem_map_of_mem member)
    obtain ⟨goingRest, frameRest, ⟨chunks, flat, related⟩, failedRest, doneRest⟩ :=
      ih restDistinct goingOn beforeRest
    rw [List.append_assoc] at goingRest
    refine ⟨goingRest, φ.frame_trans frame frameRest, ?_, Nat.le_trans failed failedRest, ?_⟩
    · refine ⟨(w.run (f p item)).steps :: chunks, by rw [List.flatten_cons, flat], .cons ?_ ?_⟩
      · rw [← List.append_assoc]
        exact φ.chunk_more chunk
      · rw [List.append_assoc] at related
        exact related
    · intro noFailure other member
      dsimp only at noFailure
      rw [← List.append_assoc]
      rcases List.mem_cons.mp member with rfl | later
      · exact φ.done_frame apart frameRest (done (by omega))
      · exact doneRest (by omega) other later

end RoleSecrets.Tick
