import Mathlib.Data.Nat.PSub
import RoleSecrets.Proofs.Cutting
import RoleSecrets.RoleArn

/-! # Session names fit

The steps to a session name subtract lengths from budgets and cut texts. `joinRev?` and `checked?`
take the same steps but stop at a subtraction that would go below zero and at a cut that does not
end a character. They never stop, so the lengths and cuts are always right, whatever the text.
-/

namespace RoleSecrets

namespace SessionName

open Text

/-- `joinRev`, as long as no step fails. -/
def joinRev? : (levels : List (List Char)) → (budget : Nat) → Option (List Char)
  | [], _ => some []
  | last :: others, budget =>
      if budget < 2 then some []
      else do
        let share := max 1 (budget - (others.length * 2 + 1))
        let segment ← truncate? share (replaceChar ':' '_' last)
        let budget ← (budget.psub (byteLength segment)).bind (Nat.psub · 1)
        return (← joinRev? others budget) ++ '.' :: segment

/-- The session name for a role ARN, or none where the ARN has no path, as long as no step fails. -/
def checked? (scope roleArn : List Char) : Option (Option (List Char)) :=
  match splitOn '/' roleArn with
  | head :: level :: levels => do
      let account ← truncate? maxLength (dropEnd ":role".toList (dropStart scope head))
      let budget ← Nat.psub maxLength (byteLength account)
      return some (account ++ (← joinRev? (level :: levels).reverse budget))
  | _ => some none

/-- A segment leaves the budget its dot. -/
theorem byteLength_segment_lt {budget : Nat} (room : ¬ budget < 2) (others : Nat)
    (text : List Char) :
    byteLength (takeBytes (max 1 (budget - (others * 2 + 1))) text) < budget := by
  have := byteLength_takeBytes_le (max 1 (budget - (others * 2 + 1))) text
  omega

theorem byteLength_joinRev_le (levels : List (List Char)) (budget : Nat) :
    byteLength (joinRev levels budget) ≤ budget := by
  induction levels generalizing budget with
  | nil => exact Nat.zero_le _
  | cons last others ih =>
    rw [joinRev]
    split
    · exact Nat.zero_le _
    · rename_i room
      have segment := byteLength_segment_lt room others.length (replaceChar ':' '_' last)
      have rest := ih (budget - byteLength (takeBytes (max 1 (budget - (others.length * 2 + 1)))
        (replaceChar ':' '_' last)) - 1)
      have dot : Char.utf8Size '.' = 1 := rfl
      dsimp only
      rw [byteLength_append, byteLength_cons, dot]
      omega

theorem joinRev?_eq (levels : List (List Char)) (budget : Nat) :
    joinRev? levels budget = some (joinRev levels budget) := by
  induction levels generalizing budget with
  | nil => rfl
  | cons last others ih =>
    rw [joinRev?, joinRev]
    split
    · rfl
    · rename_i room
      have segment := byteLength_segment_lt room others.length (replaceChar ':' '_' last)
      dsimp only
      rw [truncate?_eq, Option.bind_eq_bind, Option.bind_some, Nat.psub_eq_sub segment.le,
        Option.bind_some, Nat.psub_eq_sub (by omega), Option.bind_eq_bind, Option.bind_some, ih]
      rfl

theorem byteLength_account_le (scope head : List Char) :
    byteLength (account scope head) ≤ maxLength := byteLength_takeBytes_le ..

theorem checked?_eq (scope roleArn : List Char) :
    checked? scope roleArn = some (ofChars? scope roleArn) := by
  rw [checked?, ofChars?]
  rcases splitOn '/' roleArn with _ | ⟨head, _ | ⟨level, levels⟩⟩
  · rfl
  · rfl
  · dsimp only
    rw [truncate?_eq, ← account, Option.bind_eq_bind, Option.bind_some,
      Nat.psub_eq_sub (byteLength_account_le scope head), Option.bind_eq_bind, Option.bind_some,
      joinRev?_eq]
    rfl

theorem byteLength_ofLevels_le {account : List Char} (fits : byteLength account ≤ maxLength)
    (levels : List (List Char)) : byteLength (ofLevels account levels) ≤ maxLength := by
  have rest := byteLength_joinRev_le levels.reverse (maxLength - byteLength account)
  rw [ofLevels, byteLength_append]
  omega

theorem ofChars?_of_notMem {scope roleArn : List Char} (pathless : '/' ∉ roleArn) :
    ofChars? scope roleArn = none := by
  rw [ofChars?, splitOn_of_notMem pathless]

theorem ofChars?_of_mem (scope : List Char) {roleArn : List Char} (path : '/' ∈ roleArn) :
    ∃ name, ofChars? scope roleArn = some name ∧ byteLength name ≤ maxLength := by
  obtain ⟨head, level, levels, pieces⟩ := splitOn_of_mem path
  refine ⟨ofLevels (account scope head) (level :: levels), by rw [ofChars?, pieces], ?_⟩
  exact byteLength_ofLevels_le (byteLength_account_le scope head) _

end SessionName

namespace RoleArn

open SessionName

/-- An ARN has a session name if it has a path, and that name fits. On the way to it no length goes
below zero and every cut ends a character; the segments keep to any budget, whatever they are. -/
theorem sessionName_fits (scope roleArn : String) :
    (sessionName scope roleArn = .error (.noPath roleArn) ↔ '/' ∉ roleArn.toList) ∧
    ((∃ name, sessionName scope roleArn = .ok name ∧ name.utf8ByteSize ≤ 64) ↔
      '/' ∈ roleArn.toList) ∧
    checked? scope.toList roleArn.toList = some (ofChars? scope.toList roleArn.toList) ∧
    ∀ levels budget, joinRev? levels budget = some (joinRev levels budget) ∧
      Text.byteLength (joinRev levels budget) ≤ budget := by
  refine ⟨?_, ?_, checked?_eq .., fun levels budget =>
    ⟨joinRev?_eq levels budget, byteLength_joinRev_le levels budget⟩⟩
  all_goals
    by_cases path : '/' ∈ roleArn.toList
    · obtain ⟨name, found, fits⟩ := ofChars?_of_mem scope.toList path
      rw [Text.byteLength_eq] at fits
      simp [sessionName, found, path, show (String.ofList name).utf8ByteSize ≤ 64 from fits]
    · simp [sessionName, ofChars?_of_notMem path, path]

end RoleArn

end RoleSecrets
