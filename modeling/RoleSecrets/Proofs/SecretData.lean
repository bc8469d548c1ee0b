import RoleSecrets.Credentials
import RoleSecrets.Proofs.Rfc3339

/-! # What is written into a secret is read back

The data of a secret holds the role's ARN, the time of expiry and the declared generation as text.
Each of them is read back from any secret with this data, whatever else the secret holds.
-/

namespace RoleSecrets

/-- The bytes of a text are the text. -/
theorem fromUTF8?_toUTF8 (text : String) : String.fromUTF8? text.toUTF8 = some text := by
  have valid : text.toUTF8.IsValidUTF8 := text.isValidUTF8
  rw [String.fromUTF8?, dif_pos valid]
  rfl

/-- Whether a declaration can stem from a resource: generations are signed words of 64 bits. -/
def Declaration.HasWordGeneration (d : Declaration) : Prop :=
  ∀ generation, d.generation = some generation → Decimal.fitsInt64 generation = true

namespace Declaration

variable {d : Declaration} {c : Credentials}

/-- The generation is kept beside the credentials and in place of none of them. -/
theorem get?_secretData {key : String} (other : Secret.generationKey ≠ key) :
    (d.secretData c).get? key = c.secretData.get? key := by
  unfold secretData
  cases d.generation with
  | none => rfl
  | some generation => exact Fields.get?_put_of_ne other _ _

theorem get?_generation_secretData :
    (d.secretData c).get? Secret.generationKey =
      d.generation.map fun generation => (String.ofList (Decimal.ofInt generation)).toUTF8 := by
  unfold secretData
  cases d.generation with
  | none => rfl
  | some generation => exact Fields.get?_put_self _ _ _

end Declaration

namespace Secret

variable {s : Secret} {d : Declaration} {c : Credentials}

theorem text?_roleArn (written : s.data = some (d.secretData c)) :
    s.text? roleArnKey = some c.roleArn := by
  have found : (d.secretData c).get? roleArnKey = some c.roleArn.toUTF8 := by
    rw [Declaration.get?_secretData (by decide)]
    rfl
  simp only [text?, written, found, Option.bind_eq_bind, Option.bind_some, fromUTF8?_toUTF8]

theorem text?_expire (written : s.data = some (d.secretData c)) :
    s.text? expireKey = some (Rfc3339.format c.expiration) := by
  have found : (d.secretData c).get? expireKey = some (Rfc3339.format c.expiration).toUTF8 := by
    rw [Declaration.get?_secretData (by decide)]
    rfl
  simp only [text?, written, found, Option.bind_eq_bind, Option.bind_some, fromUTF8?_toUTF8]

/-- The time of expiry comes back as the start of its second. -/
theorem expiration?_written (written : s.data = some (d.secretData c))
    (inYears : c.expiration.HasFourDigitYear) :
    s.expiration? = some c.expiration.startOfSecond := by
  rw [expiration?, text?_expire written, Option.bind_some, Rfc3339.parse?_format inYears]

/-- A time of expiry in another year is kept, but does not come back. -/
theorem expiration?_eq_none (written : s.data = some (d.secretData c))
    (outside : ¬ c.expiration.HasFourDigitYear) : s.expiration? = none := by
  rw [expiration?, text?_expire written, Option.bind_some, Rfc3339.parse?_format_eq_none outside]

/-- The generation comes back, and none where there is none. -/
theorem generation?_written (written : s.data = some (d.secretData c))
    (word : d.HasWordGeneration) : s.generation? = d.generation := by
  simp only [generation?, text?, written, Option.bind_eq_bind, Option.bind_some,
    Declaration.get?_generation_secretData]
  cases same : d.generation with
  | none => rfl
  | some generation =>
    simp only [Option.map_some, Option.bind_some, fromUTF8?_toUTF8, String.toList_ofList]
    exact Decimal.readInt64?_ofInt (word generation same)

/-- A secret that credentials were written into tells of them what was issued: the ARN, the generation
they were issued for, and the start of the second they expire in, for which the status is the same.
In years without four digits there is no telling when they expire. -/
theorem tells_what_was_issued (written : s.data = some (d.secretData c))
    (word : d.HasWordGeneration) :
    s.text? roleArnKey = some c.roleArn ∧ s.generation? = d.generation ∧
    (c.expiration.HasFourDigitYear → ∃ recorded, s.expiration? = some recorded ∧
      recorded.seconds = c.expiration.seconds ∧
      recorded.nanos = (if c.expiration.isLeapSecond then 1000000000 else 0) ∧
      recorded ≤ c.expiration ∧ c.expiration.nanos < recorded.nanos + 1000000000 ∧
      ∀ generation roleArn, RoleStatus.of generation roleArn recorded =
        RoleStatus.of generation roleArn c.expiration) ∧
    (¬ c.expiration.HasFourDigitYear → s.expiration? = none) := by
  refine ⟨text?_roleArn written, generation?_written written word, fun inYears => ?_,
    expiration?_eq_none written⟩
  exact ⟨_, expiration?_written written inYears, rfl, rfl, c.expiration.startOfSecond_le,
    c.expiration.nanos_lt_startOfSecond, fun _ _ => rfl⟩

section Sample

/-- Credentials that expire at an instant given in seconds and nanoseconds. -/
private def sampleCredentials (seconds : Int) (nanos : Nat) : Credentials where
  accessKeyId := "AKIA"
  secretAccessKey := "secret"
  sessionToken := "token"
  expiration := (Timestamp.ofPair? seconds nanos).getD .epoch
  roleArn := "arn:aws:iam::1:role/reader"

/-- A declaration with the least generation. -/
private def sampleDeclaration : Declaration where
  ns := "apps"
  secretName := "reader"
  role := "reader"
  duration := 900
  generation := some (-9223372036854775808)

/-- A secret that these credentials were written into. -/
private def sample (seconds : Int) (nanos : Nat) : Secret where
  data := some (sampleDeclaration.secretData (sampleCredentials seconds nanos))

end Sample

/-- Credentials that expire within the last leap second of 2016, and right after the year 9999. -/
theorem tells_what_was_issued_sample :
    (∃ recorded, (sample 1483228799 1500000000).expiration? = some recorded ∧
      recorded.seconds = 1483228799 ∧ recorded.nanos = 1000000000) ∧
    (sample 253402300800 0).generation? = some (-9223372036854775808) ∧
    (sample 253402300800 0).expiration? = none := by
  have word : sampleDeclaration.HasWordGeneration := fun _ same => Option.some.inj same ▸ by decide
  obtain ⟨-, -, inYears, -⟩ := tells_what_was_issued (s := sample 1483228799 1500000000) rfl word
  obtain ⟨recorded, read, seconds, nanos, -⟩ := inYears (by decide)
  obtain ⟨-, generation, -, outside⟩ := tells_what_was_issued (s := sample 253402300800 0) rfl word
  exact ⟨⟨recorded, read, seconds, nanos⟩, generation, outside (by decide)⟩

end Secret

end RoleSecrets
