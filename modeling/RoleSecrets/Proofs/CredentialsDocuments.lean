import RoleSecrets.Credentials
import RoleSecrets.Proofs.Cutting
import RoleSecrets.Proofs.JsonText
import RoleSecrets.Proofs.SecretData

/-! # The documents of a secret hold the credentials

The credentials document is read as JSON, whatever the credentials consist of. The credentials file
is read line by line, so that no value may hold a line break. Both give the keys of the session, and
the time of expiry as it is recorded beside them.
-/

namespace RoleSecrets

namespace CredentialsFile

def line (entry : String × String) : List Char :=
  entry.1.toList ++ ' ' :: '=' :: ' ' :: entry.2.toList

theorem assignment?_line {entry : String × String} (named : '=' ∉ entry.1.toList) :
    assignment? (line entry) = some entry := by
  obtain ⟨name, value⟩ := entry
  have before : '=' ∉ name.toList ++ [' '] := by simpa using named
  have cut : Text.cutAt? '=' (line (name, value)) =
      some (name.toList ++ [' '], ' ' :: value.toList) := by
    rw [← Text.cutAt?_append before, line, List.append_assoc, List.singleton_append]
  have after : Text.dropStart? [' '] (' ' :: value.toList) = some value.toList :=
    Text.dropStart?_eq_some_iff.mpr rfl
  simp only [assignment?, cut, Text.dropEnd?_append, after, Option.bind_eq_bind, Option.bind_some,
    String.ofList_toList, Option.pure_def]

theorem mapM_line {entries : List (String × String)}
    (named : ∀ entry ∈ entries, '=' ∉ entry.1.toList) :
    (entries.map line).mapM assignment? = some entries := by
  induction entries with
  | nil => rfl
  | cons entry entries ih =>
    obtain ⟨first, later⟩ := List.forall_mem_cons.mp named
    rw [List.map_cons, List.mapM_cons, assignment?_line first, ih later]
    rfl

theorem lines?_ended {lines : List (List Char)} (whole : ∀ line ∈ lines, '\n' ∉ line) :
    lines? (lines.flatMap (· ++ ['\n'])) = some lines := by
  have pieces : Text.splitOn '\n' (lines.flatMap (· ++ ['\n'])) = lines ++ [[]] := by
    induction lines with
    | nil => rfl
    | cons line lines ih =>
      obtain ⟨first, later⟩ := List.forall_mem_cons.mp whole
      rw [List.flatMap_cons, List.append_assoc, List.singleton_append, Text.splitOn_append first,
        ih later, List.cons_append]
  rw [lines?, pieces, List.reverse_append, List.reverse_singleton, List.singleton_append]
  exact congrArg some lines.reverse_reverse

/-- A file of such lines is read as it was put together, where neither a name nor a value can be
mistaken for more. -/
theorem read?_lines {entries : List (String × String)}
    (named : ∀ entry ∈ entries, '=' ∉ entry.1.toList) (whole : ∀ entry ∈ entries, '\n' ∉ line entry)
    {text : String}
    (written : text.toList = ("[default]".toList :: entries.map line).flatMap (· ++ ['\n'])) :
    read? text = some entries := by
  have lines : lines? text.toList = some ("[default]".toList :: entries.map line) := by
    rw [written]
    refine lines?_ended (List.forall_mem_cons.mpr ⟨by decide, fun line member => ?_⟩)
    obtain ⟨entry, inside, rfl⟩ := List.mem_map.mp member
    exact whole entry inside
  simp only [read?, lines, Option.bind_eq_bind, Option.bind_some, if_true, mapM_line named]

end CredentialsFile

namespace Credentials

variable (c : Credentials)

/-- The text under a key of the data that holds credentials, where it is UTF-8. -/
def text? (key : String) : Option String := (c.secretData.get? key).bind String.fromUTF8?

theorem text?_eq {key text : String} (kept : c.secretData.get? key = some text.toUTF8) :
    c.text? key = some text := by
  rw [text?, kept, Option.bind_some, fromUTF8?_toUTF8]

/-- The keys of a session, without their time of expiry. -/
def keys : List String := [c.accessKeyId, c.secretAccessKey, c.sessionToken]

theorem toList_foldl_line (entries : List (String × String)) (start : String) :
    (entries.foldl (fun text (name, value) => text ++ name ++ " = " ++ value ++ "\n") start).toList =
      start.toList ++ (entries.map CredentialsFile.line).flatMap (· ++ ['\n']) := by
  induction entries generalizing start with
  | nil => rw [List.foldl_nil, List.map_nil, List.flatMap_nil, List.append_nil]
  | cons entry entries ih =>
    rw [List.foldl_cons, ih, List.map_cons, List.flatMap_cons]
    simp [CredentialsFile.line]

theorem read?_file (whole : ∀ key ∈ c.keys, '\n' ∉ key.toList) :
    CredentialsFile.read? c.file = some c.fileEntries := by
  have named : ∀ entry ∈ c.fileEntries, '=' ∉ entry.1.toList ∧ '\n' ∉ entry.1.toList := by
    simp only [fileEntries, List.forall_mem_cons]
    decide
  have values : ∀ entry ∈ c.fileEntries, '\n' ∉ entry.2.toList := by
    simpa [fileEntries, keys, Rfc3339.newline_notMem_format] using whole
  refine CredentialsFile.read?_lines (fun entry member => (named entry member).1)
    (fun entry member => ?_) (toList_foldl_line ..)
  simp [CredentialsFile.line, named entry member, values entry member]

theorem document_fits : c.document.Fits Json.maxDepth := by
  change c.document.Fits (126 + 1)
  refine .obj ?_
  simp only [List.forall_mem_cons]
  exact ⟨.int (by decide), .str, .str, .str, .str, by simp⟩

/-- The document and the file of credentials give the keys of the session, and the time of expiry as
it is recorded. Quotes, backslashes and controls in a key do no harm to the document, and only line
breaks to the file. -/
theorem documents_agree :
    ∃ expire, c.text? Secret.expireKey = some expire ∧
      (c.text? Secret.documentKey).bind Json.parse? =
        some (.obj [("Version", .int 1), ("AccessKeyId", .str c.accessKeyId),
          ("SecretAccessKey", .str c.secretAccessKey), ("SessionToken", .str c.sessionToken),
          ("Expiration", .str expire)]) ∧
      ((∀ key ∈ c.keys, '\n' ∉ key.toList) →
        (c.text? Secret.fileKey).bind CredentialsFile.read? =
          some [("aws_access_key_id", c.accessKeyId), ("aws_secret_access_key", c.secretAccessKey),
            ("aws_session_token", c.sessionToken), ("aws_expiration", expire)]) := by
  have expire : c.text? Secret.expireKey = some (Rfc3339.format c.expiration) := c.text?_eq rfl
  have document : c.text? Secret.documentKey = some c.document.write := c.text?_eq rfl
  have file : c.text? Secret.fileKey = some c.file := c.text?_eq rfl
  refine ⟨_, expire, ?_, fun whole => ?_⟩
  · rw [document, Option.bind_some, Json.parse?_write c.document_fits]
    rfl
  · rw [file, Option.bind_some, c.read?_file whole]
    rfl

/-- Credentials with quotes, backslashes and controls, which expire within a leap second. -/
private def oddSample : Credentials where
  accessKeyId := "AK\"IA\\u0041"
  secretAccessKey := "a=b = \x00\x08\x1f\t\r/\x7f"
  sessionToken := "schlüssel \u2028 🔑"
  expiration := (Timestamp.ofPair? 1483228799 1500000000).getD .epoch
  roleArn := "arn:aws:iam::1:role/reader"

theorem documents_agree_odd :
    (oddSample.text? Secret.documentKey).bind Json.parse? =
        some (.obj [("Version", .int 1), ("AccessKeyId", .str "AK\"IA\\u0041"),
          ("SecretAccessKey", .str "a=b = \x00\x08\x1f\t\r/\x7f"),
          ("SessionToken", .str "schlüssel \u2028 🔑"),
          ("Expiration", .str "2016-12-31T23:59:60Z")]) ∧
      (oddSample.text? Secret.fileKey).bind CredentialsFile.read? =
        some [("aws_access_key_id", "AK\"IA\\u0041"),
          ("aws_secret_access_key", "a=b = \x00\x08\x1f\t\r/\x7f"),
          ("aws_session_token", "schlüssel \u2028 🔑"), ("aws_expiration", "2016-12-31T23:59:60Z")] := by
  obtain ⟨expire, told, document, file⟩ := documents_agree oddSample
  have recorded : oddSample.text? Secret.expireKey = some "2016-12-31T23:59:60Z" :=
    oddSample.text?_eq rfl
  obtain rfl := Option.some.inj (recorded.symm.trans told)
  exact ⟨document, file (by decide)⟩

end Credentials

end RoleSecrets
