import RoleSecrets.Declaration
import RoleSecrets.Json.Writer
import RoleSecrets.RoleArn
import RoleSecrets.Text.Printable

/-! # Credentials and the data of a secret

Credentials are keys of a session of a role. In a secret they are kept as a file of `key = value`
lines and as a JSON document, beside the ARN of the role and the time of expiry. The text that is
shown of credentials leaves out whatever is secret. `CredentialsFile.read?` is the reader of such a
file: a line names a section, and each line after it has an equals sign between blanks.
-/

namespace RoleSecrets

/-- The keys of a session, as they are issued. -/
structure SessionKeys where
  accessKeyId : String
  secretAccessKey : String
  sessionToken : String
  expiration : Timestamp
deriving DecidableEq

/-- The keys of a session with the ARN of its role. -/
structure Credentials extends SessionKeys where
  roleArn : String
deriving DecidableEq

/-- Why there are no credentials. -/
inductive CredentialsError
  /-- No session name can be derived from the role's ARN. -/
  | sessionName (roleArn : String) (cause : ArnError)
  /-- The issuer refused, or could not be reached. -/
  | refused (roleArn detail : String)
  /-- The issuer's answer holds no credentials. -/
  | missing (roleArn : String)
  /-- The issuer's time of expiry is out of range. -/
  | badExpiration (roleArn : String)
deriving DecidableEq, Repr

def CredentialsError.message : CredentialsError → String
  | .sessionName arn cause =>
      "Failed to derive a session name for role " ++ arn ++ ", error: " ++ cause.message
  | .refused arn detail => "Failed to assume role " ++ arn ++ ", error: " ++ detail
  | .missing arn => "STS returned no credentials for role " ++ arn
  | .badExpiration arn => "STS returned an out of range expiration for role " ++ arn

/-- The file that tells clients to print the credentials document. -/
def processFile : String :=
  "[default]\ncredential_process = cat /meta/aws-iam/credentials.json\n"

namespace Credentials

/-- The text shown of credentials. -/
def summary (c : Credentials) : String :=
  "Credentials \x7b role_arn: " ++ Text.quoted c.roleArn ++ ", access_key_id: " ++
    Text.quoted c.accessKeyId ++ ", expiration: " ++ Rfc3339.formatExact c.expiration ++ ", .. \x7d"

/-- The names and values of the credentials file, in order. -/
def fileEntries (c : Credentials) : List (String × String) :=
  [("aws_access_key_id", c.accessKeyId), ("aws_secret_access_key", c.secretAccessKey),
    ("aws_session_token", c.sessionToken), ("aws_expiration", Rfc3339.format c.expiration)]

/-- The credentials file: one section with a line for each value. -/
def file (c : Credentials) : String :=
  c.fileEntries.foldl (fun text (name, value) => text ++ name ++ " = " ++ value ++ "\n")
    "[default]\n"

def document (c : Credentials) : Json :=
  .obj [("Version", .int 1), ("AccessKeyId", .str c.accessKeyId),
    ("SecretAccessKey", .str c.secretAccessKey), ("SessionToken", .str c.sessionToken),
    ("Expiration", .str (Rfc3339.format c.expiration))]

/-- The data of a secret that holds the credentials. -/
def secretData (c : Credentials) : Fields ByteArray :=
  [(Secret.fileKey, c.file.toUTF8), (Secret.documentKey, c.document.write.toUTF8),
    (Secret.processKey, processFile.toUTF8),
    (Secret.expireKey, (Rfc3339.format c.expiration).toUTF8),
    (Secret.roleArnKey, c.roleArn.toUTF8)]

end Credentials

/-- The data of a declared secret that holds the credentials, with the declaration's generation
where it has one. -/
def Declaration.secretData (d : Declaration) (c : Credentials) : Fields ByteArray :=
  match d.generation with
  | none => c.secretData
  | some generation =>
      c.secretData.put Secret.generationKey (String.ofList (Decimal.ofInt generation)).toUTF8

namespace CredentialsFile

/-- The name and the value of a line. -/
def assignment? (line : List Char) : Option (String × String) := do
  let (before, after) ← Text.cutAt? '=' line
  let name ← Text.dropEnd? [' '] before
  let value ← Text.dropStart? [' '] after
  return (String.ofList name, String.ofList value)

/-- The lines of a text, each of which is ended by a line break. -/
def lines? (text : List Char) : Option (List (List Char)) :=
  match (Text.splitOn '\n' text).reverse with
  | [] :: lines => some lines.reverse
  | _ => none

/-- The names and values of a file's default section, in order. -/
def read? (text : String) : Option (List (String × String)) := do
  match ← lines? text.toList with
  | header :: lines => if header = "[default]".toList then lines.mapM assignment? else none
  | [] => none

end CredentialsFile

end RoleSecrets
