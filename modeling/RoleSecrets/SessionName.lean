import RoleSecrets.Text.Basic

/-! # Session names

A session name is derived from a role ARN: the account, then a dot and a segment for each level of
the path, in at most 64 bytes. The last segment is served first and takes what the others can
spare, each of them needing a dot and one character; the earliest levels are dropped where even
that does not fit. Colons are not allowed in session names, so they become underscores.
-/

namespace RoleSecrets.SessionName

open Text

/-- The most bytes a session name may take. -/
def maxLength : Nat := 64

/-- The segments of a path in at most `budget` bytes, each after a dot. The levels come in reverse
order: the last level of the path first. -/
def joinRev : (levels : List (List Char)) → (budget : Nat) → List Char
  | [], _ => []
  | last :: others, budget =>
      if budget < 2 then []
      else
        let share := max 1 (budget - (others.length * 2 + 1))
        let segment := takeBytes share (replaceChar ':' '_' last)
        joinRev others (budget - byteLength segment - 1) ++ '.' :: segment

/-- The account a role ARN belongs to: its head, without the scope and a closing `:role`. -/
def account (scope head : List Char) : List Char :=
  takeBytes maxLength (dropEnd ":role".toList (dropStart scope head))

/-- The session name of an account and the levels of a role's path. -/
def ofLevels (account : List Char) (levels : List (List Char)) : List Char :=
  account ++ joinRev levels.reverse (maxLength - byteLength account)

/-- The session name for a role ARN, given the start that ARNs of the same partition share. There
is none where the ARN has no path. -/
def ofChars? (scope roleArn : List Char) : Option (List Char) :=
  match splitOn '/' roleArn with
  | head :: level :: levels => some (ofLevels (account scope head) (level :: levels))
  | _ => none

end RoleSecrets.SessionName
