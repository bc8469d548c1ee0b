import RoleSecrets.SessionName

/-! # Role ARNs

A role is named by its ARN or, relative to a base ARN, by its path. `RoleNaming` holds the base and
the scope, the start that every full ARN has; both are found from the ARN of an instance profile or
of any role. `RoleNaming.resolve` and `sessionName` are what the rest of the library uses.
-/

namespace RoleSecrets

/-- Why an ARN is of no use. -/
inductive ArnError
  /-- A role ARN has no `/` and so no path. -/
  | noPath (roleArn : String)
  /-- An ARN has too few sections or no partition. -/
  | malformed (arn : String)
  /-- An instance profile ARN has no `/`. -/
  | noProfilePath (profileArn : String)
deriving DecidableEq, Repr

def ArnError.message : ArnError → String
  | .noPath arn => "Invalid role ARN " ++ arn ++ ", expected at least one '/' separated path"
  | .malformed arn =>
      "Failed to parse ARN " ++ arn ++ ", expected arn:partition:service:region:account:resource"
  | .noProfilePath arn => "Failed to determine base role ARN from instance profile " ++ arn

namespace RoleArn

open Text

/-- The session name for a role ARN whose partition has the given scope. -/
def sessionName (scope roleArn : String) : Except ArnError String :=
  match SessionName.ofChars? scope.toList roleArn.toList with
  | some name => .ok (String.ofList name)
  | none => .error (.noPath roleArn)

/-- The scope of a partition: how the ARNs of its roles start. -/
def scopeOf (partitionName : List Char) : List Char :=
  "arn:".toList ++ partitionName ++ ":iam::".toList

/-- The scope of the partition an ARN belongs to. -/
def scope (arn : String) : Except ArnError String :=
  match splitAtMost ':' 5 arn.toList with
  | [start, partitionName, _, _, _, _] =>
      if start = "arn".toList ∧ partitionName ≠ [] then .ok (String.ofList (scopeOf partitionName))
      else .error (.malformed arn)
  | _ => .error (.malformed arn)

/-- The session name for a role ARN, given nothing but the ARN. -/
def ownSessionName (roleArn : String) : Except ArnError String := do
  sessionName (← scope roleArn) roleArn

/-- The base of the roles in the account of an instance profile. -/
def baseOfProfile (profileArn : String) : Except ArnError String :=
  match cutAt? '/' (replaceFirst "instance-profile".toList "role".toList profileArn.toList) with
  | some (head, _) => .ok (String.ofList (head ++ ['/']))
  | none => .error (.noProfilePath profileArn)

end RoleArn

/-- How roles are named: relative names are put behind `base`, full ARNs start with `scope`. -/
structure RoleNaming where
  base : String
  scope : String
deriving DecidableEq, Repr

namespace RoleNaming

def isFull (naming : RoleNaming) (role : String) : Bool :=
  (Text.dropStart? naming.scope.toList role.toList).isSome

def resolve (naming : RoleNaming) (role : String) : String :=
  if naming.isFull role then role else naming.base ++ role

def sessionName (naming : RoleNaming) (roleArn : String) : Except ArnError String :=
  RoleArn.sessionName naming.scope roleArn

end RoleNaming

end RoleSecrets
