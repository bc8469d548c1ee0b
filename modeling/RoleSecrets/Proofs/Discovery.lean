import RoleSecrets.Effect
import RoleSecrets.Proofs.SessionNameShares
import RoleSecrets.World

/-! # From an instance profile to a session

The ARN of an instance profile tells how the roles of its account are named. Its first occurrence of
`instance-profile` is the section of that name, so what stands before the path becomes the base, and
the scope is found from the base again. A role then has one ARN, and the ARN of a relative name has
a session name in which the account stands first and nothing is left that such a name cannot hold.
-/

namespace RoleSecrets

namespace SessionName

open Text

/-- Whether a character may stand in a session name. -/
def isNameChar (c : Char) : Bool := c.isAlphanum || "_+=,.@-".toList.contains c

/-- Whether a character may stand in the name of a role with its path, or in its ARN. -/
def isRoleChar (c : Char) : Bool := isNameChar c || c = ':' || c = '/'

/-- With room for a level there is one, after its dot. -/
theorem joinRev_eq_cons {levels : List (List Char)} {budget : Nat} (path : levels ≠ [])
    (room : 2 ≤ budget) : ∃ rest, joinRev levels budget = '.' :: rest := by
  induction levels generalizing budget with
  | nil => exact absurd rfl path
  | cons last others ih =>
    rw [joinRev, if_neg (Nat.not_lt.mpr room)]
    dsimp only
    generalize takeBytes _ _ = segment
    generalize budget - byteLength segment - 1 = left
    cases others with
    | nil => exact ⟨segment, rfl⟩
    | cons level levels =>
      by_cases more : 2 ≤ left
      · obtain ⟨rest, same⟩ := ih (List.cons_ne_nil level levels) more
        exact ⟨rest ++ '.' :: segment, by rw [same, List.cons_append]⟩
      · rw [joinRev, if_pos (Nat.lt_of_not_le more)]
        exact ⟨segment, rfl⟩

/-- The characters of the segments are dots and those of the levels, with underscores for colons. -/
theorem isNameChar_of_mem_joinRev {levels : List (List Char)}
    (valid : ∀ level ∈ levels, ∀ c ∈ level, isNameChar c = true ∨ c = ':') {budget : Nat} {c : Char}
    (member : c ∈ joinRev levels budget) : isNameChar c = true := by
  induction levels generalizing budget with
  | nil => cases member
  | cons last others ih =>
    obtain ⟨first, rest⟩ := List.forall_mem_cons.mp valid
    rw [joinRev] at member
    split at member
    · cases member
    · rcases List.mem_append.mp member with early | late
      · exact ih rest early
      · rcases List.mem_cons.mp late with rfl | inside
        · rfl
        · obtain ⟨d, inLevel, rfl⟩ := List.mem_map.mp ((takeBytes_isPrefix ..).subset inside)
          split
          · rfl
          · rename_i noColon
            exact (first d inLevel).resolve_right noColon

/-- Whether a session name is one of an account and is taken by the issuer. -/
structure Suits (account name : String) : Prop where
  start : ∃ rest, name = account ++ "." ++ rest
  two_le : 2 ≤ name.length
  le_max : name.length ≤ 64
  plain : ∀ c ∈ name.toList, isNameChar c = true

/-- An account that leaves room for a level has suitable session names. -/
theorem suits_ofLevels {account : String} (some : account ≠ "")
    (plain : ∀ c ∈ account.toList, c.isAlphanum = true) (short : account.utf8ByteSize ≤ 62)
    {levels : List (List Char)} (path : levels ≠ [])
    (valid : ∀ level ∈ levels, ∀ c ∈ level, isNameChar c = true ∨ c = ':') :
    Suits account (String.ofList (ofLevels account.toList levels)) := by
  rw [← String.ofList_toList (s := account), ← byteLength_eq] at short
  have long : 0 < account.toList.length :=
    List.length_pos_iff.mpr fun none => some (by simpa using none)
  have fits := (length_le_byteLength _).trans
    (byteLength_ofLevels_le (short.trans (by decide)) levels)
  obtain ⟨rest, same⟩ := joinRev_eq_cons (mt List.reverse_eq_nil_iff.mp path)
    (show 2 ≤ maxLength - byteLength account.toList by rw [maxLength]; omega)
  have name : ofLevels account.toList levels = account.toList ++ '.' :: rest := by
    rw [ofLevels, same]
  refine ⟨⟨String.ofList rest, ?_⟩, ?_, ?_, fun c member => ?_⟩
  · exact String.toList_injective (by simp [name])
  · rw [String.length_ofList, name, List.length_append, List.length_cons]
    omega
  · rw [String.length_ofList]
    exact fits
  · rw [String.toList_ofList, ofLevels] at member
    rcases List.mem_append.mp member with own | inPath
    · rw [isNameChar, plain c own, Bool.true_or]
    · exact isNameChar_of_mem_joinRev
        (fun level inside => valid level (List.mem_reverse.mp inside)) inPath

/-- The levels of a path hold its characters, but for the slashes between them. -/
theorem isNameChar_of_mem_level {path level : List Char}
    (valid : ∀ c ∈ path, isRoleChar c = true) (inside : level ∈ splitOn '/' path) {c : Char}
    (member : c ∈ level) : isNameChar c = true ∨ c = ':' := by
  obtain ⟨inPath, noSlash⟩ := mem_of_mem_splitOn inside member
  simpa only [isRoleChar, Bool.or_eq_true, decide_eq_true_eq, noSlash, or_false] using valid c inPath

end SessionName

namespace RoleArn

open Text

theorem scopeOf_append (partitionName rest : List Char) :
    scopeOf partitionName ++ rest = "arn".toList ++ ':' :: (partitionName ++ ':' ::
      ("iam".toList ++ ':' :: ([] ++ ':' :: rest))) := by
  change ("arn:".toList ++ partitionName ++ ":iam::".toList) ++ rest = _
  rw [List.append_assoc, List.append_assoc]
  rfl

section Plain

variable {partitionName : List Char} (plain : ':' ∉ partitionName) (rest : List Char)

include plain

/-- A scope stands for four sections. -/
theorem splitOn_scopeOf_append : splitOn ':' (scopeOf partitionName ++ rest) =
    "arn".toList :: partitionName :: "iam".toList :: [] :: splitOn ':' rest := by
  rw [scopeOf_append, splitOn_append (by decide), splitOn_append plain,
    splitOn_append (by decide), splitOn_append List.not_mem_nil]

theorem splitAtMost_scopeOf_append : splitAtMost ':' 5 (scopeOf partitionName ++ rest) =
    "arn".toList :: partitionName :: "iam".toList :: [] :: splitAtMost ':' 1 rest := by
  rw [scopeOf_append, splitAtMost_append (by decide), splitAtMost_append plain,
    splitAtMost_append (by decide), splitAtMost_append List.not_mem_nil]

end Plain

end RoleArn

namespace RoleNaming

/-- How the roles of an account are named. -/
def ofAccount (partitionName account : String) : RoleNaming where
  base := "arn:" ++ partitionName ++ ":iam::" ++ account ++ ":role/"
  scope := "arn:" ++ partitionName ++ ":iam::"

def profileArn (partitionName account path : String) : String :=
  "arn:" ++ partitionName ++ ":iam::" ++ account ++ ":instance-profile/" ++ path

/-- What is known of the names of a partition and of an account in it. -/
structure IsAccount (partitionName account : String) : Prop where
  partition_ne : partitionName ≠ ""
  partition_plain : ':' ∉ partitionName.toList ∧ '/' ∉ partitionName.toList
  partition_other : ¬ "instance-profile".toList <:+: partitionName.toList
  account_ne : account ≠ ""
  account_plain : ∀ c ∈ account.toList, c.isAlphanum = true
  account_short : account.utf8ByteSize ≤ 62

theorem isFull_eq_true_iff {naming : RoleNaming} {role : String} :
    naming.isFull role = true ↔ naming.scope.toList <+: role.toList := by
  rw [isFull, ← Bool.not_eq_false, Option.isSome_eq_false_iff, Option.isNone_iff_eq_none,
    Text.dropStart?_eq_none_iff, Classical.not_not]

theorem resolve_of_isPrefix {naming : RoleNaming} {role : String}
    (full : naming.scope.toList <+: role.toList) : naming.resolve role = role := by
  rw [resolve, if_pos (isFull_eq_true_iff.mpr full)]

theorem resolve_of_not_isPrefix {naming : RoleNaming} {role : String}
    (relative : ¬ naming.scope.toList <+: role.toList) :
    naming.resolve role = naming.base ++ role := by
  rw [resolve, if_neg (mt isFull_eq_true_iff.mp relative)]

/-- A base within the scope leads to full ARNs. -/
theorem isPrefix_resolve {naming : RoleNaming} (within : naming.scope.toList <+: naming.base.toList)
    (role : String) : naming.scope.toList <+: (naming.resolve role).toList := by
  by_cases full : naming.scope.toList <+: role.toList
  · rw [resolve_of_isPrefix full]
    exact full
  · rw [resolve_of_not_isPrefix full, String.toList_append]
    exact within.trans (List.prefix_append ..)

/-- With a session name the issuer is asked, once, and its answer is passed on. -/
theorem run_fetch_of_named {naming : RoleNaming} {role name : String}
    (named : naming.sessionName (naming.resolve role) = .ok name) (duration : Nat) {σ : Type}
    {serve : (question : Query) → σ → Reply question × σ} {state after : σ}
    {answer : Except CredentialsError SessionKeys}
    (served : serve (.assumeRole (naming.resolve role) name duration) state = (answer, after)) :
    Program.run serve (naming.fetch role duration) state =
      ⟨answer.map fun keys => { keys with roleArn := naming.resolve role }, after,
        [⟨state, .assumeRole (naming.resolve role) name duration, answer⟩]⟩ := by
  simp only [fetch, named]
  change Program.run serve (Program.ask _ _) state = _
  rw [Program.run, served]
  cases answer <;> rfl

section Account

variable {partitionName account : String}

theorem IsAccount.notMem_account (known : IsAccount partitionName account) :
    ':' ∉ account.toList ∧ '/' ∉ account.toList :=
  ⟨fun member => absurd (known.account_plain _ member) (by decide),
    fun member => absurd (known.account_plain _ member) (by decide)⟩

/-- What stands before the resource in the ARNs of an account. -/
def headChars (partitionName account : String) : List Char :=
  "arn".toList ++ ':' :: (partitionName.toList ++ ':' ::
    ("iam".toList ++ ':' :: ([] ++ ':' :: account.toList)))

theorem toList_profileArn (path : String) : (profileArn partitionName account path).toList =
    headChars partitionName account ++ ':' :: ("instance-profile".toList ++ '/' :: path.toList) := by
  simp [profileArn, headChars]

theorem toList_base : (ofAccount partitionName account).base.toList =
    headChars partitionName account ++ ':' :: ("role".toList ++ ['/']) := by
  simp [ofAccount, headChars]

theorem toList_scope : headChars partitionName account =
    (ofAccount partitionName account).scope.toList ++ account.toList := by
  simp [ofAccount, headChars]

/-- Nothing before the resource of an ARN looks like that of an instance profile. -/
theorem IsAccount.not_isInfix_head (known : IsAccount partitionName account) :
    ¬ "instance-profile".toList <:+: headChars partitionName account := by
  have absent : ':' ∉ "instance-profile".toList := by decide
  intro inside
  rcases Text.isInfix_or_of_isInfix_append absent inside with arn | inside
  · exact absurd arn (by decide)
  rcases Text.isInfix_or_of_isInfix_append absent inside with own | inside
  · exact known.partition_other own
  rcases Text.isInfix_or_of_isInfix_append absent inside with iam | inside
  · exact absurd iam (by decide)
  rcases Text.isInfix_or_of_isInfix_append absent inside with region | inside
  · exact absurd region (by decide)
  · have dash : '-' ∈ account.toList := inside.subset (by decide)
    exact absurd (known.account_plain _ dash) (by decide)

theorem IsAccount.notMem_head (known : IsAccount partitionName account) :
    '/' ∉ headChars partitionName account := by
  simp [headChars, known.partition_plain.2, known.notMem_account.2]

theorem IsAccount.baseOfProfile (known : IsAccount partitionName account) (path : String) :
    RoleArn.baseOfProfile (profileArn partitionName account path) =
      .ok (ofAccount partitionName account).base := by
  have head : '/' ∉ headChars partitionName account ++ ':' :: "role".toList := by
    simp [known.notMem_head]
  have cut := Text.cutAt?_append head path.toList
  rw [List.append_assoc, List.cons_append] at cut
  rw [RoleArn.baseOfProfile, toList_profileArn,
    Text.replaceFirst_append (by decide) known.not_isInfix_head, cut]
  dsimp only
  rw [← String.ofList_toList (s := (ofAccount partitionName account).base), toList_base,
    List.append_assoc, List.cons_append]

theorem IsAccount.scope_base (known : IsAccount partitionName account) :
    RoleArn.scope (ofAccount partitionName account).base =
      .ok (ofAccount partitionName account).scope := by
  have some : partitionName.toList ≠ [] := fun none =>
    known.partition_ne (String.toList_injective (none.trans String.toList_empty.symm))
  have scope : (ofAccount partitionName account).scope.toList =
      RoleArn.scopeOf partitionName.toList := by
    rw [ofAccount, String.toList_append, String.toList_append]
    rfl
  rw [RoleArn.scope, toList_base, toList_scope, scope, List.append_assoc,
    RoleArn.splitAtMost_scopeOf_append known.partition_plain.1,
    Text.splitAtMost_append known.notMem_account.1, Text.splitAtMost]
  dsimp only
  rw [if_pos ⟨rfl, some⟩, ← scope, String.ofList_toList]

open SessionName Text in
/-- The session name for the ARN of a relative name has the account and the levels of the name. -/
theorem IsAccount.sessionName_base_append (known : IsAccount partitionName account)
    (role : String) :
    (ofAccount partitionName account).sessionName ((ofAccount partitionName account).base ++ role) =
      .ok (String.ofList (ofLevels account.toList (splitOn '/' role.toList))) := by
  have arn : ((ofAccount partitionName account).base ++ role).toList =
      ((ofAccount partitionName account).scope.toList ++ (account.toList ++ ":role".toList)) ++
        '/' :: role.toList := by
    rw [String.toList_append, toList_base, toList_scope]
    simp
  have head : '/' ∉ (ofAccount partitionName account).scope.toList ++
      (account.toList ++ ":role".toList) := by
    rw [← List.append_assoc, ← toList_scope]
    simp [known.notMem_head]
  have short : byteLength account.toList ≤ maxLength := by
    rw [byteLength_eq, String.ofList_toList]
    exact known.account_short.trans (by decide)
  obtain ⟨level, levels, pieces⟩ := List.exists_cons_of_ne_nil (splitOn_ne_nil '/' role.toList)
  rw [RoleNaming.sessionName, RoleArn.sessionName, arn, ofChars?, splitOn_append head, pieces]
  dsimp only
  rw [SessionName.account, dropStart_append, dropEnd_append, takeBytes_eq_self short]

end Account

/-- What is found from the ARN of an instance profile fits together. The base and the scope are those
of its account; every role has one ARN; and for a relative name the issuer is asked exactly once, for
that ARN and under a session name of the account, and gives its keys with the ARN. -/
theorem discovered_naming_agrees {partitionName account : String}
    (known : IsAccount partitionName account) (path : String) :
    RoleArn.baseOfProfile (profileArn partitionName account path) =
      .ok (ofAccount partitionName account).base ∧
    RoleArn.scope (ofAccount partitionName account).base =
      .ok (ofAccount partitionName account).scope ∧
    (∀ role, (ofAccount partitionName account).resolve role =
      if (ofAccount partitionName account).scope.toList <+: role.toList then role
      else (ofAccount partitionName account).base ++ role) ∧
    (∀ role, (ofAccount partitionName account).resolve
      ((ofAccount partitionName account).resolve role) =
        (ofAccount partitionName account).resolve role) ∧
    ∀ role, ¬ (ofAccount partitionName account).scope.toList <+: role.toList →
      (∀ c ∈ role.toList, SessionName.isRoleChar c = true) →
        ∃ name, SessionName.Suits account name ∧
          ∀ (duration : Nat) (σ : Type) (serve : (question : Query) → σ → Reply question × σ)
            (state after : σ) (answer : Except CredentialsError SessionKeys),
            serve (.assumeRole ((ofAccount partitionName account).resolve role) name duration)
                state = (answer, after) →
              Program.run serve ((ofAccount partitionName account).fetch role duration) state =
                ⟨answer.map fun keys =>
                    { keys with roleArn := (ofAccount partitionName account).resolve role }, after,
                  [⟨state, .assumeRole ((ofAccount partitionName account).resolve role) name
                    duration, answer⟩]⟩ := by
  have within : (ofAccount partitionName account).scope.toList <+:
      (ofAccount partitionName account).base.toList := by
    rw [toList_base, toList_scope, List.append_assoc]
    exact List.prefix_append ..
  refine ⟨known.baseOfProfile path, known.scope_base, fun role => ?_,
    fun role => resolve_of_isPrefix (isPrefix_resolve within role), fun role relative valid => ?_⟩
  · split
    · exact resolve_of_isPrefix ‹_›
    · exact resolve_of_not_isPrefix ‹_›
  · have named := known.sessionName_base_append role
    rw [← resolve_of_not_isPrefix relative] at named
    exact ⟨_, SessionName.suits_ofLevels known.account_ne known.account_plain known.account_short
      (Text.splitOn_ne_nil '/' role.toList)
      fun _ inside _ => SessionName.isNameChar_of_mem_level valid inside,
      fun duration _ _ _ _ _ served => run_fetch_of_named named duration served⟩

/-- In a partition with a dash in its name, for a role in a path. -/
theorem discovered_naming_agrees_sample :
    RoleArn.baseOfProfile "arn:aws-cn:iam::012345678910:instance-profile/nodes/instance-profile" =
      .ok "arn:aws-cn:iam::012345678910:role/" ∧
    RoleArn.scope "arn:aws-cn:iam::012345678910:role/" = .ok "arn:aws-cn:iam::" ∧
    ∃ name, SessionName.Suits "012345678910" name ∧ ∀ w : World,
      (w.run ((ofAccount "aws-cn" "012345678910").fetch "team/reader:2" 900)).steps.map
        Program.Step.question =
          [.assumeRole "arn:aws-cn:iam::012345678910:role/team/reader:2" name 900] := by
  have known : IsAccount "aws-cn" "012345678910" :=
    ⟨by decide, by decide, by decide, by decide, List.all_eq_true.mp (by decide), by decide⟩
  obtain ⟨base, scope, -, -, fetches⟩ := discovered_naming_agrees known "nodes/instance-profile"
  obtain ⟨name, suits, ran⟩ := fetches "team/reader:2" (by decide) (List.all_eq_true.mp (by decide))
  refine ⟨base, scope, name, suits, fun w => ?_⟩
  have once := ran 900 World World.serve w _ _ rfl
  rw [World.run, once]
  rfl

end RoleNaming

end RoleSecrets
