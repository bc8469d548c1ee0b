import RoleSecrets.CommandLine.Execute
import RoleSecrets.Host.Basic
import RoleSecrets.Proofs.Discovery

/-! # Session names that are shown

The command that shows a session name is given the ARN of a role and nothing else, while the
controller has the scope that was found from its base. The ARNs within a scope are those of its
partition, and each of them with all its sections leads to the same scope. From there on the command
and the controller take the same steps: the name that is shown is the one that the issuer is asked
under, and an ARN without a path gets no further in one than in the other. The controller does not
count sections, so an ARN that lacks some is refused by the command alone.
-/

namespace RoleSecrets

namespace RoleArn

open Text

/-- A scope is that of a partition, and the partition's name has no colon. -/
theorem partition_of_scope {arn found : String} (known : scope arn = .ok found) :
    ∃ partitionName, partitionName ≠ [] ∧ ':' ∉ partitionName ∧
      found = String.ofList (scopeOf partitionName) := by
  rw [scope] at known
  split at known
  · rename_i start partitionName _ _ _ _ pieces
    split at known
    · rename_i named
      have front := take_splitAtMost ':' 5 arn.toList
      rw [pieces] at front
      have inside : partitionName ∈ (splitOn ':' arn.toList).take 5 := by
        rw [← front]
        exact List.mem_cons_of_mem _ (List.mem_cons_self ..)
      exact ⟨partitionName, named.2,
        fun colon => (mem_of_mem_splitOn (List.mem_of_mem_take inside) colon).2 rfl,
        (Except.ok.inj known).symm⟩
    · cases known
  · cases known

section Within

variable {base found roleArn : String}

/-- Every ARN within a scope that has enough sections has that scope. -/
theorem scope_of_isPrefix (known : scope base = .ok found)
    (within : found.toList <+: roleArn.toList) :
    scope roleArn =
      if (splitOn ':' roleArn.toList).length < 6 then .error (.malformed roleArn)
      else .ok found := by
  obtain ⟨partitionName, some, plain, rfl⟩ := partition_of_scope known
  rw [String.toList_ofList] at within
  obtain ⟨rest, arn⟩ := within
  rw [scope, ← arn, splitAtMost_scopeOf_append plain, splitOn_scopeOf_append plain]
  by_cases more : ':' ∈ rest
  · obtain ⟨account, resource, rfl, own⟩ := List.eq_append_cons_of_mem more
    have last := List.length_pos_iff.mpr (splitOn_ne_nil ':' resource)
    rw [splitAtMost_append own, splitOn_append own, splitAtMost,
      if_neg (by simp only [List.length_cons]; omega)]
    exact if_pos ⟨rfl, some⟩
  · rw [splitAtMost_of_notMem more, splitOn_of_notMem more]
    rfl

theorem ownSessionName_of_isPrefix (known : scope base = .ok found)
    (within : found.toList <+: roleArn.toList) :
    ownSessionName roleArn =
      if (splitOn ':' roleArn.toList).length < 6 then .error (.malformed roleArn)
      else sessionName found roleArn := by
  rw [ownSessionName, scope_of_isPrefix known within]
  split <;> rfl

theorem eq_noPath_of_sessionName {scope : String} {cause : ArnError}
    (unnamed : sessionName scope roleArn = .error cause) : cause = .noPath roleArn := by
  rw [sessionName] at unnamed
  split at unnamed
  · cases unnamed
  · exact (Except.error.inj unnamed).symm

end Within

end RoleArn

namespace RoleNaming

/-- Credentials for the role of an ARN are what the issuer gives when it is asked, once, for that
very ARN under a session name. -/
def FetchesUnder (naming : RoleNaming) (roleArn name : String) : Prop :=
  ∀ (duration : Nat) (σ : Type) (serve : (question : Query) → σ → Reply question × σ)
    (state after : σ) (answer : Except CredentialsError SessionKeys),
    serve (.assumeRole roleArn name duration) state = (answer, after) →
      Program.run serve (naming.fetch roleArn duration) state =
        ⟨answer.map fun keys => { keys with roleArn }, after,
          [⟨state, .assumeRole roleArn name duration, answer⟩]⟩

/-- There are no credentials for the role of an ARN, for want of a session name, and nothing is
asked. -/
def FailsUnasked (naming : RoleNaming) (roleArn : String) (cause : ArnError) : Prop :=
  ∀ (duration : Nat) (σ : Type) (serve : (question : Query) → σ → Reply question × σ) (state : σ),
    Program.run serve (naming.fetch roleArn duration) state =
      ⟨.error (.sessionName roleArn cause), state, []⟩

variable {naming : RoleNaming} {roleArn : String}

theorem fetchesUnder_of_isPrefix (full : naming.scope.toList <+: roleArn.toList) {name : String}
    (named : naming.sessionName roleArn = .ok name) : naming.FetchesUnder roleArn name := by
  intro duration σ serve state after answer served
  have own := resolve_of_isPrefix full
  have ran := run_fetch_of_named (own.symm ▸ named) duration (own.symm ▸ served)
  rwa [own] at ran

theorem failsUnasked_of_isPrefix (full : naming.scope.toList <+: roleArn.toList) {cause : ArnError}
    (unnamed : naming.sessionName roleArn = .error cause) : naming.FailsUnasked roleArn cause := by
  intro duration σ serve state
  simp only [fetch, resolve_of_isPrefix full, unnamed, Program.run_pure]

end RoleNaming

namespace CommandLine

theorem Argument.of_eq_plain {text : String} {c : Char} {rest : List Char}
    (start : text.toList = c :: rest) (noDash : c ≠ '-') : Argument.of text = .plain := by
  rw [Argument.of, start]
  split
  case h_4 => rfl
  all_goals exact absurd (List.cons.inj ‹_›).1 noDash

theorem Command.read_sessionName (env : String → Option String) {roleArn : String}
    (plain : Argument.of roleArn = .plain) :
    Command.read env "session-name" [roleArn] = .ok (.sessionName roleArn) := by
  simp only [Command.read, Form.read, Form.scan, plain]
  rfl

/-- An ARN after the name of the command is its operand, and the environment counts for as much as it
does without a command. -/
theorem Invocation.read_sessionName (env : String → Option String) {roleArn : String}
    (plain : Argument.of roleArn = .plain) :
    Invocation.read env ["session-name", roleArn] =
      (Invocation.read env []).map fun asked =>
        { asked with command := some (.sessionName roleArn) } := by
  have scanned : form.scan ["session-name", roleArn] false (form.start {}) =
      .ok (form.start {}, some ("session-name", [roleArn])) := rfl
  have nothing : form.scan [] false (form.start {}) = .ok (form.start {}, none) := rfl
  simp only [Invocation.read, scanned, nothing, bind, Except.bind, Command.read_sessionName env plain]
  cases form.finish env (form.start {}) <;> rfl

theorem plain_of_isPrefix {base found roleArn : String} (known : RoleArn.scope base = .ok found)
    (within : found.toList <+: roleArn.toList) : Argument.of roleArn = .plain := by
  obtain ⟨partitionName, -, -, rfl⟩ := RoleArn.partition_of_scope known
  rw [String.toList_ofList] at within
  obtain ⟨rest, roleArn⟩ := within
  exact Argument.of_eq_plain roleArn.symm (by decide)

section Shown

variable {σ : Type}

/-- A run that shows a name: it prints the name on a line and does nothing else. It ends well if the
line could be written, and with the failure of the output if not. -/
def Shows (name : String) (ran : Program.Outcome HostQuery HostReply σ Ending) : Prop :=
  ∃ (before : σ) (written : Except FileError Unit),
    ran.steps = [⟨before, .print (name ++ "\n"), written⟩] ∧ ran.value = .ofWritten 0 written

variable {serve : (question : HostQuery) → σ → HostReply question × σ} {host : σ} {places : Places}
  {options : GlobalOptions} {roleArn : String}

theorem run_of_named {name : String} (named : RoleArn.ownSessionName roleArn = .ok name) :
    Program.run serve (Invocation.execute places ⟨options, some (.sessionName roleArn)⟩) host =
      ⟨.ofWritten 0 (serve (.print (name ++ "\n")) host).1, (serve (.print (name ++ "\n")) host).2,
        [⟨host, .print (name ++ "\n"), (serve (.print (name ++ "\n")) host).1⟩]⟩ := by
  simp only [Invocation.execute, named]
  rfl

theorem run_of_unnamed {cause : ArnError} (unnamed : RoleArn.ownSessionName roleArn = .error cause) :
    Program.run serve (Invocation.execute places ⟨options, some (.sessionName roleArn)⟩) host =
      ⟨.failed (.roleArn roleArn cause), host, []⟩ := by
  simp only [Invocation.execute, unnamed, Program.run_pure]

theorem shows_iff {name : String} :
    Shows name
        (Program.run serve (Invocation.execute places ⟨options, some (.sessionName roleArn)⟩) host) ↔
      RoleArn.ownSessionName roleArn = .ok name := by
  cases named : RoleArn.ownSessionName roleArn with
  | ok own =>
    rw [run_of_named named]
    constructor
    · rintro ⟨before, written, steps, -⟩
      have question := congrArg (List.map Program.Step.question) steps
      have line := HostQuery.print.inj (List.cons.inj question).1
      rw [(String.append_left_inj _).mp line]
    · rintro ⟨⟩
      exact ⟨host, _, rfl, rfl⟩
  | error cause =>
    rw [run_of_unnamed named]
    refine iff_of_false ?_ nofun
    rintro ⟨before, written, steps, -⟩
    exact absurd steps (List.cons_ne_nil _ _).symm

theorem failed_iff {cause : ArnError} :
    (Program.run serve (Invocation.execute places ⟨options, some (.sessionName roleArn)⟩)
        host).value = .failed (.roleArn roleArn cause) ↔
      RoleArn.ownSessionName roleArn = .error cause := by
  cases named : RoleArn.ownSessionName roleArn with
  | ok own =>
    rw [run_of_named named]
    refine iff_of_false ?_ nofun
    cases (serve (.print (own ++ "\n")) host).1 <;> nofun
  | error own =>
    rw [run_of_unnamed named]
    simp

end Shown

/-- The command and the controller agree on every ARN within the scope of the controller's base. The
ARN is read as the command's operand. However the command is asked for, it shows a name or fails for
one of two reasons. A name that is shown is the one under which the issuer is asked for the ARN;
where there is no path there are no credentials either, and the issuer is not asked; and an ARN is
malformed to the command if and only if it has fewer than six sections. -/
theorem shown_name_is_used {base found roleArn : String} (known : RoleArn.scope base = .ok found)
    (within : found.toList <+: roleArn.toList) :
    (∀ env, Invocation.read env ["session-name", roleArn] =
      (Invocation.read env []).map fun asked =>
        { asked with command := some (.sessionName roleArn) }) ∧
    ∀ (env : String → Option String) (arguments : List String) (options : GlobalOptions),
      Invocation.read env arguments = .ok ⟨options, some (.sessionName roleArn)⟩ →
        ∀ (places : Places) (σ : Type) (serve : (question : HostQuery) → σ → HostReply question × σ)
          (host : σ),
          let ran := Program.run serve (execute places env arguments) host
          ((∃ name, Shows name ran) ∨ ran.value = .failed (.roleArn roleArn (.noPath roleArn)) ∨
            ran.value = .failed (.roleArn roleArn (.malformed roleArn))) ∧
          (∀ name, Shows name ran → RoleNaming.FetchesUnder ⟨base, found⟩ roleArn name) ∧
          (ran.value = .failed (.roleArn roleArn (.noPath roleArn)) →
            RoleNaming.FailsUnasked ⟨base, found⟩ roleArn (.noPath roleArn)) ∧
          (ran.value = .failed (.roleArn roleArn (.malformed roleArn)) ↔
            (Text.splitOn ':' roleArn.toList).length < 6) := by
  refine ⟨fun env => Invocation.read_sessionName env (plain_of_isPrefix known within),
    fun env arguments options asked places σ serve host => ?_⟩
  have own := RoleArn.ownSessionName_of_isPrefix known within
  simp only [execute, asked, shows_iff, failed_iff]
  by_cases few : (Text.splitOn ':' roleArn.toList).length < 6
  · rw [if_pos few] at own
    rw [own]
    exact ⟨.inr (.inr rfl), nofun, nofun, iff_of_true rfl few⟩
  · rw [if_neg few] at own
    cases named : RoleArn.sessionName found roleArn with
    | ok name =>
      rw [own, named]
      refine ⟨.inl ⟨name, rfl⟩, ?_, nofun, iff_of_false nofun few⟩
      rintro _ ⟨⟩
      exact RoleNaming.fetchesUnder_of_isPrefix within named
    | error cause =>
      obtain rfl := RoleArn.eq_noPath_of_sessionName named
      rw [own, named]
      exact ⟨.inr (.inl rfl), nofun, fun _ => RoleNaming.failsUnasked_of_isPrefix within named,
        iff_of_false nofun few⟩

/-- In a partition with a dash in its name: a role of another account with a colon in its path, an
ARN without a path, and one that has a path but lacks a section. -/
theorem shown_name_is_used_sample :
    RoleArn.scope "arn:aws-cn:iam::111122223333:role/nodes" = .ok "arn:aws-cn:iam::" ∧
    "arn:aws-cn:iam::".toList <+: "arn:aws-cn:iam::012345678910:role/team:a/reader".toList ∧
    (∀ host : Host, Shows "012345678910.team_a.reader" (host.run (execute host.places (fun _ => none)
      ["session-name", "arn:aws-cn:iam::012345678910:role/team:a/reader"]))) ∧
    (∀ host : Host, host.unprintable = none → (host.run (execute host.places (fun _ => none)
      ["session-name", "arn:aws-cn:iam::012345678910:role/team:a/reader"])).value = .exit 0) ∧
    RoleNaming.FetchesUnder ⟨"arn:aws-cn:iam::111122223333:role/nodes", "arn:aws-cn:iam::"⟩
      "arn:aws-cn:iam::012345678910:role/team:a/reader" "012345678910.team_a.reader" ∧
    RoleNaming.FailsUnasked ⟨"arn:aws-cn:iam::111122223333:role/nodes", "arn:aws-cn:iam::"⟩
      "arn:aws-cn:iam::012345678910:role" (.noPath "arn:aws-cn:iam::012345678910:role") ∧
    ∀ host : Host, (host.run (execute host.places (fun _ => none)
        ["session-name", "arn:aws-cn:iam::role/reader"])).value =
      .failed (.roleArn "arn:aws-cn:iam::role/reader" (.malformed "arn:aws-cn:iam::role/reader")) := by
  have known : RoleArn.scope "arn:aws-cn:iam::111122223333:role/nodes" = .ok "arn:aws-cn:iam::" := rfl
  have within : "arn:aws-cn:iam::".toList <+:
    "arn:aws-cn:iam::012345678910:role/team:a/reader".toList := by decide
  have named (host : Host) := (shown_name_is_used known within).2 (fun _ => none)
    ["session-name", "arn:aws-cn:iam::012345678910:role/team:a/reader"] {} rfl host.places Host
    Host.serve host
  have pathless (host : Host) := (shown_name_is_used known (show "arn:aws-cn:iam::".toList <+:
    "arn:aws-cn:iam::012345678910:role".toList by decide)).2 (fun _ => none)
      ["session-name", "arn:aws-cn:iam::012345678910:role"] {} rfl host.places Host Host.serve host
  have short (host : Host) := (shown_name_is_used known (show "arn:aws-cn:iam::".toList <+:
    "arn:aws-cn:iam::role/reader".toList by decide)).2 (fun _ => none)
      ["session-name", "arn:aws-cn:iam::role/reader"] {} rfl host.places Host Host.serve host
  have empty : Host := { places := ⟨"/", "/", "/.config"⟩, files := .directory [] }
  refine ⟨known, within, fun host => ⟨host, _, rfl, rfl⟩, fun host writable => ?_,
    (named empty).2.1 _ ⟨empty, _, rfl, rfl⟩, (pathless empty).2.2.1 rfl,
    fun host => (short host).2.2.2.mpr (by decide)⟩
  change Ending.ofWritten 0 (Host.serve (.print "012345678910.team_a.reader\n") host).1 = .exit 0
  rw [Host.serve, writable]
  rfl

end CommandLine

end RoleSecrets
