import Mathlib.Data.List.TakeWhile
import RoleSecrets.Json.Reader
import RoleSecrets.Json.Writer
import RoleSecrets.Proofs.Decimal

/-! # JSON is read as it was written

The text of a value is read from within any containers that are still open. What the text leads to is
the state in which the value has been put where it belongs, but for a number, which only the next
character ends. Strings are read character by character, whichever escape each is written with. Only
numbers that are not words and values that nest too deep are left out.
-/

namespace RoleSecrets.Json

/-- A value that a reader takes: its containers nest at most so deep, and its numbers are words. -/
inductive Fits : (depth : Nat) → Json → Prop
  | null {depth : Nat} : Fits depth .null
  | bool {depth : Nat} {value : Bool} : Fits depth (.bool value)
  | int {depth : Nat} {n : Int} (word : isWord n = true) : Fits depth (.int n)
  | str {depth : Nat} {text : String} : Fits depth (.str text)
  | arr {depth : Nat} {items : List Json} (each : ∀ item ∈ items, Fits depth item) :
      Fits (depth + 1) (.arr items)
  | obj {depth : Nat} {members : List (String × Json)}
      (each : ∀ member ∈ members, Fits depth member.2) : Fits (depth + 1) (.obj members)

namespace Reader

/-- The state that some more characters lead to. -/
def after? (r : Reader) (text : List Char) : Option Reader := text.foldlM step? r

theorem after?_cons (r : Reader) (c : Char) (text : List Char) :
    r.after? (c :: text) = (r.step? c).bind fun next => next.after? text := rfl

theorem after?_append (r : Reader) (first second : List Char) :
    r.after? (first ++ second) = (r.after? first).bind fun next => next.after? second :=
  List.foldlM_append

theorem after?_append_of_eq {r next : Reader} {first : List Char} (read : r.after? first = some next)
    (second : List Char) : r.after? (first ++ second) = next.after? second := by
  rw [after?_append, read, Option.bind_some]

section Text

/-- The ways in which a character is written inside a string. -/
theorem escape_cases (c : Char) :
    (∃ letter, escape c = ['\\', letter] ∧ letter ≠ 'u' ∧ letterEscape? letter = some c) ∨
    (c.toNat < 0x20 ∧ escape c =
      ['\\', 'u', '0', '0', Decimal.hexChar (c.toNat / 16), Decimal.hexChar (c.toNat % 16)]) ∨
    (c ≠ '"' ∧ c ≠ '\\' ∧ ¬ c.toNat < 0x20 ∧ escape c = [c]) := by
  by_cases short : c ∈ ['"', '\\', '\n', '\r', '\t', '\x08', '\x0c']
  · refine .inl ?_
    simp only [List.mem_cons, List.not_mem_nil, or_false] at short
    rcases short with rfl | rfl | rfl | rfl | rfl | rfl | rfl <;>
      exact ⟨_, rfl, by decide, rfl⟩
  · simp only [List.mem_cons, List.not_mem_nil, or_false, not_or] at short
    obtain ⟨quote, backslash, newline, return_, tab, backspace, feed⟩ := short
    simp only [escape, quote, backslash, newline, return_, tab, backspace, feed, if_false]
    by_cases control : c.toNat < 0x20
    · exact .inr (.inl ⟨control, if_pos control⟩)
    · exact .inr (.inr ⟨quote, backslash, control, if_neg control⟩)

variable (frames : List Frame) (isName : Bool) (chars : List Char)

theorem hexValue?_hexChar : ∀ d < 16, Decimal.hexValue? (Decimal.hexChar d) = some d := by decide

/-- One more digit of a code unit. -/
theorem step?_unit {count value d : Nat} {c : Char} (digit : Decimal.hexValue? c = some d)
    (more : count ≠ 3) :
    step? ⟨frames, .text isName chars (.unit none count value)⟩ c =
      some ⟨frames, .text isName chars (.unit none (count + 1) (16 * value + d))⟩ := by
  simp [step?, plain?, text?, digit, more]

/-- The last digit of a code unit that stands for a control. -/
theorem step?_lastUnit {value d : Nat} {c : Char} (digit : Decimal.hexValue? c = some d)
    (control : 16 * value + d < 0x20) :
    step? ⟨frames, .text isName chars (.unit none 3 value)⟩ c =
      some ⟨frames, .text isName (Char.ofNat (16 * value + d) :: chars) .plain⟩ := by
  have noHigh : isHigh (16 * value + d) = false := by simp [isHigh]; omega
  have noLow : isLow (16 * value + d) = false := by simp [isLow]; omega
  simp [step?, plain?, text?, unit?, digit, noHigh, noLow]

/-- Four digits that stand for a control lead to that control. -/
theorem after?_control {c : Char} (control : c.toNat < 0x20) :
    after? ⟨frames, .text isName chars (.unit none 0 0)⟩
        ['0', '0', Decimal.hexChar (c.toNat / 16), Decimal.hexChar (c.toNat % 16)] =
      some ⟨frames, .text isName (c :: chars) .plain⟩ := by
  have zero : Decimal.hexValue? '0' = some 0 := rfl
  have high := hexValue?_hexChar (c.toNat / 16) (by omega)
  have low := hexValue?_hexChar (c.toNat % 16) (by omega)
  have whole : 16 * (c.toNat / 16) + c.toNat % 16 = c.toNat := Nat.div_add_mod ..
  rw [after?_cons, step?_unit frames isName chars zero (by decide), Option.bind_some, after?_cons,
    step?_unit frames isName chars zero (by decide), Option.bind_some, after?_cons,
    step?_unit frames isName chars high (by decide), Option.bind_some, after?_cons,
    step?_lastUnit frames isName chars low (by omega), Option.bind_some]
  simp only [Nat.mul_zero, Nat.zero_add, whole, Char.ofNat_toNat]
  rfl

/-- A character is read whichever way it is written. -/
theorem after?_escape (c : Char) :
    after? ⟨frames, .text isName chars .plain⟩ (escape c) =
      some ⟨frames, .text isName (c :: chars) .plain⟩ := by
  have backslash : step? ⟨frames, .text isName chars .plain⟩ '\\' =
      some ⟨frames, .text isName chars .started⟩ := rfl
  rcases escape_cases c with ⟨letter, same, noUnit, stands⟩ | ⟨control, same⟩ |
    ⟨noQuote, noBackslash, noControl, same⟩
  · have last : step? ⟨frames, .text isName chars .started⟩ letter =
        some ⟨frames, .text isName (c :: chars) .plain⟩ := by
      simp [step?, plain?, text?, noUnit, stands]
    rw [same, after?_cons, backslash, Option.bind_some, after?_cons, last]
    rfl
  · rw [same, after?_cons, backslash]
    exact after?_control frames isName chars control
  · have only : step? ⟨frames, .text isName chars .plain⟩ c =
        some ⟨frames, .text isName (c :: chars) .plain⟩ := by
      simp [step?, plain?, text?, noQuote, noBackslash, noControl]
    rw [same, after?_cons, only]
    rfl

theorem after?_flatMap_escape (text : List Char) :
    after? ⟨frames, .text isName chars .plain⟩ (text.flatMap escape) =
      some ⟨frames, .text isName (text.reverse ++ chars) .plain⟩ := by
  induction text generalizing chars with
  | nil => rfl
  | cons c text ih =>
    rw [List.flatMap_cons, after?_append_of_eq (after?_escape frames isName chars c), ih,
      List.reverse_cons, List.append_assoc, List.singleton_append]

variable {frames isName}

/-- A string ends as itself. -/
theorem after?_textChars {r : Reader} (opens : r.step? '"' = some ⟨frames, .text isName [] .plain⟩)
    (text : String) : r.after? (textChars text) = closeText? frames isName text := by
  have quote (chars : List Char) : step? ⟨frames, .text isName chars .plain⟩ '"' =
      closeText? frames isName (String.ofList chars.reverse) := rfl
  rw [textChars, after?_cons, opens, Option.bind_some,
    after?_append_of_eq (after?_flatMap_escape frames isName [] text.toList), after?_cons, quote,
    List.append_nil, List.reverse_reverse, String.ofList_toList]
  exact Option.bind_fun_some _

end Text

section Number

theorem takeWhile_digits (n : Nat) :
    (Decimal.digits n).takeWhile Char.isDigit = Decimal.digits n :=
  List.takeWhile_eq_self_iff.mpr fun _ => Decimal.isDigit_of_mem_digits

theorem dropWhile_digits (n : Nat) : (Decimal.digits n).dropWhile Char.isDigit = [] :=
  List.dropWhile_eq_nil_iff.mpr fun _ => Decimal.isDigit_of_mem_digits

/-- The digits of a number are those a number may have. -/
theorem digits_allowed (n : Nat) :
    ¬ (Decimal.digits n = [] ∨
      ((Decimal.digits n).length > 1 ∧ (Decimal.digits n).head? = some '0') ∨
      (!isFraction []) = true) := by
  rintro (none | ⟨long, zero⟩ | fraction)
  · exact Decimal.digits_ne_nil n none
  · by_cases same : n = 0
    · subst same
      exact absurd long (by rw [Decimal.digits]; decide)
    · exact Decimal.head?_digits same zero
  · exact absurd fraction (by decide)

theorem number?_of_digits {n : Nat} (word : isWord n = true) :
    number? (Decimal.digits n) = some (.int n) := by
  have unsigned (rest : List Char) (same : Decimal.digits n = '-' :: rest) : False :=
    absurd (Decimal.isDigit_of_mem_digits (n := n) (c := '-') (by simp [same])) (by decide)
  simp only [number?, takeWhile_digits, dropWhile_digits, if_neg (digits_allowed n),
    Decimal.readNat?_digits, Option.getD_some]
  simp [word]

theorem number?_minus_digits {n : Nat} (positive : n ≠ 0) (word : isWord (-n) = true) :
    number? ('-' :: Decimal.digits n) = some (.int (-n)) := by
  simp only [number?, takeWhile_digits, dropWhile_digits, if_neg (digits_allowed n),
    Decimal.readNat?_digits, Option.getD_some, if_true]
  simp [word, positive]

theorem number?_ofInt {n : Int} (word : isWord n = true) :
    number? (Decimal.ofInt n) = some (.int n) := by
  unfold Decimal.ofInt
  by_cases negative : n < 0
  · rw [if_pos negative]
    have same : -(n.natAbs : Int) = n := by omega
    rw [number?_minus_digits (by omega) (by rwa [same]), same]
  · rw [if_neg negative]
    have same : (n.natAbs : Int) = n := by omega
    rw [number?_of_digits (by rwa [same]), same]

theorem isNumberChar_of_isDigit {c : Char} (digit : c.isDigit = true) : isNumberChar c = true := by
  simp [isNumberChar, digit]

variable (frames : List Frame)

theorem after?_number (chars text : List Char) (all : ∀ c ∈ text, isNumberChar c = true) :
    after? ⟨frames, .number chars⟩ text = some ⟨frames, .number (text.reverse ++ chars)⟩ := by
  induction text generalizing chars with
  | nil => rfl
  | cons c text ih =>
    have first : step? ⟨frames, .number chars⟩ c = some ⟨frames, .number (c :: chars)⟩ :=
      if_pos (all c List.mem_cons_self)
    rw [after?_cons, first, Option.bind_some, ih (c :: chars) fun d member =>
      all d (List.mem_cons_of_mem _ member), List.reverse_cons, List.append_assoc,
      List.singleton_append]

/-- No other character begins a number than a digit or a minus sign. -/
theorem ne_of_begins {c d : Char} (begins : c = '-' ∨ c.isDigit = true)
    (other : (d = '-' || d.isDigit) = false) : c ≠ d := by
  rintro rfl
  rcases begins with rfl | digit
  · contradiction
  · simp [digit] at other

theorem isSpace_of_begins {c : Char} (begins : c = '-' ∨ c.isDigit = true) : isSpace c = false := by
  have other {d : Char} := ne_of_begins (d := d) begins
  simp [isSpace, other (d := ' ') rfl, other (d := '\n') rfl, other (d := '\t') rfl,
    other (d := '\r') rfl]

theorem step?_of_begins {c : Char} (begins : c = '-' ∨ c.isDigit = true) :
    step? ⟨frames, .value⟩ c = some ⟨frames, .number [c]⟩ := by
  have other {d : Char} := ne_of_begins (d := d) begins
  simp only [step?, plain?, value?, isSpace_of_begins begins, other (d := '"') rfl,
    other (d := '[') rfl, other (d := '\x7b') rfl, if_false, Bool.false_eq_true]
  exact if_pos (by simpa using begins)

/-- A number is waiting for its end once its last digit is read. -/
theorem after?_ofInt (n : Int) :
    after? ⟨frames, .value⟩ (Decimal.ofInt n) =
      some ⟨frames, .number (Decimal.ofInt n).reverse⟩ := by
  obtain ⟨c, rest, same, begins, digits⟩ := Decimal.ofInt_eq_cons n
  rw [same, after?_cons, step?_of_begins frames begins, Option.bind_some,
    after?_number frames [c] rest fun d member => isNumberChar_of_isDigit (digits d member),
    List.reverse_cons]

end Number

section Value

/-- After a finished number the next character is read as after any other value. -/
theorem step?_of_endNumber? {r next : Reader} (ended : r.endNumber? = some next) {c : Char}
    (other : isNumberChar c = false) : r.step? c = next.plain? c := by
  obtain ⟨frames, mode⟩ := r
  cases mode with
  | number chars =>
    have noNumber : ¬ isNumberChar c = true := by simp [other]
    simp only [step?, if_neg noNumber, ended, Option.bind_eq_bind, Option.bind_some]
  | _ =>
    cases ended
    rfl

/-- A value that was put where it belongs is no number still being read. -/
theorem endNumber?_of_close? {frames : List Frame} {value : Json} {next : Reader}
    (closed : close? frames value = some next) : next.endNumber? = some next := by
  unfold close? at closed
  split at closed <;> cases closed <;> rfl

/-- The text of a value leads to where it belongs, within containers that leave room for it. -/
def Reads (depth : Nat) (value : Json) : Prop :=
  ∀ (frames : List Frame) {next : Reader}, frames.length + depth ≤ maxDepth →
    close? frames value = some next →
      ∃ r, after? ⟨frames, .value⟩ value.chars = some r ∧ r.endNumber? = some next

/-- What leads to where a value belongs by itself needs no end. -/
theorem reads_of_close? {depth : Nat} {value : Json}
    (leads : ∀ frames : List Frame, frames.length + depth ≤ maxDepth →
      after? ⟨frames, .value⟩ value.chars = close? frames value) : Reads depth value :=
  fun frames next room closed =>
    ⟨next, (leads frames room).trans closed, endNumber?_of_close? closed⟩

theorem reads_null (depth : Nat) : Reads depth .null :=
  reads_of_close? fun _ _ => by exact Option.bind_fun_some _

theorem reads_bool (depth : Nat) (value : Bool) : Reads depth (.bool value) :=
  reads_of_close? fun _ _ => by cases value <;> exact Option.bind_fun_some _

theorem reads_int (depth : Nat) {n : Int} (word : isWord n = true) : Reads depth (.int n) := by
  intro frames next _ closed
  refine ⟨_, after?_ofInt frames n, ?_⟩
  simp only [endNumber?, List.reverse_reverse, number?_ofInt word, Option.bind_eq_bind,
    Option.bind_some, closed]

theorem reads_str (depth : Nat) (text : String) : Reads depth (.str text) :=
  reads_of_close? fun frames _ =>
    have opens : step? ⟨frames, .value⟩ '"' = some ⟨frames, .text false [] .plain⟩ := rfl
    after?_textChars opens text

end Value

section Container

variable {depth : Nat} {frames : List Frame} (room : frames.length + (depth + 1) ≤ maxDepth)

include room

/-- The items of an array are read one after the other. -/
theorem after?_itemChars {items : List Json} (reads : ∀ item ∈ items, Reads depth item)
    (nonempty : items ≠ []) (done : List Json) :
    ∃ r, after? ⟨.array done :: frames, .value⟩ (itemChars items) = some r ∧
      r.endNumber? = some ⟨.array (items.reverse ++ done) :: frames, .next⟩ := by
  induction items generalizing done with
  | nil => contradiction
  | cons item items ih =>
    obtain ⟨r, led, ended⟩ := reads item List.mem_cons_self (.array done :: frames)
      (by rw [List.length_cons]; omega) rfl
    cases items with
    | nil => exact ⟨r, led, ended⟩
    | cons second items =>
      have comma : r.step? ',' = some ⟨.array (item :: done) :: frames, .value⟩ :=
        step?_of_endNumber? ended rfl
      obtain ⟨last, ledOn, endedOn⟩ := ih
        (fun other member => reads other (List.mem_cons_of_mem item member)) (List.cons_ne_nil _ _)
        (item :: done)
      refine ⟨last, ?_, ?_⟩
      · rw [itemChars, after?_append_of_eq led, after?_cons, comma, Option.bind_some, ledOn]
      · rw [endedOn, List.reverse_cons (a := item), List.append_assoc, List.singleton_append]

/-- The members of an object are read one after the other. -/
theorem after?_memberChars {members : List (String × Json)}
    (reads : ∀ member ∈ members, Reads depth member.2) (nonempty : members ≠ [])
    (done : List (String × Json)) {r : Reader}
    (opens : r.step? '"' = some ⟨.object done :: frames, .text true [] .plain⟩) :
    ∃ last, r.after? (memberChars members) = some last ∧
      last.endNumber? = some ⟨.object (members.reverse ++ done) :: frames, .next⟩ := by
  induction members generalizing done r with
  | nil => contradiction
  | cons member members ih =>
    obtain ⟨name, value⟩ := member
    have named : r.after? (textChars name) = some ⟨.member done name :: frames, .colon⟩ :=
      after?_textChars opens name
    have colon : step? ⟨.member done name :: frames, .colon⟩ ':' =
        some ⟨.member done name :: frames, .value⟩ := rfl
    obtain ⟨last, led, ended⟩ := reads (name, value) List.mem_cons_self
      (.member done name :: frames) (by rw [List.length_cons]; omega) rfl
    cases members with
    | nil =>
      refine ⟨last, ?_, ended⟩
      rw [memberChars, after?_append_of_eq named, after?_cons, colon, Option.bind_some, led]
    | cons second members =>
      have comma : last.step? ',' = some ⟨.object ((name, value) :: done) :: frames, .name⟩ :=
        step?_of_endNumber? ended rfl
      obtain ⟨final, ledOn, endedOn⟩ := ih
        (fun other member => reads other (List.mem_cons_of_mem _ member)) (List.cons_ne_nil _ _)
        ((name, value) :: done) (r := ⟨.object ((name, value) :: done) :: frames, .name⟩) rfl
      refine ⟨final, ?_, ?_⟩
      · rw [memberChars, after?_append_of_eq named, after?_cons, colon, Option.bind_some,
          after?_append_of_eq led, after?_cons, comma, Option.bind_some, ledOn]
      · rw [endedOn, List.reverse_cons (a := (name, value)), List.append_assoc,
          List.singleton_append]

theorem nest?_of_room (frame : Frame) (mode inner : Mode) :
    nest? ⟨frames, mode⟩ frame inner = some ⟨frame :: frames, inner⟩ :=
  if_pos (by change frames.length < maxDepth; omega)

end Container

section Fitting

variable {depth : Nat}

/-- An array's first item is begun like any other value. -/
theorem step?_firstItem {value : Json} (fits : value.Fits depth) :
    ∃ c rest, value.chars = c :: rest ∧
      ∀ frames, step? ⟨frames, .firstItem⟩ c = step? ⟨frames, .value⟩ c := by
  cases fits with
  | int word =>
    obtain ⟨c, rest, same, begins, -⟩ := Decimal.ofInt_eq_cons _
    refine ⟨c, rest, same, fun frames => ?_⟩
    simp only [step?, plain?, isSpace_of_begins begins, ne_of_begins (d := ']') begins rfl,
      Bool.false_eq_true, if_false]
    rfl
  | @bool _ value => cases value <;> exact ⟨_, _, rfl, fun _ => rfl⟩
  | _ => exact ⟨_, _, rfl, fun _ => rfl⟩

theorem itemChars_cons (item : Json) (items : List Json) :
    ∃ rest, itemChars (item :: items) = item.chars ++ rest := by
  cases items with
  | nil => exact ⟨[], (List.append_nil _).symm⟩
  | cons second items => exact ⟨_, rfl⟩

theorem after?_firstItem {item : Json} (fits : item.Fits depth) (items : List Json)
    (frames : List Frame) (text : List Char) :
    after? ⟨frames, .firstItem⟩ (itemChars (item :: items) ++ text) =
      after? ⟨frames, .value⟩ (itemChars (item :: items) ++ text) := by
  obtain ⟨rest, same⟩ := itemChars_cons item items
  obtain ⟨c, _, first, agree⟩ := step?_firstItem fits
  rw [same, first, List.cons_append, List.cons_append, after?_cons, after?_cons, agree]

/-- An array is read once its items are. -/
theorem reads_arr {items : List Json} (fits : ∀ item ∈ items, item.Fits depth)
    (reads : ∀ item ∈ items, Reads depth item) : Reads (depth + 1) (.arr items) := by
  refine reads_of_close? fun frames room => ?_
  have opens : step? ⟨frames, .value⟩ '[' = some ⟨.array [] :: frames, .firstItem⟩ :=
    nest?_of_room room ..
  rw [chars, after?_cons, opens, Option.bind_some]
  cases items with
  | nil => exact Option.bind_fun_some (close? frames (.arr []))
  | cons item items =>
    obtain ⟨last, led, ended⟩ := after?_itemChars room reads (List.cons_ne_nil _ _) []
    have closes : last.step? ']' = close? frames (.arr ((item :: items).reverse ++ []).reverse) :=
      step?_of_endNumber? ended rfl
    rw [after?_firstItem (fits item List.mem_cons_self), after?_append_of_eq led, after?_cons, closes,
      List.append_nil, List.reverse_reverse]
    exact Option.bind_fun_some _

/-- An object is read once its members are. -/
theorem reads_obj {members : List (String × Json)}
    (reads : ∀ member ∈ members, Reads depth member.2) : Reads (depth + 1) (.obj members) := by
  refine reads_of_close? fun frames room => ?_
  have opens : step? ⟨frames, .value⟩ '\x7b' = some ⟨.object [] :: frames, .firstName⟩ :=
    nest?_of_room room ..
  rw [chars, after?_cons, opens, Option.bind_some]
  by_cases nonempty : members = []
  · subst nonempty
    exact Option.bind_fun_some (close? frames (.obj []))
  · obtain ⟨last, led, ended⟩ := after?_memberChars room reads nonempty []
      (r := ⟨.object [] :: frames, .firstName⟩) rfl
    have closes : last.step? '\x7d' = close? frames (.obj (members.reverse ++ []).reverse) :=
      step?_of_endNumber? ended rfl
    rw [after?_append_of_eq led, after?_cons, closes, List.append_nil, List.reverse_reverse]
    exact Option.bind_fun_some _

theorem reads_of_fits {value : Json} (fits : value.Fits depth) : Reads depth value := by
  induction fits with
  | null => exact reads_null _
  | bool => exact reads_bool _ _
  | int word => exact reads_int _ word
  | str => exact reads_str _ _
  | arr fits ih => exact reads_arr fits ih
  | obj _ ih => exact reads_obj ih

end Fitting

end Reader

/-- Whatever fits is read as it was written. -/
theorem parse?_write {value : Json} (fits : value.Fits maxDepth) : parse? value.write = some value := by
  obtain ⟨r, led, ended⟩ := Reader.reads_of_fits fits [] (Nat.zero_add _).le rfl
  have run : value.chars.foldlM Reader.step? .start = some r := led
  rw [parse?, write, String.toList_ofList, parseChars?, run]
  simp only [Option.bind_eq_bind, Option.bind_some, Reader.finish?, ended]

end RoleSecrets.Json
