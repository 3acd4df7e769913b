import CustomerNotice.Format.Json
import CustomerNotice.Log.Line

/-!
# Reading back objects of JSON

What is written as JSON is read back by the reader of JSON: texts from their escaped form, numbers
from their digits, and from these the members of an object in their order. Only what follows a
value has to be known, so that one member can be read after the other.
-/

namespace CustomerNotice

open Record (textLiteral escaped codeEscape)

namespace Json

/-! Texts -/

theorem readHex4_append {digits : List Char} (four : digits.length = 4) (rest : List Char) :
    readHex4? (digits ++ rest) = (Text.readNat? 16 digits).map (·, rest) := by
  match digits, four with
  | [_, _, _, _], _ => rfl

def controlDigits (code : Nat) : List Char :=
  List.replicate (4 - (Nat.toDigits 16 code).length) '0' ++ Nat.toDigits 16 code

theorem control_digits : ∀ code < 32, (controlDigits code).length = 4 ∧
    Text.readNat? 16 (controlDigits code) = some code := by decide

theorem readCodePoint_of_control {character : Char} (control : character.toNat < 0x20)
    (rest : List Char) :
    readCodePoint? (controlDigits character.toNat ++ rest) = some (character, rest) := by
  obtain ⟨four, value⟩ := control_digits character.toNat control
  have low : ¬(0xdc00 ≤ character.toNat ∧ character.toNat ≤ 0xdfff) := by omega
  have high : ¬(0xd800 ≤ character.toNat ∧ character.toNat ≤ 0xdbff) := by omega
  rw [readCodePoint?, readHex4_append four, value, Option.map_some]
  simp only [Option.bind_eq_bind, Option.bind_some, if_neg low, if_neg high, Char.ofNat_toNat]

theorem readStringRest_marked {fuel : Nat} {rest after : List Char} {character : Char}
    (read : readEscape? rest = some (character, after)) :
    readStringRest? (fuel + 1) ('\\' :: rest) =
      (readStringRest? fuel after).map fun found => (character :: found.1, found.2) := by
  rw [readStringRest?, if_neg (by decide), if_pos rfl, read]
  simp only [Option.bind_eq_bind, Option.bind_some]
  cases readStringRest? fuel after <;> rfl

theorem readStringRest_plain {fuel : Nat} {character : Char} (rest : List Char)
    (mark : character ≠ '"') (backslash : character ≠ '\\') (plain : ¬character.toNat < 0x20) :
    readStringRest? (fuel + 1) (character :: rest) =
      (readStringRest? fuel rest).map fun found => (character :: found.1, found.2) := by
  rw [readStringRest?, if_neg mark, if_neg backslash, if_neg plain]
  cases readStringRest? fuel rest <;> rfl

/-- One step of the reader takes one escaped form. -/
theorem readStringRest_escaped (fuel : Nat) (character : Char) (rest : List Char) :
    readStringRest? (fuel + 1) (escaped character ++ rest) =
      (readStringRest? fuel rest).map fun found => (character :: found.1, found.2) := by
  unfold escaped
  split
  · next same => rw [same]; exact readStringRest_marked rfl
  split
  · next same => rw [same]; exact readStringRest_marked rfl
  split
  · next same => rw [same]; exact readStringRest_marked rfl
  split
  · next same => rw [same]; exact readStringRest_marked rfl
  split
  · next same => rw [same]; exact readStringRest_marked rfl
  split
  · next same => rw [same]; exact readStringRest_marked rfl
  split
  · next same => rw [same]; exact readStringRest_marked rfl
  next mark backslash _ _ _ _ _ =>
  split
  · next control =>
      exact readStringRest_marked (readCodePoint_of_control control rest)
  · next plain => exact readStringRest_plain rest mark backslash plain

theorem readStringRest_written {fuel : Nat} {characters : List Char}
    (enough : characters.length < fuel) (rest : List Char) :
    readStringRest? fuel (characters.flatMap escaped ++ '"' :: rest) = some (characters, rest) := by
  induction characters generalizing fuel with
  | nil =>
      obtain ⟨fuel, rfl⟩ := Nat.exists_eq_succ_of_ne_zero (Nat.ne_of_gt enough)
      rfl
  | cons character characters induction =>
      obtain ⟨fuel, rfl⟩ := Nat.exists_eq_succ_of_ne_zero (Nat.ne_of_gt (Nat.zero_lt_of_lt enough))
      rw [List.flatMap_cons, List.append_assoc, readStringRest_escaped,
        induction (Nat.lt_of_succ_lt_succ enough)]
      rfl

theorem length_le_escaped (characters : List Char) :
    characters.length ≤ (characters.flatMap escaped).length := by
  have single : ∀ character : Char, 1 ≤ (escaped character).length := by
    intro character
    unfold escaped codeEscape
    repeat' split
    all_goals simp
  induction characters with
  | nil => exact Nat.le_refl 0
  | cons character rest induction =>
      have here := single character
      rw [List.flatMap_cons, List.length_append, List.length_cons]
      omega

theorem readString_written (text : String) (rest : List Char) :
    readString? (text.toList.flatMap escaped ++ '"' :: rest) = some (text, rest) := by
  have enough : text.toList.length <
      (text.toList.flatMap escaped ++ '"' :: rest).length + 1 := by
    have longer := length_le_escaped text.toList
    rw [List.length_append]
    omega
  rw [readString?, readStringRest_written enough]
  simp only [Option.map_some, String.ofList_toList]

theorem textLiteral_toList (text : String) :
    (textLiteral text).toList = '"' :: (text.toList.flatMap escaped ++ ['"']) := by
  have mark : "\"".toList = ['"'] := by decide
  simp only [textLiteral, String.toList_append, String.toList_ofList, mark, List.cons_append,
    List.nil_append]

/-! Numbers -/

/-- What follows a value inside an object. -/
inductive EndsValue : List Char → Prop
  | another (rest : List Char) : EndsValue (',' :: rest)
  | none (rest : List Char) : EndsValue ('\x7d' :: rest)

theorem EndsValue.spanDigits {digits rest : List Char} (ends : EndsValue rest)
    (all : ∀ digit ∈ digits, digit.isDigit = true) :
    spanDigits (digits ++ rest) = (digits, rest) := by
  rw [Json.spanDigits, List.takeWhile_append_of_pos all, List.dropWhile_append_of_pos all]
  cases ends with
  | another rest => rw [List.takeWhile_cons_of_neg (by decide), List.append_nil]; rfl
  | none rest => rw [List.takeWhile_cons_of_neg (by decide), List.append_nil]; rfl

theorem EndsValue.readFraction {rest : List Char} (ends : EndsValue rest) :
    readFraction? rest = some ([], rest) := by
  cases ends <;> rfl

theorem EndsValue.readExponent {rest : List Char} (ends : EndsValue rest) :
    readExponent? rest = some (Option.none, rest) := by
  cases ends <;> rfl

theorem le_ofDigitChars (digits : List Char) (start : Nat) :
    start ≤ Nat.ofDigitChars 10 digits start := by
  induction digits generalizing start with
  | nil => exact Nat.le_refl start
  | cons digit rest induction =>
      rw [Nat.ofDigitChars_cons]
      have later := induction (10 * start + (digit.toNat - '0'.toNat))
      omega

/-- Digits whose value fits a word are all used. -/
theorem extend_fitting {digits : List Char} {start : Nat}
    (fits : Nat.ofDigitChars 10 digits start < Text.wordCount) :
    extend start digits = (Nat.ofDigitChars 10 digits start, digits.length) := by
  induction digits generalizing start with
  | nil => rfl
  | cons digit rest induction =>
      rw [Nat.ofDigitChars_cons, Nat.mul_comm] at fits
      have next := Nat.lt_of_le_of_lt (le_ofDigitChars rest _) fits
      rw [Nat.ofDigitChars_cons, Nat.mul_comm, extend, digitOf]
      dsimp only
      rw [if_pos next, induction fits]
      rfl

/-- Only zero is written with a zero at its beginning. -/
theorem zero_of_leading_zero {value : Nat} (zero : (Nat.toDigits 10 value).head? = some '0') :
    value = 0 := by
  have digits : ∀ digit < 10, Nat.digitChar digit = '0' → digit = 0 := by decide
  induction value using Nat.strongRecOn with
  | ind value induction =>
      by_cases small : value < 10
      · rw [Nat.toDigits_of_lt_base small, List.head?_cons, Option.some.injEq] at zero
        exact digits value small zero
      · obtain ⟨first, later, leading⟩ :=
          List.exists_cons_of_ne_nil Nat.toDigits_ne_nil
        rw [Nat.toDigits_of_base_le (by decide) (Nat.le_of_not_lt small), leading] at zero
        have smaller := induction (value / 10) (by omega) (by rw [leading]; exact zero)
        omega

theorem readNumber_written {value : Nat} (fits : value < Text.wordCount) {rest : List Char}
    (ends : EndsValue rest) :
    readNumber? false (Nat.toDigits 10 value ++ rest) =
      some (.scalar none (ofInteger false value), rest) := by
  have digits : ∀ digit ∈ Nat.toDigits 10 value, digit.isDigit = true := by
    intro digit member
    exact Nat.isDigit_of_mem_toDigits (by decide) (by decide) member
  have reads : Nat.ofDigitChars 10 (Nat.toDigits 10 value) 0 = value :=
    Nat.ofDigitChars_toDigits (by decide) (by decide)
  have used : extend 0 (Nat.toDigits 10 value) = (value, (Nat.toDigits 10 value).length) := by
    have word : Nat.ofDigitChars 10 (Nat.toDigits 10 value) 0 < Text.wordCount := by
      rw [reads]
      exact fits
    rw [extend_fitting word, reads]
  have accepted : ((Nat.toDigits 10 value).isEmpty ||
      ((Nat.toDigits 10 value).head? = some '0' &&
        (Nat.toDigits 10 value).length ≠ 1)) = false := by
    rw [Bool.or_eq_false_iff]
    constructor
    · simp
    · by_cases zero : (Nat.toDigits 10 value).head? = some '0'
      · rw [zero_of_leading_zero zero]
        decide
      · simp [zero]
  have integer : NumberText.value? ⟨false, Nat.toDigits 10 value, [], none⟩ =
      some (ofInteger false value) := by
    rw [NumberText.value?, used]
    simp
  rw [readNumber?, ends.spanDigits digits]
  dsimp only
  rw [accepted, ends.readFraction]
  simp only [Bool.false_eq_true, if_false, Option.bind_eq_bind, Option.bind_some,
    ends.readExponent, integer]
  rfl

/-! Members -/

/-- The literal is read as the value, wherever it stands in an object. -/
def Spells (literal : String) (value : Tree) : Prop :=
  ∀ (fuel depth : Nat) (rest : List Char), EndsValue rest →
    readValue? (fuel + 1) depth (skipBlanks (literal.toList ++ rest)) = some (value, rest)

theorem spells_text (text : String) : Spells (textLiteral text) (.scalar none (.text text)) := by
  intro fuel depth rest ends
  have read : readValue? (fuel + 1) depth ('"' :: (text.toList.flatMap escaped ++ '"' :: rest)) =
      (readString? (text.toList.flatMap escaped ++ '"' :: rest)).map fun found =>
        (Tree.scalar none (.text found.1), found.2) := by
    rw [readValue?]
  rw [textLiteral_toList, List.cons_append, List.append_assoc, skipBlanks,
    List.dropWhile_cons_of_neg (by decide), List.cons_append, List.nil_append, read,
    readString_written, Option.map_some]

theorem spells_flag (value : Bool) :
    Spells (if value then "true" else "false") (.scalar none (.bool value)) := by
  have yes : "true".toList = ['t', 'r', 'u', 'e'] := by decide
  have no : "false".toList = ['f', 'a', 'l', 's', 'e'] := by decide
  intro fuel depth rest ends
  cases value with
  | true =>
      rw [if_pos rfl, yes]
      rfl
  | false =>
      rw [if_neg Bool.false_ne_true, no]
      rfl

theorem readValue_of_digit {digit : Char} (decimal : digit.isDigit = true) (fuel depth : Nat)
    (rest : List Char) :
    readValue? (fuel + 1) depth (digit :: rest) = readNumber? false (digit :: rest) := by
  unfold readValue?
  split <;> simp_all

theorem not_blank_of_digit {digit : Char} (decimal : digit.isDigit = true) :
    isBlank digit = false := by
  by_cases blank : isBlank digit = true
  · simp only [isBlank, Bool.or_eq_true, decide_eq_true_eq] at blank
    rcases blank with ((rfl | rfl) | rfl) | rfl <;> contradiction
  · exact Bool.eq_false_iff.mpr blank

theorem spells_number {value : Nat} (fits : value < Text.wordCount) :
    Spells value.repr (.scalar none (ofInteger false value)) := by
  intro fuel depth rest ends
  have read := readNumber_written fits ends
  obtain ⟨digit, later, digits⟩ := List.exists_cons_of_ne_nil Nat.toDigits_ne_nil
  have decimal : digit.isDigit = true := by
    apply Nat.isDigit_of_mem_toDigits (b := 10) (n := value) (by decide) (by decide)
    rw [digits]
    exact List.mem_cons_self
  have solid : ¬isBlank digit = true := by
    rw [not_blank_of_digit decimal]
    exact Bool.false_ne_true
  rw [Nat.repr_eq_ofList_toDigits, String.toList_ofList]
  rw [digits, List.cons_append] at read ⊢
  rw [skipBlanks, List.dropWhile_cons_of_neg solid, readValue_of_digit decimal, read]

/-- A member of an object: its name, its literal and the value that this is read as. -/
structure WrittenMember where
  name : String
  literal : String
  value : Tree
  spelled : Spells literal value

namespace WrittenMember

def text (written : WrittenMember) : String := Record.member written.name written.literal

def entry (written : WrittenMember) : String × Tree := (written.name, written.value)

theorem text_toList (written : WrittenMember) :
    written.text.toList =
      '"' :: (written.name.toList.flatMap escaped ++ '"' :: ':' :: written.literal.toList) := by
  have colon : ":".toList = [':'] := by decide
  simp only [text, Record.member, String.toList_append, textLiteral_toList, colon,
    List.cons_append, List.append_assoc, List.nil_append]

def onward (written : WrittenMember) (fuel depth : Nat) :
    List Char → Option (List (String × Tree) × List Char)
  | '\x7d' :: rest => some ([written.entry], rest)
  | ',' :: rest =>
      (readMembers? fuel depth rest).map fun found => (written.entry :: found.1, found.2)
  | _ => none

theorem readMembers_step (written : WrittenMember) (fuel depth : Nat) {rest : List Char}
    (ends : EndsValue rest) :
    readMembers? (fuel + 2) depth (written.text.toList ++ rest) =
      written.onward (fuel + 1) depth rest := by
  have value := written.spelled fuel depth rest ends
  have mark : ∀ later, skipBlanks ('"' :: later) = '"' :: later := fun _ => rfl
  have colon : ∀ later, skipBlanks (':' :: later) = ':' :: later := fun _ => rfl
  rw [text_toList]
  simp only [List.cons_append, List.append_assoc]
  rw [readMembers?, mark]
  simp only [readString_written, colon, value, Option.bind_eq_bind, Option.bind_some]
  cases ends with
  | another rest => exact Option.map_eq_bind.symm
  | none rest => rfl

def listed (members : List WrittenMember) : List Char :=
  [','].intercalate (members.map fun written => written.text.toList)

theorem listed_cons (written next : WrittenMember) (others : List WrittenMember) :
    listed (written :: next :: others) = written.text.toList ++ ',' :: listed (next :: others) := by
  rw [listed, List.map_cons, List.map_cons, List.intercalate_cons_cons, List.append_assoc]
  rfl

/-- Members are read in their order up to the brace. -/
theorem readMembers_written {members : List WrittenMember} (some : members ≠ []) {fuel : Nat}
    (enough : members.length < fuel) (depth : Nat) (rest : List Char) :
    readMembers? fuel depth (listed members ++ '\x7d' :: rest) =
      .some (members.map entry, rest) := by
  induction members generalizing fuel with
  | nil => contradiction
  | cons written others induction =>
      rw [List.length_cons] at enough
      obtain ⟨fuel, rfl⟩ : ∃ more, fuel = more + 2 := ⟨fuel - 2, by omega⟩
      cases others with
      | nil =>
          rw [listed, List.map_singleton, List.intercalate_singleton,
            readMembers_step _ _ _ (.none rest)]
          rfl
      | cons next others =>
          have later := induction (List.cons_ne_nil next others) (Nat.lt_of_succ_lt_succ enough)
          rw [listed_cons, List.append_assoc, List.cons_append,
            readMembers_step _ _ _ (.another _), onward, later]
          rfl

theorem listed_start {members : List WrittenMember} (some : members ≠ []) :
    ∃ tail, listed members = '"' :: tail := by
  obtain ⟨first, others, rfl⟩ := List.exists_cons_of_ne_nil some
  cases others with
  | nil => exact ⟨_, by rw [listed, List.map_singleton, List.intercalate_singleton, text_toList]⟩
  | cons next others => exact ⟨_, by rw [listed_cons, text_toList, List.cons_append]⟩

theorem length_le_listed (members : List WrittenMember) :
    members.length ≤ (listed members).length := by
  induction members with
  | nil => exact Nat.zero_le _
  | cons written others induction =>
      cases others with
      | nil =>
          obtain ⟨tail, start⟩ := listed_start (List.cons_ne_nil written [])
          rw [start]
          simp
      | cons next others =>
          rw [listed_cons]
          simp only [List.length_append, List.length_cons] at induction ⊢
          omega

/-- An object of members is read as the table of their values, the later of two under one name. -/
theorem read_object {members : List WrittenMember} (some : members ≠ []) :
    read? ('\x7b' :: (listed members ++ ['\x7d', '\n'])) =
      .some (.table none (Entries.ofList (members.map entry))) := by
  obtain ⟨tail, start⟩ := listed_start some
  have enough : members.length <
      2 * ('\x7b' :: (listed members ++ ['\x7d', '\n'])).length + 1 := by
    have longer := length_le_listed members
    rw [List.length_cons, List.length_append]
    omega
  have members_read := readMembers_written some enough 126 ['\n']
  have opened : ∀ fuel, readValue? (fuel + 1) greatestDepth
      ('\x7b' :: '"' :: (tail ++ ['\x7d', '\n'])) =
        (readMembers? fuel 126 ('"' :: (tail ++ ['\x7d', '\n']))).map fun found =>
          (Tree.table none (Entries.ofList found.1), found.2) := by
    intro fuel
    rw [Option.map_eq_bind]
    rfl
  have blank : ∀ later, skipBlanks ('\x7b' :: later) = '\x7b' :: later := fun _ => rfl
  rw [start, List.cons_append] at members_read ⊢
  rw [read?, blank, opened, members_read]
  rfl

end WrittenMember

end Json

end CustomerNotice
