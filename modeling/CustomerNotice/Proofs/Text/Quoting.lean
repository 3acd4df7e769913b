import CustomerNotice.Text.Integer
import CustomerNotice.Text.Quoted

/-!
# Reading back what was quoted

The escaped form of a character can be read off the beginning of any text that it starts, and no
such form starts with the quotation mark. So a quoted text ends at the first quotation mark that
stands for itself, whatever follows: two texts that begin with quoted texts are the same only if
the quoted texts are, and the rests.
-/

namespace CustomerNotice
namespace Text

theorem digitValue_digitChar {digit : Nat} (small : digit < 16) :
    digitValue? 16 (Nat.digitChar digit) = some digit := by
  have all : ∀ digit < 16, digitValue? 16 (Nat.digitChar digit) = some digit := by decide
  exact all digit small

theorem digitChar_ne_brace {digit : Nat} (small : digit < 16) : Nat.digitChar digit ≠ '\x7d' := by
  have all : ∀ digit < 16, Nat.digitChar digit ≠ '\x7d' := by decide
  exact all digit small

theorem readDigitsFrom_append (base value : Nat) (first second : List Char) :
    readDigitsFrom base value (first ++ second) =
      (readDigitsFrom base value first).bind fun reached => readDigitsFrom base reached second := by
  induction first generalizing value with
  | nil => rfl
  | cons digit rest induction =>
      rw [List.cons_append, readDigitsFrom, readDigitsFrom]
      cases digitValue? base digit with
      | none => rfl
      | some found => exact induction _

/-- The digits of a code have its value, and none of them is the closing brace. -/
theorem readDigits_toDigits (code : Nat) :
    readDigitsFrom 16 0 (Nat.toDigits 16 code) = some code ∧
      ∀ digit ∈ Nat.toDigits 16 code, digit ≠ '\x7d' := by
  induction code using Nat.strongRecOn with
  | ind code induction =>
      by_cases small : code < 16
      · rw [Nat.toDigits_of_lt_base small]
        constructor
        · simp [readDigitsFrom, digitValue_digitChar small]
        · intro digit member
          rw [List.mem_singleton.mp member]
          exact digitChar_ne_brace small
      · have last : code % 16 < 16 := Nat.mod_lt code (by decide)
        obtain ⟨value, plain⟩ := induction (code / 16) (by omega)
        rw [Nat.toDigits_of_base_le (by decide) (Nat.le_of_not_lt small)]
        constructor
        · rw [readDigitsFrom_append, value, Option.bind_some, readDigitsFrom,
            digitValue_digitChar last]
          have whole : code / 16 * 16 + code % 16 = code := by omega
          exact congrArg some whole
        · intro digit member
          rcases List.mem_append.mp member with earlier | here
          · exact plain digit earlier
          · rw [List.mem_singleton.mp here]
            exact digitChar_ne_brace last

/-- The character whose escaped form a text begins with, and what comes after that form. -/
def unescaped? : List Char → Option (Char × List Char)
  | '\\' :: 'u' :: '\x7b' :: rest =>
      (readDigitsFrom 16 0 (rest.takeWhile (· ≠ '\x7d'))).map fun code =>
        (Char.ofNat code, (rest.dropWhile (· ≠ '\x7d')).tail)
  | '\\' :: '0' :: rest => some ('\x00', rest)
  | '\\' :: 't' :: rest => some ('\t', rest)
  | '\\' :: 'n' :: rest => some ('\n', rest)
  | '\\' :: 'r' :: rest => some ('\r', rest)
  | '\\' :: mark :: rest => some (mark, rest)
  | character :: rest => some (character, rest)
  | [] => none

theorem unescaped_code (character : Char) (rest : List Char) :
    unescaped? (['\\', 'u', '\x7b'] ++ Nat.toDigits 16 character.toNat ++ ['\x7d'] ++ rest) =
      some (character, rest) := by
  obtain ⟨value, plain⟩ := readDigits_toDigits character.toNat
  have digits : ∀ digit ∈ Nat.toDigits 16 character.toNat, decide (digit ≠ '\x7d') = true := by
    intro digit member
    exact decide_eq_true (plain digit member)
  simp only [List.append_assoc, List.cons_append, List.nil_append, unescaped?]
  rw [List.takeWhile_append_of_pos digits, List.dropWhile_append_of_pos digits]
  simp [value, Char.ofNat_toNat]

theorem unescaped_plain {character : Char} (plain : character ≠ '\\') (rest : List Char) :
    unescaped? (character :: rest) = some (character, rest) := by
  unfold unescaped?
  split <;> simp_all

/-- Every character is read back from its escaped form. -/
theorem unescaped_escaped (character : Char) (rest : List Char) :
    unescaped? (escaped character ++ rest) = some (character, rest) := by
  unfold escaped
  split
  · next zero => rw [zero]; rfl
  split
  · next tab => rw [tab]; rfl
  split
  · next newline => rw [newline]; rfl
  split
  · next carriage => rw [carriage]; rfl
  split
  · next mark => rw [mark]; rfl
  split
  · next backslash => rw [backslash]; rfl
  split
  · exact unescaped_code character rest
  · next plain _ => exact unescaped_plain plain rest

/-- No escaped form can be taken for the end of a quoted text: it could only be that of the
quotation mark, which begins with a backslash. -/
theorem escaped_start (character : Char) (rest : List Char) :
    (escaped character ++ rest).head? ≠ some '"' := by
  intro start
  obtain ⟨after, spelled⟩ := List.head?_eq_some_iff.mp start
  have read := unescaped_escaped character rest
  have mark : unescaped? ('"' :: after) = some ('"', after) := rfl
  rw [spelled, mark, Option.some.injEq, Prod.mk.injEq] at read
  have form : escaped '"' = ['\\', '"'] := rfl
  rw [← read.1, form] at spelled
  cases spelled

/-- The escaped forms of two texts, each with a quotation mark behind them. -/
theorem escaped_texts_inj {left right after later : List Char}
    (same : left.flatMap escaped ++ '"' :: after = right.flatMap escaped ++ '"' :: later) :
    left = right ∧ after = later := by
  induction left generalizing right with
  | nil =>
      cases right with
      | nil => exact ⟨rfl, (List.cons.inj same).2⟩
      | cons character rest =>
          rw [List.flatMap_cons, List.append_assoc] at same
          exact absurd (congrArg List.head? same.symm) (escaped_start character _)
  | cons character left induction =>
      rw [List.flatMap_cons, List.append_assoc] at same
      cases right with
      | nil => exact absurd (congrArg List.head? same) (escaped_start character _)
      | cons other right =>
          rw [List.flatMap_cons, List.append_assoc] at same
          have first := congrArg unescaped? same
          rw [unescaped_escaped, unescaped_escaped, Option.some.injEq, Prod.mk.injEq] at first
          obtain ⟨rest, behind⟩ := induction first.2
          exact ⟨by rw [first.1, rest], behind⟩

/-- Texts that begin with quoted texts are the same only if these and the rests are. -/
theorem quoted_append_inj {left right after later : String} :
    quoted left ++ after = quoted right ++ later ↔ left = right ∧ after = later := by
  constructor
  · intro same
    have characters := congrArg String.toList same
    simp only [quoted, String.toList_append, String.toList_ofList, List.cons_append,
      List.append_assoc, List.cons.injEq, true_and, List.nil_append] at characters
    obtain ⟨texts, rests⟩ := escaped_texts_inj characters
    exact ⟨String.toList_inj.mp texts, String.toList_inj.mp rests⟩
  · rintro ⟨rfl, rfl⟩
    rfl

example : unescaped? (escaped '\u0301' ++ ['"']) = some ('\u0301', ['"']) := by decide +kernel

end Text
end CustomerNotice
