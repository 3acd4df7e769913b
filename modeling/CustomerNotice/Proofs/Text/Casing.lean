import CustomerNotice.Text.Lowercase

/-!
# Lowercase and the case of plain letters

The lowercase of a text does not depend on the case of its plain letters: the
capitals A to Z and their small forms have the same lowercase, and they look the
same to a capital sigma next to them. Lowercasing also makes no bracket that was
not there before.
-/

namespace CustomerNotice
namespace Text

def capitals : List Char :=
  ['A', 'B', 'C', 'D', 'E', 'F', 'G', 'H', 'I', 'J', 'K', 'L', 'M', 'N', 'O', 'P', 'Q', 'R', 'S',
    'T', 'U', 'V', 'W', 'X', 'Y', 'Z']

def smallLetters (text : List Char) : List Char := text.map Char.toLower

theorem capital_of_code {character : Char}
    (within : 65 ≤ character.toNat ∧ character.toNat ≤ 90) : character ∈ capitals := by
  have listed : ∀ code ∈ List.range' 65 26, Char.ofNat code ∈ capitals := by decide
  have code : character.toNat ∈ List.range' 65 26 := by
    simp only [List.mem_range'_1]
    omega
  have found := listed _ code
  rwa [Char.ofNat_toNat] at found

theorem capital_or_same (character : Char) :
    character ∈ capitals ∨ character.toLower = character := by
  by_cases within : character.val ≥ 'A'.val ∧ character.val ≤ 'Z'.val
  · exact .inl (capital_of_code within)
  · right
    exact dif_neg within

/-- What is found to hold for each capital holds for them all. -/
theorem all_capitals {holds : Char → Prop} [DecidablePred holds]
    (each : capitals.all (fun character => holds character) = true) :
    ∀ character ∈ capitals, holds character := by
  intro character member
  exact of_decide_eq_true (List.all_eq_true.mp each character member)

/-- What holds for the capitals holds for all characters. -/
theorem unchanged_by_case {Value : Type} (look : Char → Value)
    (same : ∀ character ∈ capitals, look character.toLower = look character)
    (character : Char) : look character.toLower = look character := by
  rcases capital_or_same character with capital | small
  · exact same character capital
  · rw [small]

theorem isCased_toLower (character : Char) : isCased character.toLower = isCased character :=
  unchanged_by_case isCased (all_capitals (by decide)) character

/-- Plain letters are never looked through. -/
theorem no_letter_ignorable : ∀ range ∈ caseIgnorableRanges,
    range.2 < 65 ∨ (90 < range.1 ∧ range.2 < 97) ∨ 122 < range.1 := by decide +kernel

theorem not_ignorable {character : Char}
    (letter : (65 ≤ character.toNat ∧ character.toNat ≤ 90) ∨
      (97 ≤ character.toNat ∧ character.toNat ≤ 122)) : isCaseIgnorable character = false := by
  rw [isCaseIgnorable, ← Bool.not_eq_true, CodeRanges.contains_iff]
  rintro ⟨range, member, within⟩
  have apart := no_letter_ignorable range member
  omega

theorem codes_of_capital : ∀ character ∈ capitals, 65 ≤ character.toNat ∧
    character.toNat ≤ 90 ∧ 97 ≤ character.toLower.toNat ∧ character.toLower.toNat ≤ 122 ∧
      character.toLower = Char.ofNat (97 + (character.toNat - 65)) :=
  all_capitals (by decide)

theorem isCaseIgnorable_toLower (character : Char) :
    isCaseIgnorable character.toLower = isCaseIgnorable character := by
  apply unchanged_by_case
  intro capital member
  have codes := codes_of_capital capital member
  rw [not_ignorable (.inl ⟨codes.1, codes.2.1⟩),
    not_ignorable (.inr ⟨codes.2.2.1, codes.2.2.2.1⟩)]

/-- Only the first row of the table is about the first 128 characters. -/
theorem later_rows_beyond : ∀ row ∈ lowercaseRows.tail, 128 ≤ row.1 := by decide +kernel

theorem lowercaseSimple_of_plain {character : Char} (plain : character.toNat < 128) :
    lowercaseSimple character =
      if 65 ≤ character.toNat ∧ character.toNat ≤ 90 then
        Char.ofNat (97 + (character.toNat - 65))
      else character := by
  have rows : lowercaseRows = (65, 90, 1, 97) :: lowercaseRows.tail := rfl
  have none_later : lowercaseRows.tail.find? (fun row =>
      row.1 ≤ character.toNat && character.toNat ≤ row.2.1
        && (character.toNat - row.1) % row.2.2.1 == 0) = none := by
    rw [List.find?_eq_none]
    intro row member covers
    have beyond := later_rows_beyond row member
    simp only [Bool.and_eq_true, decide_eq_true_eq] at covers
    omega
  rw [lowercaseSimple, rows, List.find?_cons, none_later]
  by_cases within : 65 ≤ character.toNat ∧ character.toNat ≤ 90
  · simp [within, Nat.mod_one]
  · rw [if_neg within]
    have uncovered : (decide (65 ≤ character.toNat) && decide (character.toNat ≤ 90)) = false := by
      simpa using within
    simp [uncovered]

theorem lowercaseSimple_toLower (character : Char) :
    lowercaseSimple character.toLower = lowercaseSimple character := by
  apply unchanged_by_case
  intro capital member
  obtain ⟨least, greatest, small_least, small_greatest, form⟩ := codes_of_capital capital member
  have large : 65 ≤ capital.toNat ∧ capital.toNat ≤ 90 := ⟨least, greatest⟩
  have small : ¬(65 ≤ capital.toLower.toNat ∧ capital.toLower.toNat ≤ 90) := by omega
  rw [lowercaseSimple_of_plain (by omega), if_neg small, lowercaseSimple_of_plain (by omega),
    if_pos large]
  exact form

theorem toLower_eq_iff (other : Char) (small : ∀ character ∈ capitals, character.toLower ≠ other)
    (large : other ∉ capitals) (character : Char) :
    character.toLower = other ↔ character = other := by
  rcases capital_or_same character with capital | same
  · constructor
    · intro equal
      exact absurd equal (small character capital)
    · intro equal
      rw [equal] at capital
      contradiction
  · rw [same]

theorem meetsCased_smallLetters (characters : List Char) :
    meetsCased (smallLetters characters) = meetsCased characters := by
  have passed : (smallLetters characters).dropWhile isCaseIgnorable =
      smallLetters (characters.dropWhile isCaseIgnorable) := by
    have same : isCaseIgnorable ∘ Char.toLower = isCaseIgnorable := by
      funext character
      exact isCaseIgnorable_toLower character
    rw [smallLetters, List.dropWhile_map, same]
    rfl
  rw [meetsCased, meetsCased, passed]
  cases characters.dropWhile isCaseIgnorable with
  | nil => rfl
  | cons character rest => exact isCased_toLower character

theorem lowercaseAt_smallLetters (before : List Char) (character : Char) (after : List Char) :
    lowercaseAt (smallLetters before) character.toLower (smallLetters after) =
      lowercaseAt before character after := by
  have sigma := toLower_eq_iff '\u03a3' (all_capitals (by decide)) (by decide) character
  have dotted := toLower_eq_iff '\u0130' (all_capitals (by decide)) (by decide) character
  simp only [lowercaseAt, sigma, dotted, meetsCased_smallLetters, lowercaseSimple_toLower]

theorem lowercaseFrom_smallLetters (before characters : List Char) :
    lowercaseFrom (smallLetters before) (smallLetters characters) =
      lowercaseFrom before characters := by
  induction characters generalizing before with
  | nil => rfl
  | cons character rest induction =>
      have further := induction (character :: before)
      have here := lowercaseAt_smallLetters before character rest
      simp only [smallLetters, List.map_cons, lowercaseFrom] at further here ⊢
      rw [here, further]

/-- Texts that differ only in the case of plain letters have one lowercase. -/
theorem lowercase_of_smallLetters {left right : List Char}
    (same : smallLetters left = smallLetters right) :
    lowercase (String.ofList left) = lowercase (String.ofList right) := by
  rw [lowercase, lowercase, String.toList_ofList, String.toList_ofList,
    ← lowercaseFrom_smallLetters [] left, same, lowercaseFrom_smallLetters]

/-- No row of the table maps a character to the bracket. -/
theorem no_row_to_bracket : ∀ row ∈ lowercaseRows,
    ¬(row.2.2.2 ≤ 91 ∧ 91 ≤ row.2.2.2 + (row.2.1 - row.1)) := by decide +kernel

theorem code_of_bracket {code : Nat} (bracket : Char.ofNat code = '[') : code = 91 := by
  by_cases valid : code.isValidChar
  · have value : (Char.ofNat code).toNat = code := by
      rw [Char.ofNat, dif_pos valid]
      rfl
    rw [bracket] at value
    exact value.symm
  · rw [Char.ofNat, dif_neg valid] at bracket
    contradiction

theorem lowercaseSimple_bracket {character : Char} (bracket : lowercaseSimple character = '[') :
    character = '[' := by
  unfold lowercaseSimple at bracket
  split at bracket
  · next first last step image found =>
      have member := List.mem_of_find?_eq_some found
      have holds := List.find?_some found
      have outside := no_row_to_bracket _ member
      have code := code_of_bracket bracket
      simp only [Bool.and_eq_true, decide_eq_true_eq] at holds
      exfalso
      apply outside
      dsimp only
      omega
  · exact bracket

theorem lowercaseAt_bracket {before after : List Char} {character : Char}
    (member : '[' ∈ lowercaseAt before character after) : character = '[' := by
  unfold lowercaseAt at member
  split at member
  · split at member <;> simp at member
  · split at member
    · simp at member
    · exact lowercaseSimple_bracket (List.mem_singleton.mp member).symm

theorem lowercaseFrom_bracket {before characters : List Char}
    (member : '[' ∈ lowercaseFrom before characters) : '[' ∈ characters := by
  induction characters generalizing before with
  | nil => exact member
  | cons character rest induction =>
      rw [lowercaseFrom, List.mem_append] at member
      rcases member with here | later
      · rw [lowercaseAt_bracket here]
        exact List.mem_cons_self
      · exact List.mem_cons_of_mem _ (induction later)

theorem lowercase_bracket {text : String} (member : '[' ∈ (lowercase text).toList) :
    '[' ∈ text.toList := by
  rw [lowercase, String.toList_ofList] at member
  exact lowercaseFrom_bracket member

end Text
end CustomerNotice
