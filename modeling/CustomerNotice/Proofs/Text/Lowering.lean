import CustomerNotice.Proofs.Text.Casing

/-!
# Lowercasing twice, and texts with a plain lowercase

No row of the case table leads to a character that any row covers, and none leads
to one of the two characters that are treated apart. So the lowercase of a text is
its own lowercase. Of the characters beyond the first 128 only one has a small form
among them, the sign for degrees Kelvin with the letter k: a text whose lowercase
is a word of other plain letters is that word, up to the case of plain letters.
-/

namespace CustomerNotice
namespace Text

abbrev CaseRow := Nat × Nat × Nat × Nat

namespace CaseRow

def Covers (row : CaseRow) (code : Nat) : Prop :=
  row.1 ≤ code ∧ code ≤ row.2.1 ∧ (code - row.1) % row.2.2.1 = 0

def image (row : CaseRow) (code : Nat) : Nat := row.2.2.2 + (code - row.1)

def lastImage (row : CaseRow) : Nat := row.image row.2.1

/-- The other row covers none of the images: it ends before them or begins behind
them, or it covers every second code and all images lie between these. -/
def misses (row other : CaseRow) : Bool :=
  Nat.blt row.lastImage other.1 || Nat.blt other.2.1 row.2.2.2
    || (other.2.2.1 == 2 && (row.2.2.1 == 2 || row.1 == row.2.1)
      && (row.2.2.2 + other.1) % 2 == 1)

/-- All images are codes of characters. -/
def leadsToCharacters (row : CaseRow) : Bool :=
  Nat.blt row.lastImage 0xd800 || (Nat.blt 0xdfff row.2.2.2 && Nat.blt row.lastImage 0x110000)

variable {row other : CaseRow} {code : Nat}

theorem image_le (covers : row.Covers code) :
    row.2.2.2 ≤ row.image code ∧ row.image code ≤ row.lastImage := by
  unfold lastImage image
  have upper := covers.2.1
  omega

theorem uncovered_of_misses (missed : row.misses other = true) (covers : row.Covers code) :
    ¬other.Covers (row.image code) := by
  intro also
  obtain ⟨from_first, to_last, step⟩ := also
  have within := image_le covers
  simp only [misses, Bool.or_eq_true, Bool.and_eq_true, Nat.blt_eq, beq_iff_eq] at missed
  rcases missed with (before | behind) | ⟨⟨every_second, even⟩, odd⟩
  · omega
  · omega
  · -- The code is an even number of places behind the first one that the row covers.
    have places : (code - row.1) % 2 = 0 := by
      obtain ⟨least, greatest, whole⟩ := covers
      rcases even with second | single
      · rwa [second] at whole
      · omega
    rw [every_second] at step
    unfold image at step from_first
    omega

theorem image_of_character (leads : row.leadsToCharacters = true) (covers : row.Covers code) :
    (Char.ofNat (row.image code)).toNat = row.image code := by
  have within := image_le covers
  have valid : (row.image code).isValidChar := by
    simp only [leadsToCharacters, Bool.or_eq_true, Bool.and_eq_true, Nat.blt_eq] at leads
    unfold Nat.isValidChar
    omega
  rw [Char.ofNat, dif_pos valid]
  rfl

end CaseRow

theorem rows_miss : lowercaseRows.all (fun row => lowercaseRows.all (CaseRow.misses row)) = true := by
  decide +kernel

theorem rows_lead_to_characters : lowercaseRows.all CaseRow.leadsToCharacters = true := by
  decide +kernel

/-- A character that no row covers is its own small form; a covered one is led to
its image. -/
theorem lowercaseSimple_cases (character : Char) :
    (lowercaseSimple character = character ∧
      ∀ row ∈ lowercaseRows, ¬CaseRow.Covers row character.toNat) ∨
    ∃ row ∈ lowercaseRows, CaseRow.Covers row character.toNat ∧
      (lowercaseSimple character).toNat = CaseRow.image row character.toNat := by
  unfold lowercaseSimple
  split
  · next first last step start found =>
      right
      have member := List.mem_of_find?_eq_some found
      have holds := List.find?_some found
      simp only [Bool.and_eq_true, decide_eq_true_eq, beq_iff_eq] at holds
      have covers : CaseRow.Covers (first, last, step, start) character.toNat :=
        ⟨holds.1.1, holds.1.2, holds.2⟩
      have leads := List.all_eq_true.mp rows_lead_to_characters _ member
      exact ⟨_, member, covers, CaseRow.image_of_character leads covers⟩
  · next found =>
      left
      refine ⟨rfl, ?_⟩
      intro row member covers
      obtain ⟨least, greatest, whole⟩ := covers
      have not_here := List.find?_eq_none.mp found row member
      simp [least, greatest, whole] at not_here

theorem lowercaseSimple_of_uncovered {character : Char}
    (uncovered : ∀ row ∈ lowercaseRows, ¬CaseRow.Covers row character.toNat) :
    lowercaseSimple character = character := by
  rcases lowercaseSimple_cases character with same | covered
  · exact same.1
  · obtain ⟨row, member, covers, _⟩ := covered
    exact absurd covers (uncovered row member)

theorem lowercaseSimple_uncovered (character : Char) :
    ∀ row ∈ lowercaseRows, ¬CaseRow.Covers row (lowercaseSimple character).toNat := by
  rcases lowercaseSimple_cases character with same | covered
  · rw [same.1]
    exact same.2
  · obtain ⟨row, member, covers, code⟩ := covered
    intro other also
    rw [code]
    have missed := List.all_eq_true.mp (List.all_eq_true.mp rows_miss row member) other also
    exact CaseRow.uncovered_of_misses missed covers

/-- A character that lowercasing leaves alone, whatever stands around it. -/
structure IsSmall (character : Char) : Prop where
  not_sigma : character ≠ '\u03a3'
  not_dotted : character ≠ '\u0130'
  own_form : lowercaseSimple character = character

theorem IsSmall.lowercaseAt {character : Char} (small : IsSmall character)
    (before after : List Char) : lowercaseAt before character after = [character] := by
  rw [Text.lowercaseAt, if_neg small.not_sigma, if_neg small.not_dotted, small.own_form]

theorem lowercaseFrom_of_small {characters : List Char}
    (small : ∀ character ∈ characters, IsSmall character) (before : List Char) :
    lowercaseFrom before characters = characters := by
  induction characters generalizing before with
  | nil => rfl
  | cons character rest induction =>
      have here := small character List.mem_cons_self
      have later := fun other member => small other (List.mem_cons_of_mem character member)
      rw [lowercaseFrom, here.lowercaseAt, induction later]
      rfl

theorem no_row_to_dotted : ∀ row ∈ lowercaseRows,
    CaseRow.lastImage row < 0x130 ∨ 0x130 < row.2.2.2 := by decide +kernel

theorem sigma_covered : CaseRow.Covers (0x3a3, 0x3ab, 1, 0x3c3) 0x3a3 ∧
    (0x3a3, 0x3ab, 1, 0x3c3) ∈ lowercaseRows := by
  constructor
  · unfold CaseRow.Covers
    decide
  · decide +kernel

theorem lowercaseSimple_small {character : Char} (plain : character ≠ '\u0130') :
    IsSmall (lowercaseSimple character) := by
  have uncovered := lowercaseSimple_uncovered character
  constructor
  · intro sigma
    have covered := uncovered _ sigma_covered.2
    rw [sigma] at covered
    exact covered sigma_covered.1
  · intro dotted
    rcases lowercaseSimple_cases character with same | covered
    · exact plain (same.1.symm.trans dotted)
    · obtain ⟨row, member, covers, code⟩ := covered
      have within := CaseRow.image_le covers
      have outside := no_row_to_dotted row member
      have value : ('\u0130').toNat = 0x130 := rfl
      rw [dotted, value] at code
      omega
  · exact lowercaseSimple_of_uncovered uncovered

theorem forms_apart_small : IsSmall '\u03c2' ∧ IsSmall '\u03c3' ∧ IsSmall 'i' ∧
    IsSmall '\u0307' := by
  refine ⟨⟨by decide, by decide, ?_⟩, ⟨by decide, by decide, ?_⟩, ⟨by decide, by decide, ?_⟩,
    ⟨by decide, by decide, ?_⟩⟩
  · decide +kernel
  · decide +kernel
  · decide +kernel
  · decide +kernel

theorem lowercaseAt_small {before after : List Char} {character form : Char}
    (member : form ∈ lowercaseAt before character after) : IsSmall form := by
  obtain ⟨final, inner, letter, mark⟩ := forms_apart_small
  unfold lowercaseAt at member
  split at member
  · split at member
    · rwa [List.mem_singleton.mp member]
    · rwa [List.mem_singleton.mp member]
  · split at member
    · rcases List.mem_cons.mp member with first | second
      · rwa [first]
      · rwa [List.mem_singleton.mp second]
    · next plain =>
        rw [List.mem_singleton.mp member]
        exact lowercaseSimple_small plain

theorem lowercaseFrom_small {before characters : List Char} {form : Char}
    (member : form ∈ lowercaseFrom before characters) : IsSmall form := by
  induction characters generalizing before with
  | nil => contradiction
  | cons character rest induction =>
      rw [lowercaseFrom, List.mem_append] at member
      rcases member with here | later
      · exact lowercaseAt_small here
      · exact induction later

/-- The lowercase of a text is its own lowercase. -/
theorem lowercase_lowercase (text : String) : lowercase (lowercase text) = lowercase text := by
  rw [lowercase, lowercase, String.toList_ofList]
  congr 1
  apply lowercaseFrom_of_small
  intro form member
  exact lowercaseFrom_small member

/-- One of the first 128 characters that only plain letters have for a small form. -/
structure IsPlainForm (character : Char) : Prop where
  plain : character.toNat < 128
  not_k : character ≠ 'k'

instance (character : Char) : Decidable (IsPlainForm character) :=
  decidable_of_iff (character.toNat < 128 ∧ character ≠ 'k')
    ⟨fun form => ⟨form.1, form.2⟩, fun form => ⟨form.plain, form.not_k⟩⟩

/-- Only the first row and that of the sign for degrees Kelvin lead to plain letters. -/
theorem later_rows_to_k : ∀ row ∈ lowercaseRows.tail,
    128 ≤ row.2.2.2 ∨ (row.2.2.2 = 'k'.toNat ∧ row.1 = row.2.1) := by decide +kernel

theorem plain_of_form {character : Char} (form : IsPlainForm (lowercaseSimple character)) :
    character.toNat < 128 := by
  rcases lowercaseSimple_cases character with same | covered
  · have plain := form.plain
    rwa [same.1] at plain
  · obtain ⟨row, member, covers, code⟩ := covered
    have rows : lowercaseRows = (65, 90, 1, 97) :: lowercaseRows.tail := rfl
    rw [rows, List.mem_cons] at member
    rcases member with first | later
    · rw [first] at covers
      have upper : character.toNat ≤ 90 := covers.2.1
      omega
    · exfalso
      have within := CaseRow.image_le covers
      have plain := form.plain
      rcases later_rows_to_k row later with beyond | letter
      · omega
      · apply form.not_k
        have last : CaseRow.lastImage row = row.2.2.2 := by
          simp [CaseRow.lastImage, CaseRow.image, letter.2]
        have value : (lowercaseSimple character).toNat = 'k'.toNat := by omega
        rw [← Char.ofNat_toNat (lowercaseSimple character), value]
        rfl

theorem lowercaseSimple_eq_toLower {character : Char} (plain : character.toNat < 128) :
    lowercaseSimple character = character.toLower := by
  rw [lowercaseSimple_of_plain plain]
  by_cases large : 65 ≤ character.toNat ∧ character.toNat ≤ 90
  · rw [if_pos large]
    exact (codes_of_capital character (capital_of_code large)).2.2.2.2.symm
  · have same : character.toLower = character := dif_neg large
    rw [if_neg large, same]

/-- The lowercase of a character is a word of plain forms only if the character is
plain itself. -/
theorem lowercaseAt_plain {before after : List Char} {character : Char}
    (forms : ∀ form ∈ lowercaseAt before character after, IsPlainForm form) :
    character.toNat < 128 ∧ lowercaseAt before character after = [character.toLower] := by
  unfold lowercaseAt at forms ⊢
  have no_form : ∀ (others : List Char) (form : Char), 128 ≤ form.toNat →
      ¬∀ other ∈ others ++ [form], IsPlainForm other := by
    intro others form beyond plain
    have contrary := (plain form (by simp)).plain
    omega
  split at forms
  · exfalso
    split at forms
    · exact no_form [] _ (by decide) forms
    · exact no_form [] _ (by decide) forms
  · next not_sigma =>
      split at forms
      · exfalso
        exact no_form ['i'] _ (by decide) forms
      · next not_dotted =>
          have plain := plain_of_form (forms _ (List.mem_singleton.mpr rfl))
          rw [if_neg not_sigma, if_neg not_dotted, lowercaseSimple_eq_toLower plain]
          exact ⟨plain, rfl⟩

theorem lowercaseFrom_plain {before characters : List Char}
    (forms : ∀ form ∈ lowercaseFrom before characters, IsPlainForm form) :
    (∀ character ∈ characters, character.toNat < 128) ∧
      lowercaseFrom before characters = smallLetters characters := by
  induction characters generalizing before with
  | nil => exact ⟨nofun, rfl⟩
  | cons character rest induction =>
      rw [lowercaseFrom] at forms ⊢
      have here := lowercaseAt_plain fun form member =>
        forms form (List.mem_append_left _ member)
      have later := induction fun form member => forms form (List.mem_append_right _ member)
      constructor
      · intro other member
        rcases List.mem_cons.mp member with first | further
        · rw [first]
          exact here.1
        · exact later.1 other further
      · rw [here.2, later.2]
        rfl

/-- The same text up to the case of plain letters. -/
def EqualUpToCase (left right : String) : Prop :=
  smallLetters left.toList = smallLetters right.toList

instance (left right : String) : Decidable (EqualUpToCase left right) :=
  inferInstanceAs (Decidable (smallLetters left.toList = smallLetters right.toList))

structure IsPlainWord (word : String) : Prop where
  forms : ∀ form ∈ word.toList, IsPlainForm form
  small : lowercase word = word

/-- What has a plain word for its lowercase is that word up to case. -/
theorem lowercase_eq_iff {text word : String} (plain : IsPlainWord word) :
    lowercase text = word ↔ EqualUpToCase text word := by
  constructor
  · intro same
    have letters : lowercaseFrom [] text.toList = word.toList := by
      rw [← same, lowercase, String.toList_ofList]
    have own_letters : lowercaseFrom [] word.toList = word.toList := by
      rw [← String.toList_ofList (l := lowercaseFrom [] word.toList), ← lowercase, plain.small]
    have text_small := (lowercaseFrom_plain (letters ▸ plain.forms)).2
    have word_small := (lowercaseFrom_plain (own_letters ▸ plain.forms)).2
    rw [letters] at text_small
    rw [own_letters] at word_small
    exact text_small.symm.trans word_small
  · intro same
    have lowered := lowercase_of_smallLetters same
    rw [String.ofList_toList, String.ofList_toList] at lowered
    exact lowered.trans plain.small

theorem plain_of_lowercase {text word : String} (plain : IsPlainWord word)
    (same : lowercase text = word) : ∀ character ∈ text.toList, character.toNat < 128 := by
  have letters : lowercaseFrom [] text.toList = word.toList := by
    rw [← same, lowercase, String.toList_ofList]
  exact (lowercaseFrom_plain (letters ▸ plain.forms)).1

end Text
end CustomerNotice
