import CustomerNotice.Format.Hjson
import CustomerNotice.Proofs.Number.Literals
import CustomerNotice.Proofs.Results

/-!
# The numbers of an Hjson text

Whatever has the form of a number with a fraction or an exponent has a value.
An integer has one only if a word holds it: reading breaks off at an integer
that is too large, and such an integer stands in the text as it was written.
-/

namespace CustomerNotice

namespace Hjson

theorem exponent_signed {exponent : List Char} (form : isExponent exponent = true) :
    Text.IsSigned Text.IsDigits exponent := by
  have digits : ∀ {text : List Char}, (!text.isEmpty && text.all Char.isDigit) = true →
      Text.IsDigits text := by
    intro text form
    simp only [Bool.and_eq_true, Bool.not_eq_true', List.isEmpty_eq_false_iff,
      List.all_eq_true] at form
    exact form
  unfold isExponent at form
  split at form
  · exact .plus (digits form)
  · exact .minus (digits form)
  · exact .bare (digits form)

/-- Digits that a fraction or an exponent follows are a decimal number. -/
theorem decimal_form {text : List Char}
    (digits : (text.takeWhile Char.isDigit).isEmpty = false)
    (tail : integralTail? (text.dropWhile Char.isDigit) = some false) :
    Binary64.IsDecimal text := by
  have whole : Text.IsDigits (text.takeWhile Char.isDigit) :=
    ⟨by simpa using digits, List.all_eq_true.mp List.all_takeWhile⟩
  have spelled := List.takeWhile_append_dropWhile (p := Char.isDigit) (l := text)
  rw [← spelled]
  unfold integralTail? at tail
  split at tail
  · contradiction
  · next rest pointed =>
      have fraction := List.takeWhile_append_dropWhile (p := Char.isDigit) (l := rest)
      have both : Text.IsDigits (text.takeWhile Char.isDigit ++ rest.takeWhile Char.isDigit) := by
        refine ⟨List.append_ne_nil_of_left_ne_nil whole.1 _, ?_⟩
        exact List.forall_mem_append.mpr ⟨whole.2, List.all_eq_true.mp List.all_takeWhile⟩
      rw [pointed, ← fraction]
      split at tail
      · next ended =>
          rw [ended]
          exact .pointed both .absent
      · next mark exponent follows =>
          rw [follows]
          split at tail
          · next power => exact .pointed both (.marked power.1 (exponent_signed power.2))
          · contradiction
  · next mark exponent _ marked =>
      rw [marked]
      split at tail
      · next power => exact .whole whole (.marked power.1 (exponent_signed power.2))
      · contradiction

/-- A minus sign may stand before the digits of a number. -/
theorem form_of_number {text : List Char} {number : NumberText}
    (form : NumberText.read? text = some number) :
    number.text = text ∧ ∃ unsigned,
      (text = '-' :: unsigned ∨ text = unsigned)
        ∧ (unsigned.takeWhile Char.isDigit).isEmpty = false
        ∧ integralTail? (unsigned.dropWhile Char.isDigit) = some number.integral := by
  unfold NumberText.read? at form
  dsimp only at form
  split at form
  all_goals
    split at form
    · contradiction
    rename_i digits
    obtain ⟨integral, tail, same⟩ := Option.map_eq_some_iff.mp form
    cases same
    simp only [Bool.or_eq_true, not_or, Bool.not_eq_true] at digits
  · exact ⟨rfl, _, .inl rfl, digits.1, tail⟩
  · exact ⟨rfl, text, .inr rfl, digits.1, tail⟩

/-- A text that begins with a digit begins with no sign. -/
theorem no_sign {text : List Char} (digits : (text.takeWhile Char.isDigit).isEmpty = false)
    {sign : Char} (no_digit : sign.isDigit = false) (rest : List Char) : text ≠ sign :: rest := by
  intro same
  rw [same, List.takeWhile_cons, no_digit] at digits
  contradiction

/-- Whatever has the form of a number but is no integer is one. -/
theorem real_read {text : List Char} {number : NumberText}
    (form : NumberText.read? text = some number) (real : number.integral = false) :
    (Binary64.read? number.text).isSome = true := by
  obtain ⟨same, unsigned, signed, digits, tail⟩ := form_of_number form
  rw [real] at tail
  rw [same]
  have decimal := decimal_form digits tail
  apply Binary64.read_isSome_iff.mpr
  rcases signed with minus | plain
  · rw [minus]
    exact .minus (.inr decimal)
  · rw [plain]
    exact .bare (.inr decimal)

theorem no_tail {tail : List Char} (integral : integralTail? tail = some true) : tail = [] := by
  unfold integralTail? at integral
  repeat' split at integral
  all_goals first
    | rfl
    | contradiction

theorem natural_read {unsigned : List Char}
    (digits : (unsigned.takeWhile Char.isDigit).isEmpty = false)
    (tail : integralTail? (unsigned.dropWhile Char.isDigit) = some true) :
    ∃ magnitude, Text.readNat? 10 unsigned = some magnitude := by
  have whole : unsigned.takeWhile Char.isDigit = unsigned := by
    have parts := List.takeWhile_append_dropWhile (p := Char.isDigit) (l := unsigned)
    rwa [no_tail tail, List.append_nil] at parts
  have all : ∀ digit ∈ unsigned, digit.isDigit = true := by
    rw [← whole]
    exact List.all_eq_true.mp List.all_takeWhile
  rw [whole] at digits
  exact ⟨_, Text.readNat_of_isDigits ⟨by simpa using digits, all⟩⟩

/-- An integer that no word holds, signed or not. -/
def Huge (value : Int) : Prop := value < -Text.halfWordCount ∨ (Text.wordCount : Int) ≤ value

theorem huge_of_no_word {text : List Char} {magnitude : Nat}
    (spelled : Text.readInt? 10 text = some (-(magnitude : Int)))
    (unread : Text.readWord? 10 text = none) : Huge (-(magnitude : Int)) := by
  rw [Text.readWord?, spelled, Option.filter_eq_none_iff] at unread
  have outside := unread _ rfl
  rw [Text.fitsWord_iff, Text.halfWordCount] at outside
  refine .inl ?_
  rw [Text.halfWordCount]
  omega

theorem huge_of_no_unsigned_word {magnitude : Nat}
    (unread : (some magnitude).filter (· < Text.wordCount) = none) : Huge magnitude := by
  have outside := Option.filter_eq_none_iff.mp unread _ rfl
  rw [decide_eq_true_iff] at outside
  exact .inr (Int.ofNat_le.mpr (Nat.le_of_not_lt outside))

/-- Only an integer that no word holds has no value. -/
theorem value_breaks {text : List Char} {number : NumberText}
    (form : NumberText.read? text = some number) :
    Yields (fun _ => True)
      (fun crash => crash = .unreadableNumber
        ∧ ∃ value, Text.readInt? 10 text = some value ∧ Huge value) number.value := by
  obtain ⟨same, unsigned, signed, digits, tail⟩ := form_of_number form
  unfold NumberText.value
  split
  · next integral =>
      rw [integral] at tail
      obtain ⟨magnitude, read⟩ := natural_read digits tail
      rw [same]
      rcases signed with minus | plain
      · subst minus
        have spelled : Text.readInt? 10 ('-' :: unsigned) = some (-(magnitude : Int)) := by
          rw [Text.readInt_minus, read]
          rfl
        cases word : Text.readWord? 10 ('-' :: unsigned) with
        | some value => exact True.intro
        | none => exact ⟨rfl, _, spelled, huge_of_no_word spelled word⟩
      · subst plain
        have spelled : Text.readInt? 10 text = some (magnitude : Int) := by
          rw [Text.readInt_unsigned (no_sign digits rfl) (no_sign digits rfl), read]
          rfl
        split
        · next rest => exact absurd rfl (no_sign digits rfl rest)
        · rw [read]
          cases word : (some magnitude).filter (· < Text.wordCount) with
          | some value => exact True.intro
          | none => exact ⟨rfl, _, spelled, huge_of_no_unsigned_word word⟩
  · next real =>
      obtain ⟨value, read⟩ :=
        Option.isSome_iff_exists.mp (real_read form (Bool.eq_false_iff.mpr real))
      rw [read]
      exact True.intro

namespace Place

/-- A place is within a text whose end is what is left there. -/
def Within (whole : List Char) (place : Place) : Prop := place.rest <:+ whole

variable {whole : List Char} {place : Place}

theorem advance_rest (place : Place) : place.advance.rest = place.rest.drop 1 := by
  unfold advance
  split
  · next ended => rw [ended]; rfl
  · next rest same => rw [same]; rfl
  · next rest _ same => rw [same]; rfl

theorem Within.advance (within : place.Within whole) : place.advance.Within whole := by
  rw [Within, advance_rest]
  exact (List.drop_suffix 1 _).trans within

theorem Within.advanceBy (within : place.Within whole) (count : Nat) :
    (place.advanceBy count).Within whole := by
  induction count generalizing place with
  | zero => exact within
  | succ count induction => exact induction within.advance

theorem skipComment_within (fuel : Nat) (within : place.Within whole) :
    Gives (Within whole) (place.skipComment? fuel) := by
  induction fuel generalizing place with
  | zero => exact .none
  | succ fuel induction =>
      unfold skipComment?
      split
      · next same _ =>
          cases same
          exact Gives.ite (.some (within.advanceBy 2)) (induction within.advance)
      · exact .none

theorem skipBlanks_within (fuel : Nat) (within : place.Within whole) :
    Gives (Within whole) (place.skipBlanks? fuel) := by
  induction fuel generalizing place with
  | zero => exact .some within
  | succ fuel induction =>
      unfold skipBlanks?
      split
      · contradiction
      · exact .some within
      · next same _ =>
          cases same
          refine Gives.ite (induction within.advance) ?_
          refine Gives.ite (induction (within.advanceBy _)) ?_
          refine Gives.ite ?_ (.some within)
          split
          · exact .none
          · exact induction (within.advanceBy _)
          · refine Gives.bind (skipComment_within _ (within.advanceBy 2)) ?_
            intro after inside
            exact induction inside
          · exact induction within.advance

end Place

/-- What was read ends within a text. -/
def EndsWithin (whole : List Char) {Value : Type} (result : Value × Place) : Prop :=
  result.2.Within whole

variable {whole : List Char} {place : Place}

theorem quoted_within (fuel : Nat) (within : place.Within whole) :
    Gives (EndsWithin whole) (readQuoted? fuel place) := by
  induction fuel generalizing place with
  | zero => exact .none
  | succ fuel induction =>
      unfold readQuoted?
      split
      · contradiction
      · exact .none
      · next same _ =>
          cases same
          refine Gives.ite (.some within.advance) (Gives.ite ?_ ?_)
          · refine Gives.bind (fun _ _ => True.intro) ?_
            intro escape _
            refine Gives.bind (induction (within.advanceBy _)) ?_
            intro result inside
            exact .some inside
          · refine Gives.bind (induction within.advance) ?_
            intro result inside
            exact .some inside

theorem indent_within (count : Nat) (within : place.Within whole) :
    (skipIndent place count).Within whole := by
  induction count generalizing place with
  | zero => exact within
  | succ count induction =>
      unfold skipIndent
      split
      · split
        · exact induction within.advance
        · exact within
      · exact within

theorem lines_within (fuel indent : Nat) (text : List Char) (within : place.Within whole) :
    Gives (EndsWithin whole) (readLines? fuel indent text place) := by
  induction fuel generalizing text place with
  | zero => exact .none
  | succ fuel induction =>
      unfold readLines?
      split
      · contradiction
      · exact .none
      · next same _ =>
          cases same
          refine Gives.ite (.some (within.advanceBy 3)) ?_
          refine Gives.ite (induction text within.advance) ?_
          refine Gives.ite ?_ (induction _ within.advance)
          exact induction _ (indent_within indent within.advance)

theorem name_within (fuel : Nat) (name : List Char) (spaced : Bool)
    (within : place.Within whole) :
    Gives (EndsWithin whole) (readName? fuel name spaced place) := by
  induction fuel generalizing name spaced place with
  | zero => exact .none
  | succ fuel induction =>
      unfold readName?
      split
      · contradiction
      · exact .none
      · next same _ =>
          cases same
          refine Gives.ite (Gives.ite .none (.some within)) ?_
          refine Gives.ite .none (Gives.ite (induction _ _ within.advance) ?_)
          exact Gives.ite .none (induction _ _ within.advance)

/-- An integer that no word holds stands somewhere in a text. -/
def HasHuge (whole : List Char) : Prop :=
  ∃ spelled, spelled <:+: whole ∧ ∃ value, Text.readInt? 10 spelled = some value ∧ Huge value

/-- Reading breaks off only at a huge integer. -/
abbrev Cause (whole : List Char) : FormatFailure → Prop :=
  FormatFailure.Caused fun crash => crash = .unreadableNumber ∧ HasHuge whole

theorem skipped_within (within : place.Within whole) :
    Yields (Place.Within whole) (Cause whole) (skipped place) :=
  Yields.require (Place.skipBlanks_within _ within)

theorem comma_within (first : Bool) (within : place.Within whole) :
    Yields (Place.Within whole) (Cause whole) (skipComma first place) := by
  unfold skipComma
  split
  · exact skipped_within within.advance
  · exact within

theorem string_within (within : place.Within whole) :
    Yields (EndsWithin whole) (Cause whole) (readString place) := by
  refine Yields.bind (Yields.require (quoted_within _ within)) ?_
  intro result inside
  exact inside

theorem multiline_within (within : place.Within whole) :
    Yields (EndsWithin whole) (Cause whole) (readMultiline place) := by
  unfold readMultiline
  have inside := indent_within (place.advanceBy 3).rest.length (within.advanceBy 3)
  refine Yields.bind (Yields.require (?_ : Gives (EndsWithin whole) _)) ?_
  · refine lines_within _ _ _ ?_
    split
    · exact indent_within _ inside.advance
    · exact inside
  · intro result inside
    exact inside

theorem key_within (within : place.Within whole) :
    Yields (EndsWithin whole) (Cause whole) (readKey place) := by
  unfold readKey
  split
  · exact string_within within.advance
  · refine Yields.bind (Yields.require (name_within _ _ _ within)) ?_
    intro result inside
    exact inside

/-- The blanks around a number do not belong to it. -/
theorem literal_breaks {text : List Char} (inside : text <:+: whole) :
    Yields (fun _ => True) (fun crash => crash = .unreadableNumber ∧ HasHuge whole)
      (literal? text) := by
  unfold literal?
  refine Yields.ite True.intro (Yields.ite True.intro (Yields.ite True.intro ?_))
  split
  · next number form =>
      refine Yields.bind ((value_breaks form).weaken (fun _ => id) ?_) (fun _ => id)
      intro crash broken
      obtain ⟨same, value, spelled, huge⟩ := broken
      have front := List.reverse_prefix.mpr (List.dropWhile_suffix Json.isBlank (l := text.reverse))
      rw [List.reverse_reverse] at front
      exact ⟨same, _, front.isInfix.trans inside, value, spelled, huge⟩
  · exact True.intro

/-- What was read of a value without quotes, and what is left, stand one after the other. -/
theorem unquoted_within (fuel : Nat) (text : List Char)
    (within : text ++ place.rest <:+ whole) :
    Yields (EndsWithin whole) (Cause whole) (readUnquoted fuel text place) := by
  induction fuel generalizing text place with
  | zero => exact True.intro
  | succ fuel induction =>
      unfold readUnquoted
      have left : place.Within whole := (List.suffix_append _ _).trans within
      have further : (text ++ place.rest.take 1) ++ place.advance.rest <:+ whole := by
        rw [Place.advance_rest, List.append_assoc, List.take_append_drop]
        exact within
      have front : text <:+: whole := (List.prefix_append _ _).isInfix.trans within.isInfix
      dsimp only
      refine Yields.ite ?_ (induction _ further)
      refine Yields.bind (Yields.mapError (literal_breaks front)) ?_
      intro literal _
      split
      · exact left
      · exact Yields.ite left (induction _ further)

/-- What all readers of values do with some fuel. -/
structure Within (whole : List Char) (fuel : Nat) : Prop where
  value : ∀ {place : Place}, place.Within whole →
    Yields (EndsWithin whole) (Cause whole) (readValue fuel place)
  items : ∀ {place : Place} (first : Bool), place.Within whole →
    Yields (EndsWithin whole) (Cause whole) (readItems fuel first place)
  members : ∀ {place : Place} (root first : Bool), place.Within whole →
    Yields (EndsWithin whole) (Cause whole) (readMembers fuel root first place)

namespace Within

variable {fuel : Nat}

theorem value_succ (inner : Within whole fuel) (within : place.Within whole) :
    Yields (EndsWithin whole) (Cause whole) (readValue (fuel + 1) place) := by
  unfold readValue
  refine Yields.bind (skipped_within within) ?_
  intro start inside
  split
  · exact True.intro
  · refine Yields.bind (string_within inside.advance) ?_
    intro result after
    exact after
  · exact multiline_within inside
  · refine Yields.bind (inner.items true inside.advance) ?_
    intro result after
    exact after
  · refine Yields.bind (inner.members false true inside.advance) ?_
    intro result after
    exact after
  · exact Yields.ite True.intro (unquoted_within _ [] inside)

theorem items_succ (inner : Within whole fuel) (first : Bool) (within : place.Within whole) :
    Yields (EndsWithin whole) (Cause whole) (readItems (fuel + 1) first place) := by
  unfold readItems
  refine Yields.bind (skipped_within within) ?_
  intro start before
  refine Yields.bind (comma_within first before) ?_
  intro start inside
  split
  · exact inside.advance
  · refine Yields.bind (inner.value inside) ?_
    intro item after
    refine Yields.bind (inner.items false after) ?_
    intro items last
    exact last

theorem members_succ (inner : Within whole fuel) (root first : Bool)
    (within : place.Within whole) :
    Yields (EndsWithin whole) (Cause whole) (readMembers (fuel + 1) root first place) := by
  unfold readMembers
  refine Yields.bind (skipped_within within) ?_
  intro start before
  refine Yields.bind (comma_within first before) ?_
  intro start inside
  split
  · exact Yields.ite inside True.intro
  · exact Yields.ite True.intro inside.advance
  · refine Yields.bind (key_within inside) ?_
    intro name named
    refine Yields.bind (skipped_within named) ?_
    intro colon marked
    split
    · refine Yields.bind (inner.value marked.advance) ?_
      intro value after
      refine Yields.bind (inner.members root false after) ?_
      intro members last
      exact last
    · exact True.intro

theorem always (fuel : Nat) : Within whole fuel := by
  induction fuel with
  | zero =>
      constructor
      all_goals
        intros
        exact True.intro
  | succ fuel inner =>
      exact ⟨inner.value_succ, inner.items_succ, inner.members_succ⟩

end Within

theorem root_breaks (text : List Char) :
    Yields (fun _ => True) (Cause text) (readRoot text) := by
  unfold readRoot
  refine Yields.ite True.intro ?_
  refine Yields.bind ((Within.always _).members true true (List.suffix_refl text)) ?_
  intro result _
  exact True.intro

theorem whole_breaks (text : List Char) :
    Yields (fun _ => True) (Cause text) (readWhole text) := by
  refine Yields.bind ((Within.always _).value (List.suffix_refl text)) ?_
  intro result within
  refine Yields.bind (skipped_within within) ?_
  intro place _
  exact Yields.ite True.intro True.intro

theorem read_breaks (text : List Char) : Yields (fun _ => True) (Cause text) (read text) := by
  unfold read
  split
  · exact whole_breaks text
  · exact root_breaks text

end Hjson
end CustomerNotice
