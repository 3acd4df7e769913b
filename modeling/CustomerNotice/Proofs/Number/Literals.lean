import CustomerNotice.Number.Literal

/-!
# Whole numbers and floating-point literals

The reader of whole numbers takes digits with an optional sign, however many they
are, and gives their value. The reader of floating-point numbers takes the literals
of the grammar and nothing else. A whole number that no word holds is read as a
floating-point number, and is then far from zero and one.
-/

namespace CustomerNotice

namespace Text

def IsDigits (text : List Char) : Prop := text ≠ [] ∧ ∀ digit ∈ text, digit.isDigit = true

/-- A form behind an optional sign. -/
inductive IsSigned (form : List Char → Prop) : List Char → Prop
  | bare {text : List Char} (unsigned : form text) : IsSigned form text
  | plus {text : List Char} (unsigned : form text) : IsSigned form ('+' :: text)
  | minus {text : List Char} (unsigned : form text) : IsSigned form ('-' :: text)

inductive IsWhole : List Char → Int → Prop
  | bare {digits : List Char} (some : IsDigits digits) :
      IsWhole digits (Nat.ofDigitChars 10 digits 0)
  | plus {digits : List Char} (some : IsDigits digits) :
      IsWhole ('+' :: digits) (Nat.ofDigitChars 10 digits 0)
  | minus {digits : List Char} (some : IsDigits digits) :
      IsWhole ('-' :: digits) (-(Nat.ofDigitChars 10 digits 0 : Int))

theorem fitsWord_iff (value : Int) :
    fitsWord value = true ↔ -(halfWordCount : Int) ≤ value ∧ value < halfWordCount := by
  rw [fitsWord, Bool.and_eq_true, decide_eq_true_iff, decide_eq_true_iff]

theorem readInt_minus (digits : List Char) :
    readInt? 10 ('-' :: digits) = (readNat? 10 digits).map fun value : Nat => -(value : Int) := by
  rw [readInt?]
  cases readNat? 10 digits with
  | none => rfl
  | some value => rfl

theorem readInt_plus (digits : List Char) :
    readInt? 10 ('+' :: digits) = (readNat? 10 digits).map Int.ofNat := rfl

theorem readInt_unsigned {text : List Char} (minus : ∀ digits, text ≠ '-' :: digits)
    (plus : ∀ digits, text ≠ '+' :: digits) :
    readInt? 10 text = (readNat? 10 text).map Int.ofNat := by
  unfold readInt?
  split
  · next digits => exact absurd rfl (minus digits)
  · next digits => exact absurd rfl (plus digits)
  · rfl

theorem isDigit_iff (character : Char) :
    character.isDigit = true ↔ '0' ≤ character ∧ character ≤ '9' := by
  simp only [Char.isDigit, Bool.and_eq_true, decide_eq_true_eq]
  exact Iff.rfl

theorem digitValue_eq (character : Char) :
    digitValue? 10 character =
      if character.isDigit then some (character.toNat - '0'.toNat) else none := by
  by_cases digit : character.isDigit = true
  · have between := (isDigit_iff character).mp digit
    have small : character.toNat - 48 < 10 := by
      have bound : character.toNat ≤ 57 := between.2
      omega
    simp [digitValue?, between, digit, small]
  · have outside : ¬('0' ≤ character ∧ character ≤ '9') := by
      rw [← isDigit_iff]
      exact digit
    -- The letters of the greater bases are worth ten and more.
    rw [digitValue?, if_neg outside, if_neg digit]
    split
    · simp
    · split
      · simp
      · rfl

theorem readDigits_eq (digits : List Char) (value : Nat) :
    readDigitsFrom 10 value digits =
      if digits.all Char.isDigit then some (Nat.ofDigitChars 10 digits value) else none := by
  induction digits generalizing value with
  | nil => simp [readDigitsFrom, Nat.ofDigitChars]
  | cons digit rest induction =>
      rw [readDigitsFrom, digitValue_eq, List.all_cons]
      by_cases here : digit.isDigit = true
      · rw [if_pos here, here, Bool.true_and, Nat.ofDigitChars_cons, Nat.mul_comm 10]
        exact induction _
      · simp only [Bool.not_eq_true] at here
        rw [here]
        rfl

theorem readNat_of_isDigits {digits : List Char} (some : IsDigits digits) :
    readNat? 10 digits = .some (Nat.ofDigitChars 10 digits 0) := by
  have something : digits.isEmpty = false := by simpa using some.1
  rw [readNat?, something, readDigits_eq, if_pos (List.all_eq_true.mpr some.2)]
  rfl

theorem isDigits_of_readNat {digits : List Char} {value : Nat}
    (read : readNat? 10 digits = some value) : IsDigits digits := by
  unfold readNat? at read
  split at read
  · contradiction
  · next something =>
      rw [readDigits_eq] at read
      split at read
      · next all => exact ⟨by simpa using something, List.all_eq_true.mp all⟩
      · contradiction

theorem IsDigits.head {digit : Char} {rest : List Char} (some : IsDigits (digit :: rest)) :
    digit.isDigit = true := some.2 digit List.mem_cons_self

theorem IsDigits.no_minus {digits : List Char} (some : IsDigits digits) :
    ∀ rest, digits ≠ '-' :: rest := by
  rintro rest rfl
  exact absurd some.head (by decide)

theorem IsDigits.no_plus {digits : List Char} (some : IsDigits digits) :
    ∀ rest, digits ≠ '+' :: rest := by
  rintro rest rfl
  exact absurd some.head (by decide)

/-- Whole numbers are read at any length. -/
theorem readInt_iff {text : List Char} {value : Int} :
    readInt? 10 text = some value ↔ IsWhole text value := by
  constructor
  · intro read
    have magnitude : ∀ {digits : List Char} {sign : Nat → Int},
        (readNat? 10 digits).map sign = some value →
          IsDigits digits ∧ value = sign (Nat.ofDigitChars 10 digits 0) := by
      intro digits sign found
      obtain ⟨number, natural, same⟩ := Option.map_eq_some_iff.mp found
      have known := isDigits_of_readNat natural
      rw [readNat_of_isDigits known, Option.some.injEq] at natural
      exact ⟨known, by rw [← same, natural]⟩
    by_cases minus : ∃ digits, text = '-' :: digits
    · obtain ⟨digits, rfl⟩ := minus
      rw [readInt_minus] at read
      obtain ⟨known, rfl⟩ := magnitude read
      exact .minus known
    · by_cases plus : ∃ digits, text = '+' :: digits
      · obtain ⟨digits, rfl⟩ := plus
        rw [readInt_plus] at read
        obtain ⟨known, rfl⟩ := magnitude read
        exact .plus known
      · rw [readInt_unsigned (not_exists.mp minus) (not_exists.mp plus)] at read
        obtain ⟨known, rfl⟩ := magnitude read
        exact .bare known
  · intro whole
    cases whole with
    | bare digits =>
        rw [readInt_unsigned digits.no_minus digits.no_plus, readNat_of_isDigits digits]
        rfl
    | plus digits =>
        rw [readInt_plus, readNat_of_isDigits digits]
        rfl
    | minus digits =>
        rw [readInt_minus, readNat_of_isDigits digits]
        rfl

theorem readInt_isSome_iff {text : List Char} :
    (readInt? 10 text).isSome = true ↔ IsSigned IsDigits text := by
  rw [Option.isSome_iff_exists]
  constructor
  · rintro ⟨value, read⟩
    cases readInt_iff.mp read with
    | bare digits => exact .bare digits
    | plus digits => exact .plus digits
    | minus digits => exact .minus digits
  · intro signed
    cases signed with
    | bare digits => exact ⟨_, readInt_iff.mpr (.bare digits)⟩
    | plus digits => exact ⟨_, readInt_iff.mpr (.plus digits)⟩
    | minus digits => exact ⟨_, readInt_iff.mpr (.minus digits)⟩

end Text

namespace Binary64

open Text (IsDigits IsSigned)

/-- Nothing, or an exponent mark and an exponent. -/
inductive IsExponent : List Char → Prop
  | absent : IsExponent []
  | marked {mark : Char} {power : List Char} (marks : mark = 'e' ∨ mark = 'E')
      (signed : IsSigned IsDigits power) : IsExponent (mark :: power)

/-- Digits with an optional point among them and an optional exponent. -/
inductive IsDecimal : List Char → Prop
  | whole {digits exponent : List Char} (some : IsDigits digits)
      (powers : IsExponent exponent) : IsDecimal (digits ++ exponent)
  | pointed {whole fraction exponent : List Char} (some : IsDigits (whole ++ fraction))
      (powers : IsExponent exponent) : IsDecimal (whole ++ '.' :: (fraction ++ exponent))

def words : List String := ["inf", "infinity", "nan"]

/-- A literal: a word in any case or a decimal number, with an optional sign. -/
def IsLiteral : List Char → Prop :=
  IsSigned fun text => String.ofList (text.map Char.toLower) ∈ words ∨ IsDecimal text

theorem readExponent_isSome_iff {text : List Char} :
    (readExponent? text).isSome = true ↔ IsExponent text := by
  cases text with
  | nil => simp [readExponent?, IsExponent.absent]
  | cons mark power =>
      rw [readExponent?]
      by_cases marks : mark = 'e' ∨ mark = 'E'
      · rw [if_pos marks, Text.readInt_isSome_iff]
        constructor
        · exact .marked marks
        · intro exponent
          cases exponent with
          | marked _ signed => exact signed
      · rw [if_neg marks]
        constructor
        · intro absent
          contradiction
        · intro exponent
          cases exponent with
          | marked also _ => exact absurd also marks

/-- No digit begins an exponent. -/
theorem IsExponent.spanDigits {exponent : List Char} (powers : IsExponent exponent)
    {digits : List Char} (all : ∀ digit ∈ digits, digit.isDigit = true) :
    spanDigits (digits ++ exponent) = (digits, exponent) := by
  have none_follows : exponent.takeWhile Char.isDigit = [] ∧
      exponent.dropWhile Char.isDigit = exponent := by
    cases powers with
    | absent => exact ⟨rfl, rfl⟩
    | marked marks _ => rcases marks with rfl | rfl <;> exact ⟨rfl, rfl⟩
  rw [Binary64.spanDigits, List.takeWhile_append_of_pos all, List.dropWhile_append_of_pos all,
    none_follows.1, none_follows.2, List.append_nil]

theorem spanDigits_point {digits : List Char} (all : ∀ digit ∈ digits, digit.isDigit = true)
    (rest : List Char) : spanDigits (digits ++ '.' :: rest) = (digits, '.' :: rest) := by
  have point : '.'.isDigit = false := by decide
  rw [spanDigits, List.takeWhile_append_of_pos all, List.dropWhile_append_of_pos all,
    List.takeWhile_cons, List.dropWhile_cons, point]
  simp

theorem spanDigits_parts {text whole rest : List Char}
    (parts : spanDigits text = (whole, rest)) :
    text = whole ++ rest ∧ ∀ digit ∈ whole, digit.isDigit = true := by
  obtain ⟨rfl, rfl⟩ := Prod.mk.inj parts
  constructor
  · exact (List.takeWhile_append_dropWhile).symm
  · exact List.all_eq_true.mp List.all_takeWhile

theorem readDecimal_whole (negative : Bool) {text whole rest : List Char}
    (parts : spanDigits text = (whole, rest)) (no_point : ∀ after, rest ≠ '.' :: after) :
    readDecimal? negative text =
      if whole.isEmpty then none
      else (readExponent? rest).map (ofDecimal negative (digitsValue whole)) := by
  unfold readDecimal?
  rw [parts]
  dsimp only
  split
  · next after => exact absurd rfl (no_point after)
  · cases readExponent? rest with
    | none => simp
    | some exponent => simp

theorem readDecimal_pointed (negative : Bool) {text whole fraction after rest : List Char}
    (parts : spanDigits text = (whole, '.' :: after))
    (also : spanDigits after = (fraction, rest)) :
    readDecimal? negative text =
      if (whole ++ fraction).isEmpty then none
      else (readExponent? rest).map fun exponent =>
        ofDecimal negative (digitsValue (whole ++ fraction)) (exponent - fraction.length) := by
  unfold readDecimal?
  simp only [parts, also]
  cases readExponent? rest with
  | none => simp
  | some exponent => simp

theorem isDecimal_of_read {negative : Bool} {text : List Char}
    (read : (readDecimal? negative text).isSome = true) : IsDecimal text := by
  cases parts : spanDigits text with
  | mk whole rest =>
      obtain ⟨rfl, digits⟩ := spanDigits_parts parts
      -- Only behind a point are there further digits before the exponent.
      by_cases point : ∃ after, rest = '.' :: after
      · obtain ⟨after, rfl⟩ := point
        cases also : spanDigits after with
        | mk fraction exponent =>
            obtain ⟨rfl, also_digits⟩ := spanDigits_parts also
            rw [readDecimal_pointed negative parts also] at read
            split at read
            · contradiction
            · next something =>
                rw [Option.isSome_map] at read
                have all := List.forall_mem_append.mpr ⟨digits, also_digits⟩
                exact .pointed ⟨by simpa using something, all⟩ (readExponent_isSome_iff.mp read)
      · rw [readDecimal_whole negative parts (not_exists.mp point)] at read
        split at read
        · contradiction
        · next something =>
            rw [Option.isSome_map] at read
            exact .whole ⟨by simpa using something, digits⟩ (readExponent_isSome_iff.mp read)

theorem readDecimal_isSome_iff (negative : Bool) {text : List Char} :
    (readDecimal? negative text).isSome = true ↔ IsDecimal text := by
  constructor
  · exact isDecimal_of_read
  · intro decimal
    cases decimal with
    | @whole digits exponent some powers =>
        have no_point : ∀ after, exponent ≠ '.' :: after := by
          rintro after rfl
          cases powers with
          | marked marks _ => rcases marks with wrong | wrong <;> exact absurd wrong (by decide)
        have something : digits.isEmpty = false := by simpa using some.1
        rw [readDecimal_whole negative (powers.spanDigits some.2) no_point, something,
          if_neg Bool.false_ne_true, Option.isSome_map]
        exact readExponent_isSome_iff.mpr powers
    | @pointed whole fraction exponent some powers =>
        have all := List.forall_mem_append.mp some.2
        have something : (whole ++ fraction).isEmpty = false := by simpa using some.1
        rw [readDecimal_pointed negative (spanDigits_point all.1 _) (powers.spanDigits all.2),
          something, if_neg Bool.false_ne_true, Option.isSome_map]
        exact readExponent_isSome_iff.mpr powers

theorem readUnsigned_isSome_iff (negative : Bool) {text : List Char} :
    (readUnsigned? negative text).isSome = true ↔
      String.ofList (text.map Char.toLower) ∈ words ∨ IsDecimal text := by
  unfold readUnsigned?
  dsimp only
  by_cases infinity : String.ofList (text.map Char.toLower) = "inf" ∨
      String.ofList (text.map Char.toLower) = "infinity"
  · have word : String.ofList (text.map Char.toLower) ∈ words := by
      rcases infinity with short | long
      · simp [words, short]
      · simp [words, long]
    rw [if_pos infinity]
    exact ⟨fun _ => .inl word, fun _ => rfl⟩
  · rw [if_neg infinity]
    by_cases undefined : String.ofList (text.map Char.toLower) = "nan"
    · rw [if_pos undefined]
      exact ⟨fun _ => .inl (by simp [words, undefined]), fun _ => rfl⟩
    · have no_word : String.ofList (text.map Char.toLower) ∉ words := by
        simp only [words, List.mem_cons, List.not_mem_nil, or_false, not_or] at infinity ⊢
        exact ⟨infinity.1, infinity.2, undefined⟩
      rw [if_neg undefined, readDecimal_isSome_iff, or_iff_right no_word]

theorem IsDecimal.head {first : Char} {rest : List Char} (decimal : IsDecimal (first :: rest)) :
    first.isDigit = true ∨ first = '.' := by
  generalize spelled : first :: rest = text at decimal
  cases decimal with
  | @whole digits exponent some powers =>
      cases digits with
      | nil => exact absurd rfl some.1
      | cons digit others =>
          cases spelled
          exact .inl some.head
  | @pointed whole fraction exponent some powers =>
      cases whole with
      | nil =>
          cases spelled
          exact .inr rfl
      | cons digit others =>
          cases spelled
          exact .inl (IsDigits.head some)

theorem word_head {first : Char} {rest : List Char}
    (word : String.ofList ((first :: rest).map Char.toLower) ∈ words) :
    first.toLower = 'i' ∨ first.toLower = 'n' := by
  have heads : ∀ word ∈ words, word.toList.head? = some 'i' ∨ word.toList.head? = some 'n' := by
    decide
  have head := heads _ word
  rwa [String.toList_ofList, List.map_cons, List.head?_cons, Option.some.injEq,
    Option.some.injEq] at head

theorem toLower_of_digit {character : Char} (digit : character.isDigit = true) :
    character.toLower = character := by
  have bound : character.toNat ≤ 57 := ((Text.isDigit_iff character).mp digit).2
  have no_capital : ¬(character.val ≥ 'A'.val ∧ character.val ≤ 'Z'.val) := by
    intro capital
    have least : 65 ≤ character.toNat := capital.1
    omega
  exact dif_neg no_capital

theorem no_sign_of_unsigned {sign : Char} {rest : List Char} (signs : sign = '-' ∨ sign = '+') :
    ¬(String.ofList ((sign :: rest).map Char.toLower) ∈ words ∨ IsDecimal (sign :: rest)) := by
  have no_letter : sign.toLower ≠ 'i' ∧ sign.toLower ≠ 'n' := by
    rcases signs with rfl | rfl <;> decide
  have no_digit : sign.isDigit = false ∧ sign ≠ '.' := by
    rcases signs with rfl | rfl <;> decide
  rintro (word | decimal)
  · exact (word_head word).elim no_letter.1 no_letter.2
  · rcases decimal.head with digit | point
    · rw [no_digit.1] at digit
      contradiction
    · exact no_digit.2 point

/-- The literals are what is read, and nothing else. -/
theorem read_isSome_iff {text : List Char} : (read? text).isSome = true ↔ IsLiteral text := by
  unfold read?
  constructor
  · intro read
    split at read
    · exact .minus ((readUnsigned_isSome_iff true).mp read)
    · exact .plus ((readUnsigned_isSome_iff false).mp read)
    · exact .bare ((readUnsigned_isSome_iff false).mp read)
  · intro literal
    cases literal with
    | bare unsigned =>
        split
        · exact absurd unsigned (no_sign_of_unsigned (.inl rfl))
        · exact absurd unsigned (no_sign_of_unsigned (.inr rfl))
        · exact (readUnsigned_isSome_iff false).mpr unsigned
    | plus unsigned => exact (readUnsigned_isSome_iff false).mpr unsigned
    | minus unsigned => exact (readUnsigned_isSome_iff true).mpr unsigned

theorem quotient_le_round (numerator denominator : Nat) :
    numerator / denominator ≤ roundHalfEven numerator denominator := by
  unfold roundHalfEven
  dsimp only
  split
  · exact Nat.le_refl _
  · split
    · exact Nat.le_add_right _ _
    · exact Nat.le_add_right _ _

theorem nonzero_of_large {value : Nat} (large : Text.halfWordCount ≤ value) : value ≠ 0 := by
  unfold Text.halfWordCount at large
  omega

/-- The mantissa of a great whole number is cut off behind its first bits. -/
theorem exponentOf_of_large {value : Nat} (large : Text.halfWordCount ≤ value) :
    0 < exponentOf value 1 ∧ exponentOf value 1 ≤ Nat.log2 value := by
  have nonzero := nonzero_of_large large
  have bits : 63 ≤ Nat.log2 value := (Nat.le_log2 nonzero).mpr large
  have unit : Nat.log2 1 = 0 := by decide
  have least : leastExponent = -1074 := rfl
  unfold exponentOf
  dsimp only
  split <;> omega

theorem scale_down {value : Nat} {exponent : Int} (positive : 0 < exponent) :
    scale 2 value 1 (-exponent) = (value, Nat.pow 2 exponent.toNat) := by
  have negative : ¬(0 ≤ -exponent) := by omega
  rw [scale, if_neg negative, Int.neg_neg, Nat.one_mul]

theorem ofRatio_eq {numerator denominator scaled unit mantissa : Nat} {exponent : Int}
    (nonzero : numerator ≠ 0) (power : exponentOf numerator denominator = exponent)
    (scales : scale 2 numerator denominator (-exponent) = (scaled, unit))
    (rounds : roundHalfEven scaled unit = mantissa) (negative : Bool) :
    ofRatio negative numerator denominator =
      if mantissa = 2 * leastMantissa then
        if greatestExponent < exponent + 1 then .infinite negative
        else .finite negative leastMantissa (exponent + 1)
      else if greatestExponent < exponent then .infinite negative
      else .finite negative mantissa exponent := by
  rw [ofRatio, if_neg nonzero, power]
  dsimp only
  rw [scales]
  dsimp only
  rw [rounds]
  by_cases carry : mantissa = 2 * leastMantissa
  · simp only [if_pos carry]
  · simp only [if_neg carry]

/-- A great whole number becomes an infinity or a multiple of two other than zero. -/
theorem ofRatio_of_large {value : Nat} (large : Text.halfWordCount ≤ value) (negative : Bool) :
    ofRatio negative value 1 = .infinite negative ∨
      ∃ mantissa exponent, ofRatio negative value 1 = .finite negative mantissa exponent ∧
        0 < mantissa ∧ 0 < exponent := by
  have nonzero := nonzero_of_large large
  obtain ⟨positive, bounded⟩ := exponentOf_of_large large
  have unit_le : 2 ^ (exponentOf value 1).toNat ≤ value := by
    have power : (exponentOf value 1).toNat ≤ Nat.log2 value := by omega
    calc 2 ^ (exponentOf value 1).toNat
        ≤ 2 ^ Nat.log2 value := Nat.pow_le_pow_right (by decide) power
      _ ≤ value := Nat.log2_self_le nonzero
  have rounded : 0 < roundHalfEven value (2 ^ (exponentOf value 1).toNat) := by
    have quotient : 0 < value / 2 ^ (exponentOf value 1).toNat :=
      Nat.div_pos unit_le (Nat.two_pow_pos _)
    exact Nat.lt_of_lt_of_le quotient (quotient_le_round _ _)
  have least : 0 < leastMantissa := by decide
  rw [ofRatio_eq nonzero rfl (scale_down positive) rfl]
  split
  · split
    · exact .inl rfl
    · exact .inr ⟨_, _, rfl, least, by omega⟩
  · split
    · exact .inl rfl
    · exact .inr ⟨_, _, rfl, rounded, positive⟩

theorem ofDecimal_whole {digits : Nat} (nonzero : digits ≠ 0) (negative : Bool) :
    ofDecimal negative digits 0 = .infinite negative ∨
      ofDecimal negative digits 0 = ofRatio negative digits 1 := by
  unfold ofDecimal
  rw [if_neg nonzero]
  dsimp only
  split
  · exact .inl rfl
  · split
    · next small =>
        have positive := Nat.zero_le (Nat.toDigits 10 digits).length
        omega
    · right
      rw [scale, if_pos (Int.le_refl 0)]
      exact congrArg (ofRatio negative · 1) (Nat.mul_one digits)

theorem nearOne_of_multiple {mantissa : Nat} {exponent : Int} (some : 0 < mantissa)
    (positive : 0 < exponent) (negative : Bool) :
    nearOne (.finite negative mantissa exponent) = false := by
  cases negative with
  | true => rfl
  | false =>
      have power : 2 ≤ 2 ^ exponent.toNat := by
        have one_le : 1 ≤ exponent.toNat := by omega
        calc 2 = 2 ^ 1 := rfl
          _ ≤ 2 ^ exponent.toNat := Nat.pow_le_pow_right (by decide) one_le
      have product : 2 ≤ mantissa * Nat.pow 2 exponent.toNat := by
        have least : 1 * 2 ≤ mantissa * 2 ^ exponent.toNat := Nat.mul_le_mul some power
        exact least
      rw [nearOne, scale, if_pos (Int.le_of_lt positive)]
      simp only [decide_eq_false_iff_not, Nat.not_lt]
      have distance : 1 ≤ max (mantissa * Nat.pow 2 exponent.toNat) 1 -
          min (mantissa * Nat.pow 2 exponent.toNat) 1 := by omega
      exact Nat.mul_le_mul distance (by decide : 1 ≤ leastMantissa)

/-- A great whole number is neither near one nor zero. -/
theorem ofDecimal_of_large {digits : Nat} (large : Text.halfWordCount ≤ digits)
    (negative : Bool) :
    (ofDecimal negative digits 0).nearOne = false ∧ (ofDecimal negative digits 0).isZero = false := by
  have nonzero := nonzero_of_large large
  have infinite : nearOne (.infinite negative) = false ∧ isZero (.infinite negative) = false := by
    cases negative <;> exact ⟨rfl, rfl⟩
  rcases ofDecimal_whole nonzero negative with unlimited | ratio
  · rw [unlimited]
    exact infinite
  · rw [ratio]
    rcases ofRatio_of_large large negative with unlimited | ⟨mantissa, exponent, same, some, positive⟩
    · rw [unlimited]
      exact infinite
    · rw [same]
      refine ⟨nearOne_of_multiple some positive negative, ?_⟩
      simp only [isZero, decide_eq_false_iff_not]
      omega

theorem digitsValue_eq {digits : List Char} (all : ∀ digit ∈ digits, digit.isDigit = true) :
    digitsValue digits = Nat.ofDigitChars 10 digits 0 := by
  rw [digitsValue, Text.readDigits_eq, if_pos (List.all_eq_true.mpr all)]
  rfl

/-- Digits alone are read as the number of their value. -/
theorem readUnsigned_of_digits {digits : List Char} (some : IsDigits digits) (negative : Bool) :
    readUnsigned? negative digits =
      .some (ofDecimal negative (Nat.ofDigitChars 10 digits 0) 0) := by
  have no_word : String.ofList (digits.map Char.toLower) ∉ words := by
    intro word
    cases digits with
    | nil => exact absurd rfl some.1
    | cons first rest =>
        have digit := some.head
        rw [← toLower_of_digit digit] at digit
        rcases word_head word with short | long
        · rw [short] at digit
          contradiction
        · rw [long] at digit
          contradiction
  have something : digits.isEmpty = false := by simpa using some.1
  have parts : spanDigits digits = (digits, []) := by
    simpa using IsExponent.absent.spanDigits some.2
  simp only [words, List.mem_cons, List.not_mem_nil, or_false, not_or] at no_word
  unfold readUnsigned?
  dsimp only
  rw [if_neg (not_or.mpr ⟨no_word.1, no_word.2.1⟩), if_neg no_word.2.2,
    readDecimal_whole negative parts (by simp), something, if_neg Bool.false_ne_true,
    digitsValue_eq some.2]
  rfl

/-- A whole number is read as the floating-point number of its magnitude. -/
theorem read_of_whole {text : List Char} {value : Int} (whole : Text.IsWhole text value) :
    ∃ negative, read? text = some (ofDecimal negative value.natAbs 0) := by
  cases whole with
  | bare digits =>
      refine ⟨false, ?_⟩
      unfold read?
      split
      · next rest => exact absurd rfl (digits.no_minus rest)
      · next rest => exact absurd rfl (digits.no_plus rest)
      · exact readUnsigned_of_digits digits false
  | plus digits => exact ⟨false, readUnsigned_of_digits digits false⟩
  | minus digits =>
      refine ⟨true, ?_⟩
      rw [Int.natAbs_neg]
      exact readUnsigned_of_digits digits true

end Binary64
end CustomerNotice
