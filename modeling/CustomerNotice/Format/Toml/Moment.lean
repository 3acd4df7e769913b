import CustomerNotice.Text.Integer

/-!
Dates and times of TOML. They are settings like any other text, so what counts is the one text in
which each is written again: the letter T between date and time, no zeros at the end of a fraction
of a second, and no more than nine digits of it.
-/

namespace CustomerNotice
namespace Toml

structure Date where
  year : Nat
  month : Nat
  day : Nat
  deriving DecidableEq, Repr

structure Time where
  hour : Nat
  minute : Nat
  second : Nat
  nanosecond : Nat
  deriving DecidableEq, Repr

inductive Offset
  | zulu
  | ahead (hours : Int) (minutes : Nat)
  deriving DecidableEq, Repr

structure Moment where
  date : Option Date
  time : Option Time
  offset : Option Offset
  deriving DecidableEq, Repr

/-- Exactly `count` decimal digits. -/
def readPlaces? (count : Nat) (text : List Char) : Option (Nat × List Char) := do
  if text.length < count then none
  else return (← Text.readNat? 10 (text.take count), text.drop count)

def expectMark? (mark : Char) : List Char → Option (List Char)
  | character :: rest => if character = mark then some rest else none
  | [] => none

def readDate? (text : List Char) : Option (Date × List Char) := do
  let (year, rest) ← readPlaces? 4 text
  let (month, rest) ← readPlaces? 2 (← expectMark? '-' rest)
  let (day, rest) ← readPlaces? 2 (← expectMark? '-' rest)
  if 1 ≤ month ∧ month ≤ 12 ∧ 1 ≤ day ∧ day ≤ 31 then some (⟨year, month, day⟩, rest) else none

def nanosecondsOf (digits : List Char) : Nat :=
  ((Text.readNat? 10 ((digits ++ List.replicate 9 '0').take 9)).getD 0)

def readFraction? : List Char → Option (Nat × List Char)
  | '.' :: text =>
      let digits := text.takeWhile Char.isDigit
      if digits.isEmpty then none else some (nanosecondsOf digits, text.dropWhile Char.isDigit)
  | text => some (0, text)

def readTime? (text : List Char) : Option (Time × List Char) := do
  let (hour, rest) ← readPlaces? 2 text
  let (minute, rest) ← readPlaces? 2 (← expectMark? ':' rest)
  let (second, rest) ← readPlaces? 2 (← expectMark? ':' rest)
  let (nanosecond, rest) ← readFraction? rest
  if hour ≤ 24 ∧ minute ≤ 59 ∧ second ≤ 59 then some (⟨hour, minute, second, nanosecond⟩, rest)
  else none

def readOffset? : List Char → Option (Option Offset)
  | [] => some none
  | ['Z'] => some (some .zulu)
  | ['z'] => some (some .zulu)
  | sign :: text => do
      let (hours, rest) ← readPlaces? 2 text
      match ← readPlaces? 2 (← expectMark? ':' rest) with
      | (minutes, []) =>
          if sign = '+' then some (some (.ahead hours minutes))
          else if sign = '-' then some (some (.ahead (-hours) minutes))
          else none
      | _ => none

def readDated? (text : List Char) : Option Moment := do
  let (date, rest) ← readDate? text
  match rest with
  | [] => some ⟨some date, none, none⟩
  | mark :: after =>
      if mark = 'T' ∨ mark = 't' ∨ mark = ' ' then do
        let (time, rest) ← readTime? after
        return ⟨some date, some time, ← readOffset? rest⟩
      else return ⟨some date, none, ← readOffset? rest⟩

/-- The moment that a text spells. A colon behind two characters makes it a time without a
date. -/
def Moment.read? (text : List Char) : Option Moment :=
  match text with
  | _ :: _ :: ':' :: _ => do
      match ← readTime? text with
      | (time, []) => some ⟨none, some time, none⟩
      | _ => none
  | _ => readDated? text

def padded (width value : Nat) : String :=
  let digits := value.repr
  String.ofList (List.replicate (width - digits.length) '0') ++ digits

def Date.text (date : Date) : String :=
  padded 4 date.year ++ "-" ++ padded 2 date.month ++ "-" ++ padded 2 date.day

/-- The fraction of a second with its point; nothing if it is zero. -/
def fractionText (nanosecond : Nat) : String :=
  if nanosecond = 0 then ""
  else
    let digits := (padded 9 nanosecond).toList
    "." ++ String.ofList (digits.reverse.dropWhile (· = '0')).reverse

def Time.text (time : Time) : String :=
  padded 2 time.hour ++ ":" ++ padded 2 time.minute ++ ":" ++ padded 2 time.second
    ++ fractionText time.nanosecond

/-- The hours carry the sign, so that an offset of no full hour is written as ahead. -/
def Offset.text : Offset → String
  | zulu => "Z"
  | ahead hours minutes =>
      (if hours < 0 then "-" else "+") ++ padded 2 hours.natAbs ++ ":" ++ padded 2 minutes

def Moment.text (moment : Moment) : String :=
  let between := if moment.date.isSome && moment.time.isSome then "T" else ""
  (moment.date.map Date.text).getD "" ++ between ++ (moment.time.map Time.text).getD ""
    ++ (moment.offset.map Offset.text).getD ""

end Toml
end CustomerNotice
