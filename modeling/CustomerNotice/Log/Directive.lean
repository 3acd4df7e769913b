import CustomerNotice.Log.Signal
import CustomerNotice.Number.Literal
import CustomerNotice.Text.CodeRanges
import CustomerNotice.Text.Integer
import CustomerNotice.Text.WordTable

/-!
Directives of a filter and how they are read: a target, a span in brackets with a field in braces,
and a threshold behind an equals sign, each of which may be left out. A directive is read with its
blanks cut off, but its parts are taken out of the text as it was given, at the same positions in
octets. Blanks at its beginning therefore shift the parts, and where a part would then begin or
end inside a character the reading breaks off.
-/

namespace CustomerNotice

/-- A library of patterns: which texts are patterns, and which values a pattern fits. It is left
open what patterns there are, and what is drawn where an identifier is drawn afresh. -/
structure Patterns where
  reads : String → Bool
  fits : String → FieldValue → Bool

namespace Patterns

def isPlain (character : Char) : Bool :=
  character.isAlphanum || character = ' ' || character = '_' || character = '-'
    || character = '@'

/-- Whether the word comes in the text and nothing stands behind its first occurrence. -/
def endsFirst (word : List Char) : List Char → Bool
  | [] => word.isEmpty
  | character :: rest =>
      if word.isPrefixOf (character :: rest) then word.length = rest.length + 1
      else endsFirst word rest

def words : Patterns where
  reads := fun text => text.toList.all isPlain
  fits := fun word value =>
    match value with
    | .text text => endsFirst word.toList text.toList
    | _ => false

end Patterns

inductive ValuePattern
  | flag (value : Bool)
  | number
  | pattern (text : String)
  deriving DecidableEq, Repr

structure FieldPattern where
  name : String
  value? : Option ValuePattern
  deriving DecidableEq, Repr

/-- The empty target stands for none. -/
structure Directive where
  target : String
  span? : Option String
  field? : Option FieldPattern
  threshold : Threshold
  deriving DecidableEq, Repr

inductive FilterFailure
  | refused
  | brokenOff
  deriving DecidableEq, Repr

namespace Text

def octets : List Char → Nat
  | [] => 0
  | character :: rest => character.utf8Size + octets rest

/-- What stands behind a number of octets, unless these end inside a character. -/
def dropOctets? : Nat → List Char → Option (List Char)
  | 0, text => some text
  | _ + 1, [] => none
  | count + 1, character :: rest =>
      if character.utf8Size ≤ count + 1 then dropOctets? (count + 1 - character.utf8Size) rest
      else none

def takeOctets? : Nat → List Char → Option (List Char)
  | 0, _ => some []
  | _ + 1, [] => none
  | count + 1, character :: rest =>
      if character.utf8Size ≤ count + 1 then
        (takeOctets? (count + 1 - character.utf8Size) rest).map (character :: ·)
      else none

end Text

namespace FieldPattern

def splitEquals : List Char → List Char × List (List Char)
  | [] => ([], [])
  | character :: rest =>
      let (first, others) := splitEquals rest
      if character = '=' then ([], first :: others) else (character :: first, others)

/-- A truth value and a number count as such; anything else has to be a pattern. -/
def readValue? (patterns : Patterns) (text : List Char) : Option ValuePattern :=
  if text = "true".toList then some (.flag true)
  else if text = "false".toList then some (.flag false)
  else if (Binary64.read? text).isSome then some .number
  else if patterns.reads (String.ofList text) then some (.pattern (String.ofList text))
  else none

/-- A name, and behind an equals sign a value. What stands behind a further one is not looked at. -/
def read? (patterns : Patterns) (text : List Char) : Option FieldPattern :=
  match splitEquals text with
  | (name, []) => some ⟨String.ofList name, none⟩
  | (name, value :: _) => (readValue? patterns value).map (⟨String.ofList name, some ·⟩)

end FieldPattern

namespace Directive

def readNumber? : List Char → Option Nat
  | '+' :: digits => Text.readNat? 10 digits
  | digits => Text.readNat? 10 digits

/-- The threshold that a word names: a level, `off`, or a number from zero to five. -/
def readThreshold? (word : String) : Option Threshold :=
  match readNumber? word.toList with
  | some value =>
      if value = 0 then some none
      else (Level.all.find? fun level => level.verbosity = value).map some
  | none =>
      if word.map Char.toLower = "off" then some none
      else (Level.ofLabel? word).map some

def mayBegin (character : Char) : Bool :=
  character = '_' || character = ':' || character = '-'
    || Text.alphanumericRanges.contains character

inductive Stage
  | start
  | word
  | level (begin : Nat)
  | span (begin : Nat)
  | field (begin : Nat)
  | fieldRead
  | spanRead
  deriving DecidableEq, Repr

def sliced (text : List Char) (begin stop : Nat) : Except FilterFailure (List Char) :=
  match (Text.dropOctets? begin text).bind (Text.takeOctets? (stop - begin)) with
  | some part => .ok part
  | none => .error .brokenOff

def remaining (text : List Char) (begin : Nat) : Except FilterFailure (List Char) :=
  match Text.dropOctets? begin text with
  | some part => .ok part
  | none => .error .brokenOff

def required {Value : Type} : Option Value → Except FilterFailure Value
  | some value => .ok value
  | none => .error .refused

def anything : Directive := ⟨"", none, none, some .trace⟩

section

variable (patterns : Patterns) (text : List Char)

def step (directive : Directive) (position : Nat) (character : Char) :
    Stage → Except FilterFailure (Directive × Stage)
  | .start =>
      if character = '[' then .ok (directive, .span (position + 1))
      else if mayBegin character then .ok (directive, .word)
      else .error .refused
  | .word =>
      if character = '=' then do
        let target ← sliced text 0 position
        return ({ directive with target := String.ofList target }, .level (position + 1))
      else if character = '[' then do
        let target ← sliced text 0 position
        return ({ directive with target := String.ofList target }, .span (position + 1))
      else .ok (directive, .word)
  | .level begin => .ok (directive, .level begin)
  | .span begin =>
      if character = ']' then do
        let name ← sliced text begin position
        return ({ directive with span? := some (String.ofList name) }, .spanRead)
      else if character = '\x7b' then do
        let name ← sliced text begin position
        let span? := if name.isEmpty then none else some (String.ofList name)
        return ({ directive with span? }, .field (position + 1))
      else .ok (directive, .span begin)
  | .field begin =>
      if character = '\x7d' then do
        let written ← sliced text begin position
        if written.isEmpty then .error .refused
        else
          let field ← required (FieldPattern.read? patterns written)
          return ({ directive with field? := some field }, .fieldRead)
      else .ok (directive, .field begin)
  | .fieldRead => if character = ']' then .ok (directive, .spanRead) else .error .refused
  | .spanRead =>
      if character = '=' then .ok (directive, .level (position + 1)) else .error .refused

def scan (directive : Directive) (stage : Stage) (position : Nat) :
    List Char → Except FilterFailure (Directive × Stage)
  | [] => .ok (directive, stage)
  | character :: rest => do
      let (directive, stage) ← step patterns text directive position character stage
      scan directive stage (position + character.utf8Size) rest

/-- A word alone is a threshold, or else a target of which everything passes. -/
def ofWord (directive : Directive) : Directive :=
  match readThreshold? (String.ofList text) with
  | some threshold => { directive with threshold }
  | none => { directive with target := String.ofList text }

def finish (directive : Directive) : Stage → Except FilterFailure Directive
  | .word => .ok (ofWord text directive)
  | .level begin => do
      let word ← remaining text begin
      if word.isEmpty then return directive
      else
        let threshold ← required (readThreshold? (String.ofList word))
        return { directive with threshold }
  | .spanRead => .ok directive
  | _ => .error .refused

end

def read (patterns : Patterns) (text : String) : Except FilterFailure Directive := do
  let (directive, stage) ← scan patterns text.toList anything .start 0 (Text.trim text.toList)
  finish text.toList directive stage

end Directive
end CustomerNotice
