import CustomerNotice.Format.Yaml.Cursor
import CustomerNotice.Format.Yaml.Flow

/-!
Tokens of YAML: the indicators of the text, with the beginnings and ends of collections that only
show in its indentation. Those of directives and of the properties of nodes, which are anchors,
aliases and tags, are read here.
-/

namespace CustomerNotice
namespace Yaml

inductive Token
  | versionDirective
  | tagDirective
  | documentStart
  | documentEnd
  | blockSequenceStart
  | blockMappingStart
  | blockEnd
  | flowSequenceStart
  | flowSequenceEnd
  | flowMappingStart
  | flowMappingEnd
  | blockEntry
  | flowEntry
  | key
  | value
  | alias (name : String)
  | anchor (name : String)
  | tag (handle suffix : String)
  | scalar (plain : Bool) (text : String)
  | streamEnd
  deriving DecidableEq, Repr

/-- A character of a tag's address; a percent sign begins an encoded octet. -/
def isAddressCharacter (character : Char) : Bool :=
  isWordCharacter character || ";/?:@&=+$,.!~*'()[]%".toList.contains character

def encodedWidth? (octet : Nat) : Option Nat :=
  if octet < 0x80 then some 1
  else if 0xc0 ≤ octet ∧ octet < 0xe0 then some 2
  else if 0xe0 ≤ octet ∧ octet < 0xf0 then some 3
  else if 0xf0 ≤ octet ∧ octet < 0xf8 then some 4
  else none

def readOctet? (cursor : Cursor) : Option (Nat × Cursor) :=
  match cursor.rest with
  | '%' :: high :: low :: _ => (Text.readNat? 16 [high, low]).map (·, cursor.advanceBy 3)
  | _ => none

def readTrailing? : Nat → Nat → Cursor → Option (Nat × Cursor)
  | 0, code, cursor => some (code, cursor)
  | count + 1, code, cursor => do
      let (octet, cursor) ← readOctet? cursor
      if 0x80 ≤ octet ∧ octet < 0xc0 then
        readTrailing? count (code % 16777216 * 256 + octet) cursor
      else none

def readEncoded? (cursor : Cursor) : Option (Char × Cursor) := do
  let (octet, cursor) ← readOctet? cursor
  let width ← encodedWidth? octet
  let (code, cursor) ← readTrailing? (width - 1) octet cursor
  let character ← characterOf? code
  return (character, cursor)

/-- The characters of an address, which may be none. -/
def readAddress? (fuel : Nat) (text : List Char) (cursor : Cursor) : Option (List Char × Cursor) :=
  match fuel with
  | 0 => some (text, cursor)
  | fuel + 1 =>
      match cursor.peek? with
      | none => some (text, cursor)
      | some character =>
          if character = '%' then do
            let (decoded, cursor) ← readEncoded? cursor
            readAddress? fuel (text ++ [decoded]) cursor
          else if isAddressCharacter character then
            readAddress? fuel (text ++ [character]) cursor.advance
          else some (text, cursor)

/-- An address that follows `head`; there must be something in one of the two. The exclamation
mark that begins the head is not kept. -/
def readAddressAfter? (head : List Char) (cursor : Cursor) : Option (List Char × Cursor) := do
  let (text, after) ← readAddress? cursor.rest.length (head.drop 1) cursor
  if head.isEmpty && after.index = cursor.index then none else some (text, after)

def readHandle? (cursor : Cursor) : Option (List Char × Cursor) :=
  if cursor.peek? ≠ some '!' then none
  else
    let (word, cursor) := cursor.advance.takeWhile isWordCharacter
    if cursor.peek? = some '!' then some ('!' :: word ++ ['!'], cursor.advance)
    else some ('!' :: word, cursor)

def isFullHandle (handle : List Char) : Bool := 2 ≤ handle.length && handle.getLast? = some '!'

/-- A tag without what must follow it. -/
def readTagBody? (cursor : Cursor) : Option (Token × Cursor) :=
  if cursor.peekAt? 1 = some '<' then do
    let (address, cursor) ← readAddressAfter? [] (cursor.advanceBy 2)
    if cursor.peek? = some '>' then some (.tag "" (String.ofList address), cursor.advance)
    else none
  else do
    let (handle, cursor) ← readHandle? cursor
    if isFullHandle handle then
      let (address, cursor) ← readAddressAfter? [] cursor
      return (.tag (String.ofList handle) (String.ofList address), cursor)
    else
      let (address, cursor) ← readAddressAfter? handle cursor
      if address.isEmpty then return (.tag "" "!", cursor)
      else return (.tag "!" (String.ofList address), cursor)

/-- A tag, which a blank or the end must follow. -/
def readTag? (cursor : Cursor) : Option (Token × Cursor) := do
  let (token, cursor) ← readTagBody? cursor
  if isBlankOrEnd cursor.peek? then some (token, cursor) else none

def mayEndName : Option Char → Bool
  | none => true
  | some character =>
      isBlank character || isBreak character || "?:,]\x7d%@\x60".toList.contains character

def readName? (cursor : Cursor) : Option (String × Cursor) :=
  let (name, cursor) := cursor.advance.takeWhile isWordCharacter
  if name.isEmpty || !mayEndName cursor.peek? then none else some (String.ofList name, cursor)

def readVersionNumber? (cursor : Cursor) : Option Cursor :=
  let (digits, cursor) := cursor.takeWhile Char.isDigit
  if digits.isEmpty || 9 < digits.length then none else some cursor

def readVersion? (cursor : Cursor) : Option (Token × Cursor) := do
  let cursor ← readVersionNumber? (cursor.skipWhile isBlank)
  if cursor.peek? ≠ some '.' then none
  else
    let cursor ← readVersionNumber? cursor.advance
    return (.versionDirective, cursor)

def readTagDirective? (cursor : Cursor) : Option (Token × Cursor) := do
  let (handle, cursor) ← readHandle? (cursor.skipWhile isBlank)
  if handle ≠ ['!'] ∧ ¬ isFullHandle handle then none
  else
    let (_, cursor) ← readAddressAfter? [] (cursor.skipWhile isBlank)
    if isBlankOrEnd cursor.peek? then some (.tagDirective, cursor) else none

/-- What follows the name of a directive. An unknown directive is passed over. -/
def readDirectiveValue? (name : List Char) (cursor : Cursor) : Option (Token × Cursor) :=
  if name = ['Y', 'A', 'M', 'L'] then readVersion? cursor
  else if name = ['T', 'A', 'G'] then readTagDirective? cursor
  else some (.tagDirective, cursor.skipWhile (!isBreak ·))

def readDirective? (cursor : Cursor) : Option (Token × Cursor) := do
  let (name, cursor) := cursor.advance.takeWhile isWordCharacter
  if name.isEmpty || !isBlankOrEnd cursor.peek? then none
  else
    let (token, cursor) ← readDirectiveValue? name cursor
    let cursor := cursor.skipBlanksAndComment
    if isBreakOrEnd cursor.peek? then some (token, cursor.passBreak) else none

end Yaml
end CustomerNotice
