import CustomerNotice.Format.Yaml.Block
import CustomerNotice.Format.Yaml.Property

/-!
From a YAML text to its tokens. Whether a scalar is a key shows only when a colon follows it, so
the lexer remembers where a key may have begun and marks it there later.
-/

namespace CustomerNotice
namespace Yaml

/-- A place where a key may have begun: the number of the token there, its line, column and
index. -/
structure PossibleKey where
  token : Nat
  line : Nat
  column : Nat
  index : Nat
  required : Bool
  deriving Repr

/-- The state between tokens. `keys` has an entry for every open flow collection and one for
what surrounds them, innermost first; `indents` has the surrounding indentations, innermost
first. A quoted scalar ended at `adjacent`. -/
structure Lexer where
  cursor : Cursor
  tokens : Array Token
  keyAllowed : Bool
  keys : List (Option PossibleKey)
  indent : Int
  indents : List Int
  adjacent : Option Nat
  deriving Repr

namespace Lexer

def start (text : List Char) : Lexer where
  cursor := .start text
  tokens := #[]
  keyAllowed := true
  keys := [none]
  indent := -1
  indents := []
  adjacent := none

def flowLevel (lexer : Lexer) : Nat := lexer.keys.length - 1

def inFlow (lexer : Lexer) : Bool := 0 < lexer.flowLevel

def emit (lexer : Lexer) (token : Token) : Lexer := { lexer with tokens := lexer.tokens.push token }

def movedTo (lexer : Lexer) (cursor : Cursor) : Lexer := { lexer with cursor }

/-- Passes blanks, comments and line breaks. A tab is a blank only where no key may begin. -/
def skipToToken (fuel : Nat) (lexer : Lexer) : Lexer :=
  match fuel with
  | 0 => lexer
  | fuel + 1 =>
      match lexer.cursor.peek? with
      | none => lexer
      | some character =>
          if character = ' ' || (character = '\t' && (lexer.inFlow || !lexer.keyAllowed)) then
            (lexer.movedTo lexer.cursor.advance).skipToToken fuel
          else if isBreak character then
            ({ lexer with
                cursor := lexer.cursor.passBreak
                keyAllowed := lexer.keyAllowed || !lexer.inFlow }).skipToToken fuel
          else if character = '#' then
            (lexer.movedTo (lexer.cursor.skipWhile (!isBreak ·))).skipToToken fuel
          else lexer

def isStale (cursor : Cursor) (key : PossibleKey) : Bool :=
  key.line < cursor.line || key.index + 1024 < cursor.index

def dropStale? (lexer : Lexer) : Option Lexer := do
  let stale (key? : Option PossibleKey) : Bool := key?.any (isStale lexer.cursor)
  if lexer.keys.any fun key? => stale key? && key?.any (·.required) then none
  else some { lexer with keys := lexer.keys.map fun key? => if stale key? then none else key? }

/-- Forgets the innermost place where a key may have begun. -/
def forgetKey? (lexer : Lexer) : Option Lexer :=
  match lexer.keys with
  | some key :: rest => if key.required then none else some { lexer with keys := none :: rest }
  | _ => some lexer

def noteKey? (lexer : Lexer) : Option Lexer :=
  if lexer.keyAllowed then do
    let lexer ← lexer.forgetKey?
    let key : PossibleKey :=
      { token := lexer.tokens.size
        line := lexer.cursor.line
        column := lexer.cursor.column
        index := lexer.cursor.index
        required := lexer.inFlow && lexer.indent = lexer.cursor.column }
    return { lexer with keys := some key :: lexer.keys.drop 1 }
  else some lexer

/-- Opens a block collection if the column is deeper than the surroundings. Its token goes to the
given place among the tokens. -/
def openBlock (lexer : Lexer) (column place : Nat) (token : Token) : Lexer :=
  if lexer.inFlow || (column : Int) ≤ lexer.indent then lexer
  else
    { lexer with
      indents := lexer.indent :: lexer.indents
      indent := column
      tokens :=
        (lexer.tokens.toList.take place ++ token :: lexer.tokens.toList.drop place).toArray }

def closeBlocks (lexer : Lexer) (column : Int) : Lexer :=
  if lexer.inFlow then lexer
  else
    let rec close (indent : Int) (tokens : Array Token) : List Int → Int × Array Token × List Int
      | [] => (indent, tokens, [])
      | outer :: rest =>
          if column < indent then close outer (tokens.push .blockEnd) rest
          else (indent, tokens, outer :: rest)
    let (indent, tokens, indents) := close lexer.indent lexer.tokens lexer.indents
    { lexer with indent, tokens, indents }

def readEnd? (lexer : Lexer) : Option Lexer := do
  let lexer ← (lexer.closeBlocks (-1)).forgetKey?
  return { lexer with keyAllowed := false }.emit .streamEnd

def readDirectiveToken? (lexer : Lexer) : Option Lexer := do
  let lexer ← (lexer.closeBlocks (-1)).forgetKey?
  let (token, cursor) ← readDirective? lexer.cursor
  return ({ lexer with keyAllowed := false }.movedTo cursor).emit token

def readDocumentMark? (lexer : Lexer) (token : Token) : Option Lexer := do
  let lexer ← (lexer.closeBlocks (-1)).forgetKey?
  return ({ lexer with keyAllowed := false }.movedTo (lexer.cursor.advanceBy 3)).emit token

/-- At most 255 flow collections are open at once. -/
def openFlow? (lexer : Lexer) (token : Token) : Option Lexer := do
  let lexer ← lexer.noteKey?
  if lexer.flowLevel = 255 then none
  else
    return ({ lexer with keys := none :: lexer.keys, keyAllowed := true }.movedTo
      lexer.cursor.advance).emit token

def closeFlow? (lexer : Lexer) (token : Token) : Option Lexer := do
  let lexer ← lexer.forgetKey?
  let keys := if lexer.inFlow then lexer.keys.drop 1 else lexer.keys
  return ({ lexer with keys, keyAllowed := false }.movedTo lexer.cursor.advance).emit token

def readFlowEntry? (lexer : Lexer) : Option Lexer := do
  let lexer ← lexer.forgetKey?
  return ({ lexer with keyAllowed := true }.movedTo lexer.cursor.advance).emit .flowEntry

def readBlockEntry? (lexer : Lexer) : Option Lexer := do
  if lexer.inFlow || !lexer.keyAllowed then none
  else
    let lexer := lexer.openBlock lexer.cursor.column lexer.tokens.size .blockSequenceStart
    let lexer ← lexer.forgetKey?
    return ({ lexer with keyAllowed := true }.movedTo lexer.cursor.advance).emit .blockEntry

def readKey? (lexer : Lexer) : Option Lexer := do
  if !lexer.inFlow && !lexer.keyAllowed then none
  else
    let lexer := lexer.openBlock lexer.cursor.column lexer.tokens.size .blockMappingStart
    let lexer ← lexer.forgetKey?
    return ({ lexer with keyAllowed := !lexer.inFlow }.movedTo lexer.cursor.advance).emit .key

/-- A colon. If a key may have begun on this line, it did. -/
def readValue? (lexer : Lexer) : Option Lexer :=
  match lexer.keys with
  | some key :: rest =>
      let tokens := lexer.tokens.toList
      let marked := tokens.take key.token ++ .key :: tokens.drop key.token
      let lexer :=
        { lexer with tokens := marked.toArray, keys := none :: rest, keyAllowed := false }
      let lexer := lexer.openBlock key.column key.token .blockMappingStart
      some ((lexer.movedTo lexer.cursor.advance).emit .value)
  | _ =>
      if !lexer.inFlow && !lexer.keyAllowed then none
      else
        let lexer := lexer.openBlock lexer.cursor.column lexer.tokens.size .blockMappingStart
        some (({ lexer with keyAllowed := !lexer.inFlow }.movedTo lexer.cursor.advance).emit .value)

def readWith? (lexer : Lexer) (read? : Cursor → Option (Token × Cursor)) : Option Lexer := do
  let lexer ← lexer.noteKey?
  let (token, cursor) ← read? lexer.cursor
  return ({ lexer with keyAllowed := false }.movedTo cursor).emit token

def readBlockScalar? (lexer : Lexer) (literal : Bool) : Option Lexer := do
  let lexer ← lexer.noteKey?
  let (text, cursor) ← readBlock? literal lexer.indent lexer.cursor
  let lexer := { lexer with keyAllowed := true }.movedTo cursor
  return lexer.emit (.scalar false (String.ofList text))

def readQuotedScalar? (lexer : Lexer) (single : Bool) : Option Lexer := do
  let lexer ← lexer.readWith? fun cursor => do
    let (text, cursor) ← readQuoted? single cursor
    return (.scalar false (String.ofList text), cursor)
  return { lexer with adjacent := some lexer.cursor.index }

/-- A plain scalar. If a line has ended behind it, a key may begin there. -/
def readPlainScalar? (lexer : Lexer) : Option Lexer := do
  let lexer ← lexer.noteKey?
  let scalar ← readPlain? (lexer.cursor.rest.length + 1) lexer.inFlow (lexer.indent + 1) []
    Gap.none lexer.cursor
  return ({ lexer with keyAllowed := scalar.broken }.movedTo scalar.cursor).emit
    (.scalar true (String.ofList scalar.text))

def endsKey (lexer : Lexer) (next? : Option Char) : Bool :=
  isBlankOrEnd next?
    || (lexer.inFlow
      && (next?.any isFlowIndicator || lexer.adjacent = some lexer.cursor.index))

def readToken? (lexer : Lexer) (character : Char) : Option Lexer :=
  let next? := lexer.cursor.peekAt? 1
  if lexer.cursor.column = 0 && character = '%' then lexer.readDirectiveToken?
  else if lexer.cursor.atDocumentMark '-' then lexer.readDocumentMark? .documentStart
  else if lexer.cursor.atDocumentMark '.' then lexer.readDocumentMark? .documentEnd
  else if character = '[' then lexer.openFlow? .flowSequenceStart
  else if character = '\x7b' then lexer.openFlow? .flowMappingStart
  else if character = ']' then lexer.closeFlow? .flowSequenceEnd
  else if character = '\x7d' then lexer.closeFlow? .flowMappingEnd
  else if character = ',' then lexer.readFlowEntry?
  else if character = '-' && isBlankOrEnd next? then lexer.readBlockEntry?
  else if character = '?' && isBlankOrEnd next? then lexer.readKey?
  else if character = ':' && lexer.endsKey next? then lexer.readValue?
  else if character = '*' then
    lexer.readWith? fun cursor => (readName? cursor).map fun (name, cursor) => (.alias name, cursor)
  else if character = '&' then
    lexer.readWith? fun cursor =>
      (readName? cursor).map fun (name, cursor) => (.anchor name, cursor)
  else if character = '!' then lexer.readWith? readTag?
  else if character = '|' && !lexer.inFlow then lexer.readBlockScalar? true
  else if character = '>' && !lexer.inFlow then lexer.readBlockScalar? false
  else if character = '\'' then lexer.readQuotedScalar? true
  else if character = '"' then lexer.readQuotedScalar? false
  else if character = '%' || character = '@' || character = '\x60' then none
  else lexer.readPlainScalar?

def run? (fuel : Nat) (lexer : Lexer) : Option (Array Token) :=
  match fuel with
  | 0 => none
  | fuel + 1 => do
      let lexer ← (lexer.skipToToken (lexer.cursor.rest.length + 1)).dropStale?
      let lexer := lexer.closeBlocks lexer.cursor.column
      match lexer.cursor.peek? with
      | none => return (← lexer.readEnd?).tokens
      | some character => (← lexer.readToken? character).run? fuel

end Lexer

/-- The tokens of a text. Every token but the last takes at least one character. -/
def Token.ofText? (text : List Char) : Option (List Token) :=
  ((Lexer.start text).run? (text.length + 2)).map Array.toList

end Yaml
end CustomerNotice
