import CustomerNotice.Format.Toml.Body
import CustomerNotice.Format.Toml.Moment
import CustomerNotice.Format.Toml.Number
import CustomerNotice.Format.Toml.Quoted

/-!
Files of TOML: lines that give values to keys, below headers that open tables. Moments become
texts.
-/

namespace CustomerNotice
namespace Toml

def skipLineBlanks (text : List Char) : List Char := text.dropWhile isLineBlank

def endLine? (text : List Char) : Option (List Char) :=
  let rest :=
    match skipLineBlanks text with
    | '#' :: comment => comment.dropWhile isPlain
    | rest => rest
  match rest with
  | [] => some []
  | '\n' :: rest => some rest
  | _ => none

def skipLines? (fuel : Nat) (text : List Char) : Option (List Char) :=
  match fuel, skipLineBlanks text with
  | 0, _ => none
  | fuel + 1, '#' :: comment => do skipLines? fuel (← endLine? ('#' :: comment))
  | fuel + 1, '\n' :: rest => skipLines? fuel rest
  | _ + 1, rest => some rest

def skipBetween? (text : List Char) : Option (List Char) := skipLines? (text.length + 1) text

def readKey? (text : List Char) : Option (String × List Char) :=
  match text with
  | [] => none
  | first :: rest =>
      if first = '"' ∨ first = '\'' then do
        let (quoted, rest) ← readQuoted? first rest
        if quoted.multiline then none else some (quoted.text, rest)
      else
        let (word, rest) := spanWord text
        if word.isEmpty then none else some (String.ofList word, rest)

def readKeys? (fuel : Nat) (text : List Char) : Option (List String × List Char) :=
  match fuel with
  | 0 => none
  | fuel + 1 => do
      let (key, rest) ← readKey? text
      match skipLineBlanks rest with
      | '.' :: rest => do
          let (keys, rest) ← readKeys? fuel (skipLineBlanks rest)
          return (key :: keys, rest)
      | rest => return ([key], rest)

def readPath? (text : List Char) : Option (List String × List Char) :=
  readKeys? (text.length + 1) text

/-- Passes a word, which must be there. -/
def passWord? (text : List Char) : Option (List Char) :=
  let (word, rest) := spanWord text
  if word.isEmpty then none else some rest

def passMarked? (mark : Char) : List Char → Option (List Char)
  | [] => some []
  | character :: rest => if character = mark then passWord? rest else some (character :: rest)

def passSpaced : List Char → List Char
  | ' ' :: rest => (passWord? rest).getD (' ' :: rest)
  | text => text

def passTime? (text : List Char) : Option (List Char) := do
  let rest ← expectMark? ':' (← passWord? text)
  let rest ← passMarked? '.' (← passWord? rest)
  passMarked? ':' (← passMarked? '+' rest)

def passMoment? (hourPassed : Bool) (text : List Char) : Option (List Char) :=
  match hourPassed, passSpaced text with
  | true, rest => passTime? rest
  | false, ':' :: rest => passTime? rest
  | false, rest => some rest

def readMoment? (text rest : List Char) (hourPassed : Bool) : Option (Tree × List Char) := do
  let rest ← passMoment? hourPassed rest
  let moment ← Moment.read? (text.take (text.length - rest.length))
  return (.scalar none (.text moment.text), rest)

def isMomentWord (word : List Char) : Bool :=
  let hasNegativeExponent :=
    (word.zip word.tail).any fun (left, right) => (left = 'e' || left = 'E') && right = '-'
  word.contains 'T' || word.contains 't' || (word.tail.contains '-' && !hasNegativeExponent)

def readWordValue? (text : List Char) : Option (Tree × List Char) :=
  let (word, rest) := spanWord text
  if word = ['t', 'r', 'u', 'e'] then some (.scalar none (.bool true), rest)
  else if word = ['f', 'a', 'l', 's', 'e'] then some (.scalar none (.bool false), rest)
  else if word = ['i', 'n', 'f'] ∨ word = ['n', 'a', 'n']
      ∨ (word.head?.any fun first => first = '-' || first.isDigit) then
    if isMomentWord word then readMoment? text rest false
    else
      match rest with
      | ':' :: rest => readMoment? text rest true
      | rest => (readNumber? word rest).map fun (number, rest) => (.scalar none number, rest)
  else none

mutual

def readValue? (fuel : Nat) (text : List Char) : Option (Tree × List Char) :=
  match fuel with
  | 0 => none
  | fuel + 1 =>
      match text with
      | [] => none
      | first :: rest =>
          if first = '"' ∨ first = '\'' then
            (readQuoted? first rest).map fun (quoted, rest) =>
              (.scalar none (.text quoted.text), rest)
          else if first = '+' then
            let (word, rest) := spanWord rest
            (readNumber? word rest).map fun (number, rest) => (.scalar none number, rest)
          else if first = '[' then do
            let (items, rest) ← readItems? fuel rest
            return (.list none items, rest)
          else if first = '\x7b' then do
            match skipLineBlanks rest with
            | '\x7d' :: rest => return (Tree.empty, rest)
            | rest => do
                let (body, rest) ← readMembers? fuel [] rest
                return (body.toTree, rest)
          else readWordValue? text

/-- Items up to the closing bracket. A comma may stand behind the last one. -/
def readItems? (fuel : Nat) (text : List Char) : Option (List Tree × List Char) :=
  match fuel with
  | 0 => none
  | fuel + 1 => do
      match ← skipBetween? text with
      | ']' :: rest => return ([], rest)
      | rest => do
          let (item, rest) ← readValue? fuel rest
          match ← skipBetween? rest with
          | ',' :: rest => do
              let (items, rest) ← readItems? fuel rest
              return (item :: items, rest)
          | ']' :: rest => return ([item], rest)
          | _ => none

def readMembers? (fuel : Nat) (body : Body) (text : List Char) : Option (Body × List Char) :=
  match fuel with
  | 0 => none
  | fuel + 1 => do
      let (path, rest) ← readPath? text
      let rest ← expectMark? '=' rest
      let (value, rest) ← readValue? fuel (skipLineBlanks rest)
      let body ← body.assign? value path
      match skipLineBlanks rest with
      | '\x7d' :: rest => return (body, rest)
      | ',' :: rest => readMembers? fuel body (skipLineBlanks rest)
      | _ => none

end

def readHeader? (text : List Char) : Option (Line × List Char) := do
  let (repeated, text) :=
    match text with
    | '[' :: rest => (true, rest)
    | text => (false, text)
  let (path, rest) ← readPath? (skipLineBlanks text)
  let rest ← expectMark? ']' rest
  let rest ← if repeated then expectMark? ']' rest else some rest
  return (.header path repeated, ← endLine? rest)

def readAssignment? (text : List Char) : Option (Line × List Char) := do
  let (path, rest) ← readPath? text
  let rest ← expectMark? '=' rest
  let (value, rest) ← readValue? (2 * rest.length + 2) (skipLineBlanks rest)
  return (.assignment path value, ← endLine? rest)

def readLines? (fuel : Nat) (text : List Char) : Option (List Line) :=
  match fuel with
  | 0 => none
  | fuel + 1 => do
      match ← skipBetween? text with
      | [] => return []
      | '[' :: rest => do
          let (line, rest) ← readHeader? rest
          return line :: (← readLines? fuel rest)
      | text => do
          let (line, rest) ← readAssignment? text
          return line :: (← readLines? fuel rest)

def dropByteOrderMark : List Char → List Char
  | '\ufeff' :: rest => rest
  | text => text

def read? (text : List Char) : Option Tree := do
  Line.toTree? (← readLines? (text.length + 1) (foldLineEnds (dropByteOrderMark text)))

end Toml
end CustomerNotice
