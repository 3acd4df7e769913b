import CustomerNotice.Failure
import CustomerNotice.Text.Integer
import CustomerNotice.Tree

/-!
Paths to a place in a tree: a name, then names after points and positions in brackets. A value
that is assigned at a path makes the tables and lists that it needs on the way.
-/

namespace CustomerNotice

inductive Step
  | key (name : String)
  | index (position : Int)
  deriving DecidableEq, Repr

structure Path where
  first : String
  rest : List Step
  deriving DecidableEq, Repr

namespace Path

def isNameCharacter (character : Char) : Bool :=
  ('a' ≤ character && character ≤ 'z') || ('A' ≤ character && character ≤ 'Z')
    || ('0' ≤ character && character ≤ '9') || character = ' ' || character = '_'
    || character = '-'

def isBlank (character : Char) : Bool := character = ' ' || character = '\t'

def trimBlanks (text : List Char) : List Char :=
  ((text.dropWhile isBlank).reverse.dropWhile isBlank).reverse

/-- What stands between brackets: digits, perhaps after a minus sign, with blanks around them. -/
def readPosition? (text : List Char) : Option Int :=
  match trimBlanks text with
  | '+' :: _ => none
  | trimmed => Text.readWord? 10 trimmed

theorem length_dropWhile_le (test : Char → Bool) (text : List Char) :
    (text.dropWhile test).length ≤ text.length :=
  (List.dropWhile_sublist test).length_le

def readSteps? : List Char → Option (List Step)
  | [] => some []
  | character :: rest =>
      if character = '.' then
        let name := rest.takeWhile isNameCharacter
        if name.isEmpty then none
        else do
          let steps ← readSteps? (rest.dropWhile isNameCharacter)
          return .key (String.ofList name) :: steps
      else if character = '[' then
        match _found : rest.dropWhile (· != ']') with
        | [] => none
        | _ :: after => do
            let position ← readPosition? (rest.takeWhile (· != ']'))
            let steps ← readSteps? after
            return .index position :: steps
      else none
  termination_by text => text.length
  decreasing_by
    · have shorter := length_dropWhile_le isNameCharacter rest
      simp only [List.length_cons]
      omega
    · have shorter := length_dropWhile_le (· != ']') rest
      simp only [_found, List.length_cons] at shorter ⊢
      omega

def read? (text : String) : Option Path :=
  let characters := text.toList
  let name := characters.takeWhile isNameCharacter
  if name.isEmpty then none
  else do
    let steps ← readSteps? (characters.dropWhile isNameCharacter)
    return ⟨String.ofList name, steps⟩

def ofKey (text : String) : Path := (read? text).getD ⟨text, []⟩

end Path

namespace Tree

/-- The longest list that an assignment makes. This is an assumption: nothing bounds lists but the
memory there is, and it is taken that longer ones do not fit. -/
def greatestLength : Nat := 16777216

/-- The place in a list of the given length that a position stands for. A negative position
counts from the end. -/
def place? (length : Nat) (position : Int) : Except Crash Nat :=
  match position with
  | .ofNat place =>
      if place < max length greatestLength then .ok place else .error .positionOutOfRange
  | .negSucc back =>
      if back < length then .ok (length - (back + 1)) else .error .positionOutOfRange

def putAt (tree : Tree) (place : Nat) (value : Tree) : Tree :=
  match tree.asList with
  | list origin items =>
      let padded := items ++ List.replicate (place + 1 - items.length) null
      .list origin (padded.set place value)
  | other => other

/-- What is found at a place after `value` is assigned at the steps from there. At a name the
value is laid over what was there, at a position it replaces it. -/
def assignAt (value : Tree) (old? : Option Tree) : List Step → Except Crash Tree
  | [] => .ok (laidOver old? value)
  | .key name :: steps => do
      let target := (old?.getD null).asTable
      let child ← assignAt value (target.get? name) steps
      return target.put name child
  | .index position :: steps => do
      let target := (old?.getD null).asList
      let place ← place? target.items.length position
      let child ←
        match steps with
        | [] => pure value
        | step :: steps => assignAt value target.items[place]? (step :: steps)
      return target.putAt place child

/-- Assigns a value at a path that starts in the table `tree`. -/
def assign (tree : Tree) (path : Path) (value : Tree) : Except Crash Tree :=
  assignAt value (some tree) (.key path.first :: path.rest)

def assignAll (tree : Tree) : List (String × Tree) → Except Crash Tree
  | [] => .ok tree
  | (key, value) :: rest => do
      let tree ← tree.assign (Path.ofKey key) value
      tree.assignAll rest

end Tree
end CustomerNotice
