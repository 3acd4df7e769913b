import CustomerNotice.Failure
import CustomerNotice.Format.Yaml.Lexer
import CustomerNotice.Format.Yaml.Node

/-!
From the tokens of a YAML text to its documents. Anchors name nodes within one document; an alias
stands for the node that was named last. A file holds at most one document.
-/

namespace CustomerNotice
namespace Yaml

/-- The tokens that are left and what the anchors stand for. Every anchor gets a number of its
own; its node is known once it is finished. -/
structure Reading where
  tokens : List Token
  names : List (String × Nat)
  nodes : List (Nat × Node)
  next : Nat

namespace Reading

def start (tokens : List Token) : Reading := ⟨tokens, [], [], 1⟩

def peek? (reading : Reading) : Option Token := reading.tokens.head?

def pass (reading : Reading) : Reading := { reading with tokens := reading.tokens.drop 1 }

def register (reading : Reading) (name : String) : Nat × Reading :=
  (reading.next,
    { reading with names := (name, reading.next) :: reading.names, next := reading.next + 1 })

def finish (reading : Reading) (anchor? : Option Nat) (node : Node) : Reading :=
  match anchor? with
  | some anchor => { reading with nodes := (anchor, node) :: reading.nodes }
  | none => reading

def isOneOf (reading : Reading) (tokens : List Token) : Bool :=
  reading.peek?.any tokens.contains

end Reading

structure Properties where
  anchor? : Option Nat
  tag? : Option (String × String)

namespace Properties

def read (reading : Reading) : Properties × Reading :=
  match reading.tokens with
  | .anchor name :: rest =>
      let (number, reading) := { reading with tokens := rest }.register name
      match rest with
      | .tag handle suffix :: _ => (⟨some number, some (handle, suffix)⟩, reading.pass)
      | _ => (⟨some number, none⟩, reading)
  | .tag handle suffix :: rest =>
      let reading := { reading with tokens := rest }
      match rest with
      | .anchor name :: _ =>
          let (number, reading) := reading.pass.register name
          (⟨some number, some (handle, suffix)⟩, reading)
      | _ => (⟨none, some (handle, suffix)⟩, reading)
  | _ => (⟨none, none⟩, reading)

def isEmpty (properties : Properties) : Bool :=
  properties.anchor?.isNone && properties.tag?.isNone

end Properties

mutual

/-- A node. `block` allows block collections, `indentless` also a sequence whose entries stand at
the column of the surrounding mapping. -/
def readNode? (fuel : Nat) (block indentless : Bool) (reading : Reading) :
    Option (Node × Reading) :=
  match fuel, reading.peek? with
  | 0, _ => none
  | _, some (.alias name) => do
      let number ← reading.names.lookup name
      return ((reading.nodes.lookup number).getD .void, reading.pass)
  | fuel + 1, _ => do
      let (properties, reading) := Properties.read reading
      let (node, reading) ← readContent? fuel block indentless properties reading
      return (node, reading.finish properties.anchor? node)

/-- What follows the properties of a node. After properties the node may be empty. -/
def readContent? (fuel : Nat) (block indentless : Bool) (properties : Properties)
    (reading : Reading) : Option (Node × Reading) :=
  match fuel, reading.peek? with
  | 0, _ => none
  | _, none => none
  | fuel + 1, some token =>
      if indentless && token = .blockEntry then do
        let (items, reading) ← readIndentless? fuel reading
        return (.list items, reading)
      else
        match token with
        | .scalar plain text => some (Node.ofScalar plain properties.tag? text, reading.pass)
        | .flowSequenceStart => do
            let (items, reading) ← readFlowSequence? fuel true reading.pass
            return (.list items, reading)
        | .flowMappingStart => do
            let (nodes, reading) ← readFlowMapping? fuel true reading.pass
            return (Node.ofMapping nodes, reading)
        | other =>
            if block && other = .blockSequenceStart then do
              let (items, reading) ← readBlockSequence? fuel reading.pass
              return (.list items, reading)
            else if block && other = .blockMappingStart then do
              let (nodes, reading) ← readBlockMapping? fuel reading.pass
              return (Node.ofMapping nodes, reading)
            else if properties.isEmpty then none
            else some (Node.ofScalar true properties.tag? "", reading)

/-- A node, or nothing at all if one of the given tokens follows. -/
def readOptional? (fuel : Nat) (enders : List Token) (block indentless : Bool)
    (reading : Reading) : Option (Node × Reading) :=
  match fuel with
  | 0 => none
  | fuel + 1 =>
      if reading.isOneOf enders then some (.null, reading)
      else readNode? fuel block indentless reading

def readBlockSequence? (fuel : Nat) (reading : Reading) : Option (List Node × Reading) :=
  match fuel, reading.peek? with
  | fuel + 1, some .blockEntry => do
      let (item, reading) ← readOptional? fuel [.blockEntry, .blockEnd] true false reading.pass
      let (items, reading) ← readBlockSequence? fuel reading
      return (item :: items, reading)
  | _ + 1, some .blockEnd => some ([], reading.pass)
  | _, _ => none

def readIndentless? (fuel : Nat) (reading : Reading) : Option (List Node × Reading) :=
  match fuel, reading.peek? with
  | 0, _ => none
  | fuel + 1, some .blockEntry => do
      let (item, reading) ←
        readOptional? fuel [.blockEntry, .key, .value, .blockEnd] true false reading.pass
      let (items, reading) ← readIndentless? fuel reading
      return (item :: items, reading)
  | _ + 1, some _ => some ([], reading)
  | _ + 1, none => none

def readBlockMapping? (fuel : Nat) (reading : Reading) : Option (List Node × Reading) :=
  match fuel, reading.peek? with
  | fuel + 1, some .key => do
      let (key, reading) ← readOptional? fuel [.key, .value, .blockEnd] true true reading.pass
      let (value, reading) ← readBlockValue? fuel reading
      let (nodes, reading) ← readBlockMapping? fuel reading
      return (key :: value :: nodes, reading)
  | fuel + 1, some .value => do
      let (value, reading) ← readBlockValue? fuel reading
      let (nodes, reading) ← readBlockMapping? fuel reading
      return (.null :: value :: nodes, reading)
  | _ + 1, some .blockEnd => some ([], reading.pass)
  | _, _ => none

def readBlockValue? (fuel : Nat) (reading : Reading) : Option (Node × Reading) :=
  match fuel, reading.peek? with
  | 0, _ => none
  | fuel + 1, some .value => readOptional? fuel [.key, .value, .blockEnd] true true reading.pass
  | _ + 1, some _ => some (.null, reading)
  | _ + 1, none => none

/-- The entries of a flow sequence, up to its end. All but the `first` follow a comma, and a
comma may stand before the end. -/
def readFlowSequence? (fuel : Nat) (first : Bool) (reading : Reading) :
    Option (List Node × Reading) :=
  match fuel with
  | 0 => none
  | fuel + 1 =>
      if reading.isOneOf [.flowSequenceEnd] then some ([], reading.pass)
      else if !first && !reading.isOneOf [.flowEntry] then none
      else
        let reading := if first then reading else reading.pass
        if reading.isOneOf [.flowSequenceEnd] then some ([], reading.pass)
        else do
          let (item, reading) ←
            if reading.isOneOf [.key] then readFlowPair? fuel reading.pass
            else readNode? fuel false false reading
          let (items, reading) ← readFlowSequence? fuel false reading
          return (item :: items, reading)

/-- A single entry of a mapping as an entry of a flow sequence. A token that leaves out the key is
passed. -/
def readFlowPair? (fuel : Nat) (reading : Reading) : Option (Node × Reading) :=
  match fuel with
  | 0 => none
  | fuel + 1 => do
      let (key, reading) ←
        if reading.isOneOf [.value, .flowEntry, .flowSequenceEnd] then some (.null, reading.pass)
        else readNode? fuel false false reading
      let (value, reading) ←
        if reading.isOneOf [.value] then
          readOptional? fuel [.flowEntry, .flowSequenceEnd] false false reading.pass
        else if reading.tokens.isEmpty then none
        else some (.null, reading)
      return (Node.ofMapping [key, value], reading)

def readFlowMapping? (fuel : Nat) (first : Bool) (reading : Reading) :
    Option (List Node × Reading) :=
  match fuel with
  | 0 => none
  | fuel + 1 =>
      if reading.isOneOf [.flowMappingEnd] then some ([], reading.pass)
      else if !first && !reading.isOneOf [.flowEntry] then none
      else
        let reading := if first then reading else reading.pass
        if reading.isOneOf [.flowMappingEnd] then some ([], reading.pass)
        else do
          let (key, value, reading) ← readFlowEntry? fuel reading
          let (nodes, reading) ← readFlowMapping? fuel false reading
          return (key :: value :: nodes, reading)

/-- A key with its value in a flow mapping. A key that no mark announces has no value. -/
def readFlowEntry? (fuel : Nat) (reading : Reading) : Option (Node × Node × Reading) :=
  match fuel with
  | 0 => none
  | fuel + 1 =>
      if reading.isOneOf [.key] then do
        let (key, reading) ←
          readOptional? fuel [.value, .flowEntry, .flowMappingEnd] false false reading.pass
        let (value, reading) ← readFlowValue? fuel reading
        return (key, value, reading)
      else if reading.isOneOf [.value] then do
        let (value, reading) ← readFlowValue? fuel reading
        return (.null, value, reading)
      else do
        let (key, reading) ← readNode? fuel false false reading
        return (key, .null, reading)

def readFlowValue? (fuel : Nat) (reading : Reading) : Option (Node × Reading) :=
  match fuel, reading.peek? with
  | 0, _ => none
  | fuel + 1, some .value =>
      readOptional? fuel [.flowEntry, .flowMappingEnd] false false reading.pass
  | _ + 1, some _ => some (.null, reading)
  | _ + 1, none => none

end

def documentBounds : List Token :=
  [.versionDirective, .tagDirective, .documentStart, .documentEnd, .streamEnd]

def isDirective (token : Token) : Bool := token = .versionDirective || token = .tagDirective

def readMarked? (fuel : Nat) (reading : Reading) : Option (Node × Reading) :=
  match reading.tokens.dropWhile isDirective with
  | .documentStart :: rest =>
      readOptional? fuel documentBounds true false { reading with tokens := rest }
  | _ => none

/-- The documents up to the end of the text. Only the `first` may do without a mark. -/
def readDocuments? (fuel : Nat) (first : Bool) (reading : Reading) : Option (List Node) :=
  match fuel with
  | 0 => none
  | fuel + 1 =>
      let tokens := if first then reading.tokens else reading.tokens.dropWhile (· = .documentEnd)
      let reading := { reading with tokens, names := [] }
      if reading.isOneOf [.streamEnd] then some []
      else do
        let (node, reading) ←
          if first && !reading.isOneOf [.versionDirective, .tagDirective, .documentStart] then
            readNode? (4 * fuel) true false reading
          else readMarked? (4 * fuel) reading
        let reading := if reading.isOneOf [.documentEnd] then reading.pass else reading
        let nodes ← readDocuments? fuel false reading
        return node :: nodes

def documents? (text : List Char) : Option (List Node) := do
  let tokens ← Token.ofText? text
  readDocuments? (tokens.length + 2) true (.start tokens)

/-- The value of a whole text; an empty text is an empty table. -/
def read (text : List Char) : Except FormatFailure Tree :=
  match documents? text with
  | none => .error (.rejected .malformed)
  | some [] => .ok .empty
  | some [node] => node.toTree.mapError .crashed
  | some nodes => .error (.rejected (.documentCount nodes.length))

end Yaml
end CustomerNotice
