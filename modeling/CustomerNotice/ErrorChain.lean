/-!
An error as a reader meets it: its own text and the texts of its causes, outermost first. It is
shown in blocks, one for every cause, or as an outline with indented causes.
-/

namespace CustomerNotice

structure ErrorChain where
  text : String
  causes : List String
  deriving DecidableEq, Repr

namespace ErrorChain

def causeBlock (cause : String) : String := "Caused by:\n\t" ++ cause ++ "\n"

def render (chain : ErrorChain) : String :=
  chain.text ++ "\n\n" ++ String.join (chain.causes.map causeBlock)

/-- The chain of an error whose text is the first message and whose causes are the others. -/
def ofMessages : List String → ErrorChain
  | [] => ⟨"", []⟩
  | text :: causes => ⟨text, causes⟩

def hanging (indent : List Char) (text : String) : String :=
  String.ofList (text.toList.flatMap fun character =>
    if character = '\n' then '\n' :: indent else [character])

def numberLabel (number : Nat) : String :=
  String.ofList (List.replicate (5 - number.repr.length) ' ') ++ number.repr ++ ": "

/-- One line per cause; several causes are numbered from zero. -/
def outlineCauses : List String → List String
  | [cause] => ["    " ++ hanging (List.replicate 4 ' ') cause]
  | causes =>
      causes.zipIdx.map fun (cause, number) =>
        numberLabel number ++ hanging (List.replicate 7 ' ') cause

def outline (chain : ErrorChain) : String :=
  if chain.causes.isEmpty then chain.text
  else
    chain.text ++ "\n\nCaused by:"
      ++ String.join ((outlineCauses chain.causes).map fun line => "\n" ++ line)

end ErrorChain
end CustomerNotice
