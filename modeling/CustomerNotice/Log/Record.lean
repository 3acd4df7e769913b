import CustomerNotice.Log.Filter

/-!
Log records. A listener has a name and a filter: it records under its name all of what the filter
leaves of signals. A span is recorded when it is opened and when it is closed, and lends its fields
to what happens inside it.
-/

namespace CustomerNotice

structure Record where
  name : String
  level : Level
  target : String
  message : String
  fields : Fields
  deriving DecidableEq, Repr

/-- A span that was recorded, with the fields of the spans around it. -/
structure OpenSpan where
  title : String
  target : String
  level : Level
  fields : Fields
  deriving DecidableEq, Repr

/-- The spans that are open, innermost first. -/
abbrev SpanStack := List OpenSpan

def SpanStack.fields (stack : SpanStack) : Fields := (stack.head?.map OpenSpan.fields).getD []

namespace OpenSpan

def ofSpan (stack : SpanStack) (span : Span) : OpenSpan :=
  ⟨span.title, span.target, span.level, stack.fields ++ span.fields⟩

end OpenSpan

namespace Record

/-- The names of the parts that every record has, which no recorded field may replace. -/
def coreNames : List String := ["v", "name", "hostname", "pid", "level", "time", "msg"]

def withoutCore (fields : Fields) : Fields := fields.filter fun field => !coreNames.contains field.1

/-- A message that belongs to a span. -/
def inSpan (title part : String) : String := "[" ++ title ++ " - " ++ part ++ "]"

/-- What is recorded at the end of a span and not at its beginning. -/
def elapsed : Fields := [("elapsed_milliseconds", .duration)]

def ofSpan (name : String) (span : OpenSpan) (part : String) (extra : Fields) : Record where
  name := name
  level := span.level
  target := span.target
  message := inSpan span.title part
  fields := withoutCore (span.fields ++ extra)

def ofEvent (name : String) (stack : SpanStack) (event : Event) : Record where
  name := name
  level := event.level
  target := event.target
  message :=
    match stack.head? with
    | some span => inSpan span.title "EVENT" ++ " " ++ event.message
    | none => event.message
  fields := withoutCore (event.fields ++ stack.fields)

/-- The records of one signal under a name, and the spans that are open after it. -/
def hear (name : String) (stack : SpanStack) : Signal → List Record × SpanStack
  | .opened span =>
      let entered := OpenSpan.ofSpan stack span
      ([ofSpan name entered "START" []], entered :: stack)
  | .happened event => ([ofEvent name stack event], stack)
  | .closed =>
      match stack with
      | span :: rest => ([ofSpan name span "END" elapsed], rest)
      | [] => ([], [])

def listFrom (name : String) (stack : SpanStack) : List Signal → List Record
  | [] => []
  | signal :: rest =>
      let (records, stack) := hear name stack signal
      records ++ listFrom name stack rest

end Record

structure Listener where
  name : String
  filter : Filter

namespace Listener

def records (listener : Listener) (signals : List Signal) : List Record :=
  Record.listFrom listener.name [] (listener.filter.leaves signals)

end Listener
end CustomerNotice
