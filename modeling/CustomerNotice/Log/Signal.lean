import CustomerNotice.Log.Level

/-!
What the program says about its own course: events, and spans that are opened and closed around
them. Signals are the same whoever listens.
-/

namespace CustomerNotice

/-- Identifiers that are drawn afresh and durations are kept as such. -/
inductive FieldValue
  | text (value : String)
  | flag (value : Bool)
  | freshId
  | duration
  deriving DecidableEq, Repr

abbrev Fields := List (String × FieldValue)

def Fields.names (fields : Fields) : List String := fields.map Prod.fst

structure Span where
  name : String
  target : String
  level : Level
  fields : Fields
  deriving DecidableEq, Repr

/-- The name as it is shown, in capitals. Names of spans have no letters but plain ones. -/
def Span.title (span : Span) : String := String.ofList (span.name.toList.map Char.toUpper)

structure Event where
  target : String
  level : Level
  message : String
  fields : Fields
  deriving DecidableEq, Repr

/-- What an event declares: its message is one of its fields. -/
def Event.names (event : Event) : List String := "message" :: event.fields.names

inductive Signal
  | opened (span : Span)
  | happened (event : Event)
  | closed
  deriving DecidableEq, Repr

end CustomerNotice
