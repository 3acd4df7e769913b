import CustomerNotice.Log.Directive
import CustomerNotice.Text.Bytes

/-!
Filters take signals away. Some directives are about places in the program: of these the one with
the longest target that fits decides. Others are about spans, by their names or by their fields:
a span that such a directive concerns is let through, and while it is open it grants a threshold
to all that happens inside it.
-/

namespace CustomerNotice

namespace Threshold

def widest (thresholds : List Threshold) : Threshold :=
  Level.all.reverse.find? fun level => thresholds.contains (some level)

end Threshold

namespace ValuePattern

/-- A truth value is only ever fitted by one, and no field has a number for its value. -/
def fits (patterns : Patterns) : ValuePattern → FieldValue → Bool
  | flag expected, .flag value => expected = value
  | pattern _, .flag _ => false
  | pattern text, value => patterns.fits text value
  | _, _ => false

end ValuePattern

namespace Directive

def covers (directive : Directive) (target : String) : Bool :=
  directive.target.toList.isPrefixOf target.toList

/-- Whether the field, if the directive has one, is among those that are declared. -/
def fieldAmong (directive : Directive) (names : List String) : Bool :=
  directive.field?.all fun field => names.contains field.name

def hasValue (directive : Directive) : Bool :=
  directive.field?.any fun field => field.value?.isSome

/-- About spans, by their names or their fields. -/
def isDynamic (directive : Directive) : Bool :=
  directive.span?.isSome || directive.field?.isSome

/-- About places in the program. A field alone may be one of a span or of an event. -/
def isStatic (directive : Directive) : Bool :=
  directive.span?.isNone && !directive.hasValue

/-- Whether the later of two directives about one place goes before the earlier: it does unless its
target is shorter or it names a field that comes before in the order of texts, none before any. -/
def supersedes (later earlier : Directive) : Bool :=
  let named (directive : Directive) : String := (directive.field?.map FieldPattern.name).getD ""
  earlier.target.utf8ByteSize < later.target.utf8ByteSize
    || (earlier.target.utf8ByteSize = later.target.utf8ByteSize && named earlier ≤ named later)

/-- The directive that decides among those about one place. -/
def governing? (directives : List Directive) : Option Directive :=
  directives.foldl
    (fun found directive =>
      match found with
      | none => some directive
      | some earlier => if directive.supersedes earlier then some directive else some earlier)
    none

def concerns (directive : Directive) (span : Span) : Bool :=
  directive.covers span.target && directive.span?.all (· = span.name)
    && directive.fieldAmong span.fields.names

def isMet (patterns : Patterns) (directive : Directive) (span : Span) : Bool :=
  directive.field?.all fun field =>
    field.value?.all fun value =>
      span.fields.any fun (name, found) => name = field.name && value.fits patterns found

/-- The last of those directives that ask for the same. -/
def lastOfEach : List Directive → List Directive
  | [] => []
  | directive :: rest =>
      if rest.any fun later => { later with threshold := directive.threshold } = directive then
        lastOfEach rest
      else directive :: lastOfEach rest

end Directive

structure Filter where
  directives : List Directive
  patterns : Patterns

/-- What has become of a span that is still open: it was taken away, or it was left, and may grant a
threshold to what happens inside it. -/
inductive Passage
  | taken
  | left (grant? : Option Threshold)
  deriving DecidableEq, Repr

namespace Passage

def grants (spans : List Passage) : List Threshold :=
  spans.filterMap fun
    | taken => none
    | left grant? => grant?

end Passage

namespace Filter

/-! Deciding -/

/-- The directives about places. A filter without directives lets errors pass. -/
def statics (filter : Filter) : List Directive :=
  if filter.directives.isEmpty then [{ Directive.anything with threshold := some .error }]
  else filter.directives.filter Directive.isStatic

def dynamics (filter : Filter) : List Directive :=
  Directive.lastOfEach (filter.directives.filter Directive.isDynamic)

/-- How far the filter reaches at all. Where values are asked for it reaches everything, as they are
not known beforehand. -/
def reach (filter : Filter) : Threshold :=
  if filter.dynamics.any Directive.hasValue then some .trace
  else Threshold.widest (filter.directives.map Directive.threshold)

/-- What an open span grants to what happens inside it, if any directive concerns it. -/
def grant? (filter : Filter) (span : Span) : Option Threshold :=
  match filter.dynamics.filter (·.concerns span) with
  | [] => none
  | concerned =>
      some (Threshold.widest
        ((concerned.filter (·.isMet filter.patterns span)).map Directive.threshold))

/-- Whether the directive that decides lets the level pass. -/
def passes (directives : List Directive) (level : Level) : Bool :=
  (Directive.governing? directives).any (·.threshold.passes level)

def admitsEvent (filter : Filter) (grants : List Threshold) (target : String) (level : Level)
    (names : List String) : Bool :=
  grants.any (·.passes level)
    || passes (filter.statics.filter fun directive =>
        directive.covers target && directive.fieldAmong names) level

def admitsSpan (filter : Filter) (grants : List Threshold) (span : Span) : Bool :=
  grants.any (·.passes span.level)
    || passes (filter.statics.filter (·.covers span.target)) span.level
    || ((filter.grant? span).isSome && filter.reach.passes span.level)

/-- What the filter leaves of signals that follow with the given spans open, innermost first. The
closing of a span is left with the span. -/
def leavesFrom (filter : Filter) (spans : List Passage) : List Signal → List Signal
  | [] => []
  | .opened span :: rest =>
      if filter.admitsSpan (Passage.grants spans) span then
        .opened span :: filter.leavesFrom (.left (filter.grant? span) :: spans) rest
      else filter.leavesFrom (.taken :: spans) rest
  | .happened event :: rest =>
      if filter.admitsEvent (Passage.grants spans) event.target event.level event.names then
        .happened event :: filter.leavesFrom spans rest
      else filter.leavesFrom spans rest
  | .closed :: rest =>
      match spans with
      | .left _ :: spans => .closed :: filter.leavesFrom spans rest
      | .taken :: spans => filter.leavesFrom spans rest
      | [] => filter.leavesFrom [] rest

/-- What the filter leaves of a whole course. -/
def leaves (filter : Filter) (signals : List Signal) : List Signal := filter.leavesFrom [] signals

/-! Reading -/

def splitAt (separator : Char) : List Char → List (List Char)
  | [] => [[]]
  | character :: rest =>
      match splitAt separator rest with
      | [] => [[character]]
      | part :: parts =>
          if character = separator then [] :: part :: parts else (character :: part) :: parts

/-- The parts between commas, without the empty ones. -/
def parts (text : String) : List String :=
  ((splitAt ',' text.toList).filter (!·.isEmpty)).map String.ofList

/-- Requires every part to be a directive. The first that is none decides about the failure. -/
def read (patterns : Patterns) (text : String) : Except FilterFailure Filter := do
  let directives ← (parts text).mapM (Directive.read patterns)
  return ⟨directives, patterns⟩

/-- The values that were read, without those that were refused. -/
def kept {Value : Type} : List (Except FilterFailure Value) → Option (List Value)
  | [] => some []
  | .ok value :: rest => (kept rest).map (value :: ·)
  | .error .refused :: rest => kept rest
  | .error .brokenOff :: _ => none

/-- Keeps the parts that are directives, unless the reading of one breaks off. -/
def ofText? (patterns : Patterns) (text : String) : Option Filter :=
  (kept ((parts text).map (Directive.read patterns))).map (⟨·, patterns⟩)

/-- The filter in force: the one that the variable spells, if it is set to a text that is a filter,
and otherwise that of the given text. There is none where the reading breaks off. -/
def choose (patterns : Patterns) (named? : Option Bytes) (given : String) : Option Filter :=
  match named?.bind Bytes.toText? with
  | none => ofText? patterns given
  | some text =>
      match read patterns text with
      | .ok filter => some filter
      | .error .refused => ofText? patterns given
      | .error .brokenOff => none

end Filter
end CustomerNotice
