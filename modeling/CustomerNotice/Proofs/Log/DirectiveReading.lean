import CustomerNotice.Log.Filter
import CustomerNotice.Proofs.Results

/-!
# Where the reading of a filter breaks off

The parts of a directive are taken out of the text as it was given, at positions that were counted
from the first character that is no blank. Where the text does not begin with a blank, these are
the octets of fronts of the text. Every position then lies between two characters, and the reading
goes through to its end. A word by itself is read as a threshold or as a target, whatever patterns
there are.
-/

namespace CustomerNotice

namespace Text

@[simp]
theorem octets_append (front rest : List Char) :
    octets (front ++ rest) = octets front + octets rest := by
  induction front with
  | nil => exact (Nat.zero_add _).symm
  | cons character front induction =>
      rw [List.cons_append, octets, octets, induction, Nat.add_assoc]

/-- A number of octets that a character is taken from is no zero. -/
theorem octets_left (count : Nat) (character : Char) :
    ∃ more, character.utf8Size + count = more + 1 ∧ character.utf8Size ≤ more + 1 ∧
      more + 1 - character.utf8Size = count := by
  have positive : 0 < character.utf8Size := character.utf8Size_pos
  exact ⟨character.utf8Size + count - 1, by omega, by omega, by omega⟩

theorem dropOctets?_cons (count : Nat) (character : Char) (rest : List Char) :
    dropOctets? (character.utf8Size + count) (character :: rest) = dropOctets? count rest := by
  obtain ⟨more, whole, fits, left⟩ := octets_left count character
  rw [whole, dropOctets?, if_pos fits, left]

theorem takeOctets?_cons (count : Nat) (character : Char) (rest : List Char) :
    takeOctets? (character.utf8Size + count) (character :: rest) =
      (takeOctets? count rest).map (character :: ·) := by
  obtain ⟨more, whole, fits, left⟩ := octets_left count character
  rw [whole, takeOctets?, if_pos fits, left]

/-- Behind the octets of a front stands the rest. -/
theorem dropOctets?_front (front rest : List Char) :
    dropOctets? (octets front) (front ++ rest) = some rest := by
  induction front with
  | nil => rw [octets, List.nil_append, dropOctets?]
  | cons character front induction =>
      rw [octets, List.cons_append, dropOctets?_cons, induction]

theorem takeOctets?_front (front rest : List Char) :
    takeOctets? (octets front) (front ++ rest) = some front := by
  induction front with
  | nil => rw [octets, List.nil_append, takeOctets?]
  | cons character front induction =>
      rw [octets, List.cons_append, takeOctets?_cons, induction, Option.map_some]

/-- A text that does not begin with a blank stands at the front of itself without blanks. -/
theorem trim_front {text : List Char} (solid : ∀ first ∈ text.head?, isBlank first = false) :
    trim text <+: text := by
  have unshifted : text.dropWhile isBlank = text := by
    cases text with
    | nil => rfl
    | cons first rest => rw [List.dropWhile_cons, solid first rfl, if_neg Bool.false_ne_true]
  rw [trim, unshifted]
  have behind := List.dropWhile_suffix isBlank (l := text.reverse)
  simpa using List.reverse_prefix.mpr behind

end Text

namespace Directive

open Text (octets)

/-- The reading does not break off, and what is read has the property. -/
abbrev Goes {Value : Type} (property : Value → Prop) : Except FilterFailure Value → Prop :=
  Yields property (· = .refused)

theorem goes_required {Value : Type} (found? : Option Value) :
    Goes (fun _ => True) (required found?) := by
  cases found? with
  | none => exact rfl
  | some value => trivial

theorem sliced_between (before inside rest : List Char) :
    sliced (before ++ inside ++ rest) (octets before) (octets (before ++ inside)) = .ok inside := by
  have count : octets (before ++ inside) - octets before = octets inside := by
    rw [Text.octets_append, Nat.add_sub_cancel_left]
  rw [sliced, count, List.append_assoc, Text.dropOctets?_front, Option.bind_some,
    Text.takeOctets?_front]

theorem remaining_behind (before rest : List Char) :
    remaining (before ++ rest) (octets before) = .ok rest := by
  rw [remaining, Text.dropOctets?_front]

/-- What is being read began behind a front of what was read so far. -/
def Stage.Began (front : List Char) : Stage → Prop
  | .level begin | .span begin | .field begin =>
      ∃ before inside, front = before ++ inside ∧ begin = octets before
  | _ => True

theorem Stage.began_behind (front : List Char) (character : Char) :
    ∃ before inside, front ++ [character] = before ++ inside ∧
      octets front + character.utf8Size = octets before := by
  refine ⟨front ++ [character], [], (List.append_nil _).symm, ?_⟩
  rw [Text.octets_append]
  rfl

theorem Stage.Began.more {front : List Char} {stage : Stage} (began : stage.Began front)
    (character : Char) : stage.Began (front ++ [character]) := by
  cases stage
  case level | span | field =>
    obtain ⟨before, inside, rfl, position⟩ := began
    exact ⟨before, inside ++ [character], List.append_assoc _ _ _, position⟩
  all_goals trivial

section

variable (patterns : Patterns) (directive : Directive)

/-- Whatever a character ends began behind a front of the text, and so it can be taken out. -/
theorem step_goes {front : List Char} {stage : Stage} (began : stage.Began front)
    (character : Char) (rest : List Char) :
    Goes (fun after => after.2.Began (front ++ [character]))
      (step patterns (front ++ character :: rest) directive (octets front) character stage) := by
  have target : sliced (front ++ character :: rest) 0 (octets front) = .ok front :=
    sliced_between [] front (character :: rest)
  cases stage with
  | start =>
      rw [step]
      split
      · next opens => exact opens ▸ Stage.began_behind front '['
      · split
        · trivial
        · rfl
  | word =>
      rw [step, target]
      split
      · next equals => exact equals ▸ Stage.began_behind front '='
      · split
        · next opens => exact opens ▸ Stage.began_behind front '['
        · trivial
  | level begin => exact began.more character
  | span begin =>
      obtain ⟨before, inside, rfl, rfl⟩ := id began
      rw [step, sliced_between]
      split
      · trivial
      · split
        · next opens => exact opens ▸ Stage.began_behind _ '\x7b'
        · exact began.more character
  | field begin =>
      obtain ⟨before, inside, rfl, rfl⟩ := id began
      rw [step, sliced_between]
      split
      · dsimp only [bind, Except.bind]
        split
        · rfl
        · exact (goes_required _).bind fun _ _ => trivial
      · exact began.more character
  | fieldRead =>
      rw [step]
      split
      · trivial
      · rfl
  | spanRead =>
      rw [step]
      split
      · next equals => exact equals ▸ Stage.began_behind front '='
      · rfl

theorem scan_goes {front : List Char} {stage : Stage} (began : stage.Began front)
    (read behind : List Char) :
    Goes (fun after => after.2.Began (front ++ read))
      (scan patterns (front ++ (read ++ behind)) directive stage (octets front) read) := by
  induction read generalizing front directive stage with
  | nil =>
      rw [List.append_nil]
      exact began
  | cons character read induction =>
      refine (step_goes patterns directive began character (read ++ behind)).bind ?_
      rintro ⟨directive, stage⟩ began
      have later := induction directive began
      have position : octets (front ++ [character]) = octets front + character.utf8Size := by
        rw [Text.octets_append]
        rfl
      rw [position, List.append_assoc, List.append_assoc] at later
      exact later

theorem finish_goes {front : List Char} {stage : Stage} (began : stage.Began front)
    (behind : List Char) : Goes (fun _ => True) (finish (front ++ behind) directive stage) := by
  cases stage with
  | level begin =>
      obtain ⟨before, inside, rfl, rfl⟩ := began
      rw [finish, List.append_assoc, remaining_behind]
      dsimp only [bind, Except.bind]
      split
      · trivial
      · exact (goes_required _).bind fun _ _ => trivial
  | word => trivial
  | spanRead => trivial
  | _ => rfl

/-- The reading of a directive breaks off only behind a blank at its beginning. -/
theorem read_goes {text : String}
    (solid : ∀ first ∈ text.toList.head?, Text.isBlank first = false) :
    Goes (fun _ => True) (read patterns text) := by
  obtain ⟨behind, whole⟩ := Text.trim_front solid
  have first : Stage.Began [] .start := trivial
  have scanned := scan_goes patterns anything first (Text.trim text.toList) behind
  rw [List.nil_append, whole] at scanned
  refine scanned.bind ?_
  rintro ⟨directive, stage⟩ began
  have finished := finish_goes directive began behind
  rwa [whole] at finished

/-- A directive begins with a bracket or with a character of a target. -/
theorem read_refused {text : String} {first : Char} {rest : List Char}
    (trimmed : Text.trim text.toList = first :: rest) (closed : first ≠ '[')
    (may_not : mayBegin first = false) : read patterns text = .error .refused := by
  rw [read, trimmed, scan, step, if_neg closed, may_not]
  rfl

theorem scan_word {word : List Char} (unassigned : '=' ∉ word) (unopened : '[' ∉ word)
    (text : List Char) (position : Nat) :
    scan patterns text directive .word position word = .ok (directive, .word) := by
  induction word generalizing position with
  | nil => rfl
  | cons character rest induction =>
      have level : character ≠ '=' := (List.ne_of_not_mem_cons unassigned).symm
      have span : character ≠ '[' := (List.ne_of_not_mem_cons unopened).symm
      rw [scan, step, if_neg level, if_neg span]
      exact induction (List.not_mem_of_not_mem_cons unassigned)
        (List.not_mem_of_not_mem_cons unopened) _

/-- A word by itself is read without a look at the patterns. -/
theorem read_word {text : String} (trimmed : Text.trim text.toList = text.toList)
    (begins : text.toList.head?.any mayBegin = true) (unassigned : '=' ∉ text.toList)
    (unopened : '[' ∉ text.toList) :
    read patterns text = .ok (ofWord text.toList anything) := by
  rw [read, trimmed]
  cases characters : text.toList with
  | nil =>
      rw [characters] at begins
      contradiction
  | cons first rest =>
      rw [characters] at begins unassigned unopened
      have closed : first ≠ '[' := (List.ne_of_not_mem_cons unopened).symm
      have may : mayBegin first = true := begins
      rw [scan, step, if_neg closed, if_pos may]
      dsimp only [bind, Except.bind]
      rw [scan_word patterns anything (List.not_mem_of_not_mem_cons unassigned)
        (List.not_mem_of_not_mem_cons unopened)]
      rfl

end

end Directive

namespace Filter

variable {patterns : Patterns}

theorem kept_of_mapM {Value Source : Type} (read : Source → Except FilterFailure Value)
    (sources : List Source) {values : List Value} (all : sources.mapM read = .ok values) :
    kept (sources.map read) = some values := by
  induction sources generalizing values with
  | nil => exact congrArg some (Except.ok.inj all)
  | cons source rest induction =>
      rw [List.mapM_cons] at all
      obtain ⟨value, first, all⟩ := steps_of_bind_ok all
      obtain ⟨more, others, all⟩ := steps_of_bind_ok all
      rw [List.map_cons, first, kept, induction others]
      exact congrArg some (Except.ok.inj all)

/-- A text that is a filter gives the same one where parts of it might have been dropped. -/
theorem ofText?_of_read {text : String} {filter : Filter}
    (whole : read patterns text = .ok filter) : ofText? patterns text = some filter := by
  obtain ⟨directives, all, made⟩ := steps_of_bind_ok whole
  rw [ofText?, kept_of_mapM _ _ all]
  exact congrArg some (Except.ok.inj made)

/-- No part of the text begins with a blank. -/
def Solid (text : String) : Prop :=
  ∀ part ∈ parts text, ∀ first ∈ part.toList.head?, Text.isBlank first = false

theorem kept_goes {Value : Type} {results : List (Except FilterFailure Value)}
    (goes : ∀ result ∈ results, Directive.Goes (fun _ => True) result) :
    kept results ≠ none := by
  induction results with
  | nil => exact Option.some_ne_none []
  | cons result rest induction =>
      obtain ⟨here, others⟩ := List.forall_mem_cons.mp goes
      cases result with
      | ok value => simpa [kept] using induction others
      | error failure =>
          obtain rfl : failure = .refused := here
          exact induction others

theorem mapM_goes {Value Source : Type} {read : Source → Except FilterFailure Value}
    {sources : List Source}
    (goes : ∀ source ∈ sources, Directive.Goes (fun _ => True) (read source)) :
    Directive.Goes (fun _ => True) (sources.mapM read) := by
  induction sources with
  | nil => trivial
  | cons source rest induction =>
      obtain ⟨here, others⟩ := List.forall_mem_cons.mp goes
      rw [List.mapM_cons]
      exact here.bind fun _ _ => (induction others).bind fun _ _ => trivial

/-- Neither way of reading breaks off unless a part begins with a blank. -/
theorem reading_of_solid (patterns : Patterns) {text : String} (solid : Solid text) :
    read patterns text ≠ .error .brokenOff ∧ ofText? patterns text ≠ none := by
  have parts_go : ∀ part ∈ parts text,
      Directive.Goes (fun _ => True) (Directive.read patterns part) :=
    fun part member => Directive.read_goes patterns (solid part member)
  constructor
  · have goes : Directive.Goes (fun _ => True) (read patterns text) :=
      (mapM_goes parts_go).bind fun _ _ => trivial
    intro broken
    rw [broken] at goes
    contradiction
  · rw [ofText?, Ne, Option.map_eq_none_iff]
    apply kept_goes
    intro result given
    obtain ⟨part, member, rfl⟩ := List.mem_map.mp given
    exact parts_go part member

/-- Where no filter is chosen, one of the two texts has a part that begins with a blank. -/
theorem unsolid_of_choose {named? : Option Bytes} {given : String}
    (broken : choose patterns named? given = none) :
    ¬Solid given ∨ ∃ bytes text, named? = some bytes ∧ bytes.toText? = some text ∧ ¬Solid text := by
  apply Classical.byContradiction
  intro solid
  obtain ⟨given_solid, named_solid⟩ := not_or.mp solid
  have fallback := (reading_of_solid patterns (Classical.not_not.mp given_solid)).2
  rw [choose] at broken
  cases spelled : named?.bind Bytes.toText? with
  | none =>
      rw [spelled] at broken
      exact fallback broken
  | some text =>
      obtain ⟨bytes, named, decoded⟩ := Option.bind_eq_some_iff.mp spelled
      have text_solid : Solid text := by
        apply Classical.byContradiction
        intro blank
        exact named_solid ⟨bytes, text, named, decoded, blank⟩
      have unbroken := (reading_of_solid patterns text_solid).1
      rw [spelled] at broken
      cases read : read patterns text with
      | ok filter => simp [read] at broken
      | error failure =>
          cases failure with
          | refused =>
              simp only [read] at broken
              exact fallback broken
          | brokenOff => exact unbroken read

end Filter
end CustomerNotice
