import CustomerNotice.Proofs.Log.DirectiveReading
import CustomerNotice.Proofs.Log.Nesting

/-!
# Filters that are a threshold

The name of a level is a filter that asks for nothing but a threshold, and so is the word for no
level at all. Such a filter grants nothing to the inside of spans: it lets exactly those signals
pass whose level the threshold lets pass.
-/

namespace CustomerNotice

namespace Signal

def level? : Signal → Option Level
  | .opened span => some span.level
  | .happened event => some event.level
  | .closed => none

end Signal

namespace Directive

/-- Asks for a threshold wherever something happens. -/
def upTo (threshold : Threshold) : Directive := ⟨"", none, none, threshold⟩

theorem upTo_covers (threshold : Threshold) (target : String) :
    (upTo threshold).covers target = true := by
  have empty : "".toList = [] := by decide
  simp only [covers, upTo, empty, List.isPrefixOf]

/-- A word that names a threshold asks for nothing else. -/
theorem read_threshold (patterns : Patterns) {word : String} {threshold : Threshold}
    (named : readThreshold? word = some threshold)
    (trimmed : Text.trim word.toList = word.toList)
    (begins : word.toList.head?.any mayBegin = true) (unassigned : '=' ∉ word.toList)
    (unopened : '[' ∉ word.toList) : read patterns word = .ok (upTo threshold) := by
  rw [read_word patterns trimmed begins unassigned unopened, ofWord, String.ofList_toList, named]
  rfl

theorem read_label (patterns : Patterns) (level : Level) :
    read patterns level.label = .ok (upTo (some level)) := by
  cases level <;> exact read_threshold patterns (by decide +kernel) (by decide)
    (by decide +kernel) (by decide) (by decide)

theorem read_off (patterns : Patterns) : read patterns "off" = .ok (upTo none) :=
  read_threshold patterns (by decide +kernel) (by decide) (by decide +kernel) (by decide)
    (by decide)

end Directive

namespace Filter

variable (patterns : Patterns) (threshold : Threshold)

def upTo : Filter := ⟨[.upTo threshold], patterns⟩

theorem upTo_statics : (upTo patterns threshold).statics = [.upTo threshold] := rfl

theorem upTo_grant? (span : Span) : (upTo patterns threshold).grant? span = none := rfl

theorem upTo_admitsEvent (grants : List Threshold) (target : String) (level : Level)
    (names : List String) :
    (upTo patterns threshold).admitsEvent grants target level names =
      (grants.any (·.passes level) || threshold.passes level) := by
  rw [admitsEvent, upTo_statics, List.filter_cons_of_pos]
  · rfl
  · rw [Directive.upTo_covers]
    rfl

theorem upTo_admitsSpan (grants : List Threshold) (span : Span) :
    (upTo patterns threshold).admitsSpan grants span =
      (grants.any (·.passes span.level) || threshold.passes span.level) := by
  rw [admitsSpan, upTo_statics, List.filter_cons_of_pos, upTo_grant?]
  · exact Bool.or_false _
  · exact Directive.upTo_covers threshold span.target

theorem upTo_admits {signal : Signal}
    (passes : ∀ level ∈ signal.level?, threshold.passes level = true) :
    (upTo patterns threshold).Admits signal := by
  cases signal with
  | opened span =>
      intro grants
      rw [upTo_admitsSpan, passes span.level rfl, Bool.or_true]
  | happened event =>
      intro grants
      rw [upTo_admitsEvent, passes event.level rfl, Bool.or_true]
  | closed => trivial

/-- Where no level passes nothing is left. -/
theorem upTo_none_leavesFrom {spans : List Passage} (taken : ∀ passage ∈ spans, passage = .taken)
    (signals : List Signal) : (upTo patterns none).leavesFrom spans signals = [] := by
  have ungranted : Passage.grants spans = [] := by
    rw [Passage.grants, List.filterMap_eq_nil_iff]
    intro passage member
    rw [taken passage member]
  induction signals generalizing spans with
  | nil => rfl
  | cons signal rest induction =>
      cases signal with
      | opened span =>
          rw [leavesFrom, upTo_admitsSpan, ungranted]
          exact induction (List.forall_mem_cons.mpr ⟨rfl, taken⟩) ungranted
      | happened event =>
          rw [leavesFrom, upTo_admitsEvent, ungranted]
          exact induction taken ungranted
      | closed =>
          cases spans with
          | nil => exact induction taken ungranted
          | cons passage spans =>
              obtain ⟨rfl, others⟩ := List.forall_mem_cons.mp taken
              exact induction others ungranted

theorem upTo_none_leaves (signals : List Signal) : (upTo patterns none).leaves signals = [] :=
  upTo_none_leavesFrom patterns (List.forall_mem_nil _) signals

theorem read_single {text : String} {directive : Directive} (single : parts text = [text])
    (whole : Directive.read patterns text = .ok directive) :
    read patterns text = .ok ⟨[directive], patterns⟩ := by
  rw [read, single, List.mapM_cons, whole]
  rfl

theorem read_label (level : Level) :
    read patterns level.label = .ok (upTo patterns (some level)) := by
  have single : parts level.label = [level.label] := by cases level <;> decide
  exact read_single patterns single (Directive.read_label patterns level)

theorem read_off : read patterns "off" = .ok (upTo patterns none) :=
  read_single patterns (by decide) (Directive.read_off patterns)

end Filter
end CustomerNotice
