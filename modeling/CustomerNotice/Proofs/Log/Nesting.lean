import CustomerNotice.Log.Record

/-!
# Spans begin and end in pairs

Signals are nested if every span that is opened is closed behind what happens inside it. After
nested signals the same spans are open as before. The end of a span is therefore recorded with what
was recorded of its beginning, around what is recorded of the inside, and a filter that takes none
of the signals away leaves them as they are.
-/

namespace CustomerNotice

namespace Signal

/-- Each span is closed once, inner ones before outer ones. -/
inductive Nested : List Signal → Prop
  | nothing : Nested []
  | event {event : Event} {rest : List Signal} (later : Nested rest) :
      Nested (.happened event :: rest)
  | span {span : Span} {inner rest : List Signal} (inside : Nested inner) (later : Nested rest) :
      Nested (.opened span :: (inner ++ .closed :: rest))

end Signal

namespace Record

variable (name : String) (stack : SpanStack)

@[simp]
theorem listFrom_event (event : Event) (rest : List Signal) :
    listFrom name stack (.happened event :: rest) =
      ofEvent name stack event :: listFrom name stack rest := rfl

@[simp]
theorem listFrom_opened (span : Span) (rest : List Signal) :
    listFrom name stack (.opened span :: rest) =
      ofSpan name (.ofSpan stack span) "START" [] ::
        listFrom name (.ofSpan stack span :: stack) rest := rfl

@[simp]
theorem listFrom_closed (span : OpenSpan) (rest : List Signal) :
    listFrom name (span :: stack) (.closed :: rest) =
      ofSpan name span "END" elapsed :: listFrom name stack rest := rfl

/-- After nested signals the same spans are open as before. -/
theorem listFrom_nested {signals : List Signal} (nested : Signal.Nested signals)
    (more : List Signal) :
    listFrom name stack (signals ++ more) =
      listFrom name stack signals ++ listFrom name stack more := by
  induction nested generalizing stack more with
  | nothing => rfl
  | event later induction =>
      simp only [List.cons_append, listFrom_event, induction]
  | span inside later inner_induction induction =>
      simp only [List.cons_append, List.append_assoc, listFrom_opened, inner_induction,
        listFrom_closed, induction]

theorem listFrom_span (span : Span) {inner : List Signal} (nested : Signal.Nested inner)
    (rest : List Signal) :
    listFrom name stack (.opened span :: (inner ++ .closed :: rest)) =
      ofSpan name (.ofSpan stack span) "START" [] ::
        (listFrom name (.ofSpan stack span :: stack) inner ++
          ofSpan name (.ofSpan stack span) "END" elapsed :: listFrom name stack rest) := by
  rw [listFrom_opened, listFrom_nested name _ nested, listFrom_closed]

end Record

namespace Filter

variable (filter : Filter)

/-- Lets the signal pass, whatever the spans around it grant. -/
def Admits : Signal → Prop
  | .opened span => ∀ grants, filter.admitsSpan grants span = true
  | .happened event =>
      ∀ grants, filter.admitsEvent grants event.target event.level event.names = true
  | .closed => True

variable {filter}

theorem leavesFrom_nested {signals : List Signal} (nested : Signal.Nested signals)
    (admitted : ∀ signal ∈ signals, filter.Admits signal) (spans : List Passage)
    (more : List Signal) :
    filter.leavesFrom spans (signals ++ more) = signals ++ filter.leavesFrom spans more := by
  induction nested generalizing spans more with
  | nothing => rfl
  | event later induction =>
      obtain ⟨here, others⟩ := List.forall_mem_cons.mp admitted
      rw [List.cons_append, leavesFrom, if_pos (here _), induction others, List.cons_append]
  | span inside later inner_induction induction =>
      obtain ⟨here, others⟩ := List.forall_mem_cons.mp admitted
      obtain ⟨within, behind⟩ := List.forall_mem_append.mp others
      rw [List.cons_append, leavesFrom, if_pos (here _), List.append_assoc, List.cons_append,
        inner_induction within, leavesFrom, induction (List.forall_mem_cons.mp behind).2,
        List.cons_append, List.append_assoc, List.cons_append]

/-- What is nested and passes as a whole is left as it is. -/
theorem leaves_nested {signals : List Signal} (nested : Signal.Nested signals)
    (admitted : ∀ signal ∈ signals, filter.Admits signal) : filter.leaves signals = signals := by
  have left := leavesFrom_nested nested admitted [] []
  simpa only [leaves, leavesFrom, List.append_nil] using left

end Filter
end CustomerNotice
