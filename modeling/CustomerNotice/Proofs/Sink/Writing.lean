import CustomerNotice.Sink

/-!
# Writing as a conversation with a sink

A text is offered piece by piece, always from where the sink stopped, and each
answer decides how the writing goes on. The relation leaves open how long the
pieces are, so the retry loop of a sink and the fragments of a printed line are
two of its instances. What holds of the relation holds for every sink,
whichever octet it fails at.
-/

namespace CustomerNotice

namespace Outlet

variable {State : Type}

def extended (outlet : Outlet State) (taken : Bytes) (state : State) : Outlet State :=
  { outlet with state, output := outlet.output ++ taken }

@[simp] theorem extended_state (outlet : Outlet State) (taken : Bytes) (state : State) :
    (outlet.extended taken state).state = state := rfl

@[simp] theorem extended_output (outlet : Outlet State) (taken : Bytes) (state : State) :
    (outlet.extended taken state).output = outlet.output ++ taken := rfl

@[simp] theorem extended_extended (outlet : Outlet State) (first second : Bytes)
    (middle after : State) :
    (outlet.extended first middle).extended second after =
      outlet.extended (first ++ second) after := by
  simp [extended, List.append_assoc]

end Outlet

namespace Sink

variable {State : Type} {sink : Sink State}

/-- Offering `text` from a state on, the sink takes a part of it and is left in
another state. Without a failure the writing is complete. -/
inductive Writes (sink : Sink State) : State → Bytes → Bytes → Option IoError → State → Prop
  | complete (state : State) : Writes sink state [] [] none state
  | took {state middle after : State} {text offered rest : Bytes} {count : Nat}
      {failure? : Option IoError}
      (asked : offered ≠ [])
      (ofText : offered <+: text)
      (answered : sink.write state offered = (.taken (count + 1), middle))
      (goesOn : Writes sink middle (text.drop (offered.take (count + 1)).length) rest
        failure? after) :
      Writes sink state text (offered.take (count + 1) ++ rest) failure? after
  | interrupted {state middle after : State} {text offered taken : Bytes}
      {failure? : Option IoError}
      (asked : offered ≠ [])
      (ofText : offered <+: text)
      (answered : sink.write state offered = (.interrupted, middle))
      (goesOn : Writes sink middle text taken failure? after) :
      Writes sink state text taken failure? after
  | refused {state after : State} {text offered : Bytes}
      (asked : offered ≠ [])
      (ofText : offered <+: text)
      (answered : sink.write state offered = (.taken 0, after)) :
      Writes sink state text [] (some .noProgress) after
  | failed {state after : State} {text offered : Bytes} {error : IoError}
      (asked : offered ≠ [])
      (ofText : offered <+: text)
      (answered : sink.write state offered = (.failed error, after)) :
      Writes sink state text [] (some error) after

namespace Writes

private theorem piece_append_rest {text offered : Bytes} {count : Nat}
    (ofText : offered <+: text) :
    offered.take count ++ text.drop (offered.take count).length = text := by
  have piece : offered.take count <+: text := (List.take_prefix count offered).trans ofText
  have same := List.prefix_iff_eq_take.mp piece
  have whole := List.take_append_drop (offered.take count).length text
  rwa [← same] at whole

private theorem piece_length_le {text offered : Bytes} {count : Nat} (ofText : offered <+: text) :
    (offered.take count).length ≤ text.length :=
  ((List.take_prefix count offered).trans ofText).length_le

/-- Nothing is lost, repeated or moved. -/
theorem taken_is_prefix {state after : State} {text taken : Bytes} {failure? : Option IoError}
    (writes : Writes sink state text taken failure? after) : taken <+: text := by
  induction writes with
  | complete state => exact List.prefix_rfl
  | @took _ _ _ text offered _ count _ asked ofText answered goesOn induction =>
      have whole := (List.prefix_append_right_inj (offered.take (count + 1))).mpr induction
      rwa [piece_append_rest ofText] at whole
  | interrupted asked ofText answered goesOn induction => exact induction
  | refused asked ofText answered => exact List.nil_prefix
  | failed asked ofText answered => exact List.nil_prefix

/-- The writing is complete exactly when the sink took the whole text: a sink
that fails was still being offered something. -/
theorem complete_iff_all_taken {state after : State} {text taken : Bytes}
    {failure? : Option IoError} (writes : Writes sink state text taken failure? after) :
    failure? = none ↔ taken = text := by
  -- A sink is only asked while something is left.
  have unfinished : ∀ {text offered : Bytes}, offered ≠ [] → offered <+: text → [] ≠ text := by
    intro text offered asked ofText same
    subst same
    exact asked (List.prefix_nil.mp ofText)
  induction writes with
  | complete state => simp
  | @took _ _ _ text offered rest count _ asked ofText answered goesOn induction =>
      have whole : offered.take (count + 1) ++ text.drop (offered.take (count + 1)).length =
          text := piece_append_rest ofText
      constructor
      · intro none
        rw [induction.mp none]
        exact whole
      · intro same
        apply induction.mpr
        exact List.append_cancel_left (same.trans whole.symm)
  | interrupted asked ofText answered goesOn induction => exact induction
  | refused asked ofText answered => simpa using unfinished asked ofText
  | failed asked ofText answered => simpa using unfinished asked ofText

theorem all_taken {state after : State} {text taken : Bytes}
    (writes : Writes sink state text taken none after) : taken = text :=
  writes.complete_iff_all_taken.mp rfl

theorem length_lt_of_failure {state after : State} {text taken : Bytes} {error : IoError}
    (writes : Writes sink state text taken (some error) after) : taken.length < text.length := by
  have shorter := writes.taken_is_prefix.length_le
  have different : taken ≠ text := by
    intro same
    have complete := writes.complete_iff_all_taken.mpr same
    contradiction
  have unequal : taken.length ≠ text.length := by
    intro same
    exact different (writes.taken_is_prefix.eq_of_length same)
  omega

/-- A complete writing is followed by another. -/
theorem append {state middle after : State} {first second taken rest : Bytes}
    {failure? : Option IoError}
    (writes : Writes sink state first taken none middle)
    (next : Writes sink middle second rest failure? after) :
    Writes sink state (first ++ second) (taken ++ rest) failure? after := by
  generalize outcome : (none : Option IoError) = ended at writes
  induction writes with
  | complete state => exact next
  | took asked ofText answered goesOn induction =>
      rw [List.append_assoc]
      refine .took asked (ofText.trans (List.prefix_append _ _)) answered ?_
      rw [List.drop_append_of_le_length (piece_length_le ofText)]
      exact induction next outcome
  | interrupted asked ofText answered goesOn induction =>
      exact .interrupted asked (ofText.trans (List.prefix_append _ _)) answered
        (induction next outcome)
  | refused asked ofText answered => contradiction
  | failed asked ofText answered => contradiction

/-- What follows a failure is never offered. -/
theorem append_failed {state after : State} {text taken : Bytes} {error : IoError}
    (writes : Writes sink state text taken (some error) after) (later : Bytes) :
    Writes sink state (text ++ later) taken (some error) after := by
  generalize outcome : some error = ended at writes
  induction writes with
  | complete state => contradiction
  | took asked ofText answered goesOn induction =>
      refine .took asked (ofText.trans (List.prefix_append _ _)) answered ?_
      rw [List.drop_append_of_le_length (piece_length_le ofText)]
      exact induction outcome
  | interrupted asked ofText answered goesOn induction =>
      exact .interrupted asked (ofText.trans (List.prefix_append _ _)) answered
        (induction outcome)
  | refused asked ofText answered =>
      exact .refused asked (ofText.trans (List.prefix_append _ _)) answered
  | failed asked ofText answered =>
      exact .failed asked (ofText.trans (List.prefix_append _ _)) answered

end Writes

/-- A sink that takes everything sooner or later and never fails to flush. It
may still interrupt, and take as little at a time as it likes. -/
structure Willing (sink : Sink State) : Prop where
  progresses : ∀ {state after : State} {offered : Bytes}, offered ≠ [] →
    sink.write state offered ≠ (.taken 0, after)
  holds : ∀ {state after : State} {offered : Bytes} {error : IoError}, offered ≠ [] →
    sink.write state offered ≠ (.failed error, after)
  flushes : ∀ state : State, (sink.flush state).1 = none

/-- A sink that takes at once whatever it is offered. -/
def accepting : Sink Unit where
  write := fun state bytes => (.taken bytes.length, state)
  flush := fun state => (none, state)
  patience := fun _ => 0
  patience_lt := by
    intro state bytes after answered
    cases answered

theorem accepting_willing : accepting.Willing := by
  refine ⟨?_, ?_, ?_⟩
  · intro state after offered asked answered
    have nothing : SinkAnswer.taken offered.length = .taken 0 := congrArg Prod.fst answered
    rw [SinkAnswer.taken.injEq] at nothing
    exact asked (List.eq_nil_of_length_eq_zero nothing)
  · intro state after offered error asked answered
    cases answered
  · intro state
    rfl

theorem Writes.complete_of_willing {state after : State} {text taken : Bytes}
    {failure? : Option IoError} (writes : Writes sink state text taken failure? after)
    (willing : sink.Willing) : failure? = none := by
  induction writes with
  | complete state => rfl
  | took asked ofText answered goesOn induction => exact induction
  | interrupted asked ofText answered goesOn induction => exact induction
  | refused asked ofText answered => exact absurd answered (willing.progresses asked)
  | failed asked ofText answered => exact absurd answered (willing.holds asked)

/-- The loop is a writing of its octets, offered as long as they are. -/
theorem write_all_writes (sink : Sink State) (outlet : Outlet State) (bytes : Bytes) :
    ∃ taken failure? after,
      sink.writeAll outlet bytes = (failure?, outlet.extended taken after) ∧
        Writes sink outlet.state bytes taken failure? after := by
  induction outlet, bytes using writeAll.induct sink with
  | case1 outlet =>
      refine ⟨[], none, outlet.state, ?_, .complete _⟩
      simp [writeAll, Outlet.extended]
  | case2 outlet byte rest state answered =>
      refine ⟨[], some .noProgress, state, ?_, ?_⟩
      · rw [writeAll, answered]
        simp [Outlet.extended]
      · exact .refused (List.cons_ne_nil _ _) List.prefix_rfl answered
  | case3 outlet byte rest count state answered induction =>
      obtain ⟨taken, failure?, after, looped, writes⟩ := induction
      refine ⟨(byte :: rest).take (count + 1) ++ taken, failure?, after, ?_, ?_⟩
      · rw [writeAll, answered]
        simpa [Outlet.extended, List.append_assoc] using looped
      · have left : (byte :: rest).drop ((byte :: rest).take (count + 1)).length =
            rest.drop count :=
          List.append_cancel_left ((Writes.piece_append_rest List.prefix_rfl).trans
            (List.take_append_drop (count + 1) (byte :: rest)).symm)
        apply Writes.took (List.cons_ne_nil _ _) List.prefix_rfl answered
        rw [left]
        exact writes
  | case4 outlet byte rest state answered induction =>
      obtain ⟨taken, failure?, after, looped, writes⟩ := induction
      refine ⟨taken, failure?, after, ?_, ?_⟩
      · rw [writeAll, answered]
        exact looped
      · exact .interrupted (List.cons_ne_nil _ _) List.prefix_rfl answered writes
  | case5 outlet byte rest error state answered =>
      refine ⟨[], some error, state, ?_, ?_⟩
      · rw [writeAll, answered]
        simp [Outlet.extended]
      · exact .failed (List.cons_ne_nil _ _) List.prefix_rfl answered

theorem print_append (sink : Sink State) (outlet : Outlet State) (first second : List String) :
    sink.print outlet (first ++ second) =
      match sink.print outlet first with
      | (none, outlet) => sink.print outlet second
      | (some error, outlet) => (some error, outlet) := by
  induction first generalizing outlet with
  | nil => rfl
  | cons fragment rest induction =>
      simp only [List.cons_append, print]
      cases looped : sink.writeAll outlet (Bytes.ofText fragment) with
      | mk failure? outlet =>
          cases failure? with
          | none => exact induction outlet
          | some error => rfl

/-- Where the fragments meet is not seen by a sink that has taken all before. -/
theorem print_writes (sink : Sink State) (outlet : Outlet State) (fragments : List String) :
    ∃ taken failure? after,
      sink.print outlet fragments = (failure?, outlet.extended taken after) ∧
        Writes sink outlet.state (Bytes.ofText (String.join fragments)) taken failure? after := by
  induction fragments generalizing outlet with
  | nil =>
      refine ⟨[], none, outlet.state, ?_, ?_⟩
      · simp [print, Outlet.extended]
      · simpa using Writes.complete outlet.state
  | cons fragment rest induction =>
      obtain ⟨taken, failure?, middle, looped, writes⟩ :=
        sink.write_all_writes outlet (Bytes.ofText fragment)
      rw [String.join_cons, Bytes.ofText_append]
      cases failure? with
      | none =>
          obtain ⟨more, failure?, after, printed, next⟩ := induction (outlet.extended taken middle)
          refine ⟨taken ++ more, failure?, after, ?_, writes.append next⟩
          simp only [print, looped]
          rw [printed, Outlet.extended_extended]
      | some error =>
          refine ⟨taken, some error, middle, ?_, writes.append_failed _⟩
          simp only [print, looped]

end Sink
end CustomerNotice
