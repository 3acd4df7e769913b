import CustomerNotice.Proofs.Notice.Delivery
import CustomerNotice.Proofs.Sink.Capacity
import CustomerNotice.Session

/-!
# Runs that share a bounded sink

Runs that follow each other on one sink write their text again and again until
the sink is full. The run that fills it fails where its text is cut off, all
later ones fail at once, and nothing else of the sink is seen: neither how long
its pieces are nor how often it interrupts.
-/

namespace CustomerNotice

variable {State : Type} {sink : Sink State} {fails : IoError → Prop}
  {room : Option Nat → State → Prop}

namespace Application

theorem details_length_pos (application : Application) : 0 < application.detailsBytes.length := by
  rw [detailsBytes, Notice.detailsBytes]
  delta Notice.spelledDetails
  simp only [Bytes.ofText_append, List.length_append]
  have break_length : (Bytes.ofText "\n").length = 1 := by decide
  omega

theorem details_length_le (application : Application) :
    application.detailsBytes.length ≤ application.textBytes.length := by
  rw [textBytes, Notice.text_bytes_eq, List.length_append]
  exact Nat.le_add_right _ _

theorem text_length_pos (application : Application) : 0 < application.textBytes.length :=
  Nat.lt_of_lt_of_le application.details_length_pos application.details_length_le

/-- The error of a run whose text was cut off behind `taken` octets. -/
def shortfall (application : Application) (taken : Nat) (error : IoError) : NoticeError :=
  if taken < application.detailsBytes.length then .output error
  else .email ⟨application.customer.email.text, error⟩

/-- A run for whose text there is room succeeds and leaves less room. -/
theorem run_with_room (application : Application) (bounded : sink.Bounded fails room)
    {left : Option Nat} {outlet : Outlet State} (has : room left outlet.state)
    (fits : ∀ most ∈ left, application.textBytes.length ≤ most) :
    (application.run sink outlet).outcome = .ok () ∧
      (application.run sink outlet).outlet.output = outlet.output ++ application.textBytes ∧
      room (left.map (· - application.textBytes.length))
        (application.run sink outlet).outlet.state := by
  obtain ⟨taken, failure?, settled, writes, after, outcome⟩ := application.run_settles sink outlet
  obtain rfl := writes.complete_of_room bounded has fits
  obtain rfl := writes.all_taken
  obtain ⟨unfailing, still⟩ := bounded.flushes (writes.within_room bounded has).1
  rw [after, outcome, unfailing]
  exact ⟨rfl, rfl, still⟩

/-- A run for whose text there is too little room fills the sink. -/
theorem run_without_room (application : Application) (bounded : sink.Bounded fails room)
    {most : Nat} {outlet : Outlet State} (has : room (some most) outlet.state)
    (short : most < application.textBytes.length) :
    (∃ error, fails error ∧
      (application.run sink outlet).outcome = .error (application.shortfall most error)) ∧
      (application.run sink outlet).outlet.output =
        outlet.output ++ application.textBytes.take most ∧
      room (some 0) (application.run sink outlet).outlet.state := by
  obtain ⟨taken, failure?, settled, writes, after, outcome⟩ := application.run_settles sink outlet
  obtain ⟨cut, error, allowed, rfl⟩ := writes.fills_room bounded has short
  have full := (writes.within_room bounded has).1
  have size : taken.length = most := by
    rw [cut, List.length_take]
    omega
  have failed : application.verdict taken (some error) (sink.flush settled).1 =
      .error (application.shortfall most error) := by
    simp only [verdict, shortfall, size]
    split <;> rfl
  rw [after, outcome, failed]
  refine ⟨⟨error, allowed, rfl⟩, by rw [cut], ?_⟩
  simpa [size] using full

/-- How the run at a place ends when all runs together have `capacity`. -/
inductive Ends (application : Application) (fails : IoError → Prop) (capacity : Nat) :
    Nat → Except NoticeError Unit → Prop
  | whole {place : Nat} (fits : place < capacity / application.textBytes.length) :
      Ends application fails capacity place (.ok ())
  | cut {error : IoError} (allowed : fails error) :
      Ends application fails capacity (capacity / application.textBytes.length)
        (.error (application.shortfall (capacity % application.textBytes.length) error))
  | empty {place : Nat} {error : IoError} (allowed : fails error)
      (full : capacity / application.textBytes.length < place) :
      Ends application fails capacity place (.error (.output error))

namespace Ends

variable {application : Application} {capacity place : Nat} {outcome : Except NoticeError Unit}

/-- A whole text before the others moves them by one place. -/
theorem after_whole (ends : Ends application fails (capacity - application.textBytes.length)
      place outcome) (fits : application.textBytes.length ≤ capacity) :
    Ends application fails capacity (place + 1) outcome := by
  have positive := application.text_length_pos
  have more : capacity / application.textBytes.length =
      (capacity - application.textBytes.length) / application.textBytes.length + 1 :=
    Nat.div_eq_sub_div positive fits
  have rest : capacity % application.textBytes.length =
      (capacity - application.textBytes.length) % application.textBytes.length :=
    Nat.mod_eq_sub_mod fits
  cases ends with
  | whole earlier => exact .whole (by omega)
  | cut allowed =>
      rw [← rest, ← more]
      exact .cut allowed
  | empty allowed full => exact .empty allowed (by omega)

/-- Behind a text that is cut off nothing is written any more. -/
theorem after_cut (ends : Ends application fails 0 place outcome)
    (short : capacity < application.textBytes.length) :
    Ends application fails capacity (place + 1) outcome := by
  have none : capacity / application.textBytes.length = 0 := Nat.div_eq_of_lt short
  cases ends with
  | whole earlier =>
      rw [Nat.zero_div] at earlier
      contradiction
  | @cut error allowed =>
      have early : application.shortfall (0 % application.textBytes.length) error =
          .output error := by
        rw [Nat.zero_mod]
        exact if_pos application.details_length_pos
      rw [early, Nat.zero_div]
      exact .empty allowed (by omega)
  | empty allowed full => exact .empty allowed (by omega)

end Ends

theorem take_repeated (bytes : Bytes) (count capacity : Nat) :
    (List.replicate (count + 1) bytes).flatten.take capacity =
      bytes.take capacity ++ (List.replicate count bytes).flatten.take (capacity - bytes.length) := by
  rw [List.replicate_succ, List.flatten_cons, List.take_append]

/-- Runs in a row write the repeated text as far as there is room, and each
ends as its place says. -/
theorem runs_fill (application : Application) (bounded : sink.Bounded fails room) (count : Nat)
    {capacity : Nat} {outlet : Outlet State} (has : room (some capacity) outlet.state) :
    (application.runs sink outlet count).outlet.output =
        outlet.output ++ (List.replicate count application.textBytes).flatten.take capacity ∧
      (application.runs sink outlet count).outcomes.length = count ∧
      ∀ place outcome, (application.runs sink outlet count).outcomes[place]? = some outcome →
        Ends application fails capacity place outcome := by
  induction count generalizing capacity outlet with
  | zero =>
      refine ⟨?_, rfl, ?_⟩
      · simp [runs, Course.times]
      · intro place outcome absent
        simp [runs, Course.times] at absent
  | succ count induction =>
      have unfolded : application.runs sink outlet (count + 1) =
          ⟨(application.run sink outlet).outcome ::
              (application.runs sink (application.run sink outlet).outlet count).outcomes,
            (application.runs sink (application.run sink outlet).outlet count).outlet,
            (application.run sink outlet).signals ++
              (application.runs sink (application.run sink outlet).outlet count).signals⟩ := rfl
      rw [unfolded]
      dsimp only
      rw [take_repeated, List.length_cons]
      by_cases fits : application.textBytes.length ≤ capacity
      · obtain ⟨succeeded, written, has⟩ := application.run_with_room bounded has
          (by simpa using fits)
        obtain ⟨output, length, ends⟩ := induction has
        rw [output, length, succeeded, written, List.take_of_length_le fits]
        refine ⟨List.append_assoc _ _ _, rfl, ?_⟩
        intro place outcome found
        cases place with
        | zero =>
            cases found
            exact .whole (Nat.div_pos fits application.text_length_pos)
        | succ place => exact (ends place outcome found).after_whole fits
      · have short := Nat.lt_of_not_le fits
        obtain ⟨⟨error, allowed, failed⟩, written, has⟩ :=
          application.run_without_room bounded has short
        obtain ⟨output, length, ends⟩ := induction has
        have nothing : capacity - application.textBytes.length = 0 := by omega
        rw [output, length, failed, written, nothing]
        refine ⟨List.append_assoc _ _ _, rfl, ?_⟩
        intro place outcome found
        cases place with
        | zero =>
            cases found
            have first : Ends application fails capacity _ _ := .cut allowed
            rwa [Nat.div_eq_of_lt short, Nat.mod_eq_of_lt short] at first
        | succ place => exact (ends place outcome found).after_cut short

/-- Where a full sink has one answer, the place decides how a run ends. -/
theorem Ends.unique {application : Application} {error : IoError} {capacity place : Nat}
    {first second : Except NoticeError Unit}
    (one : Ends application (· = error) capacity place first)
    (other : Ends application (· = error) capacity place second) : first = second := by
  cases one with
  | whole fits =>
      cases other with
      | whole fits => rfl
      | cut allowed => omega
      | empty allowed full => omega
  | cut allowed =>
      cases other with
      | whole fits => omega
      | cut same => rw [allowed, same]
      | empty allowed full => omega
  | empty allowed full =>
      cases other with
      | whole fits => omega
      | cut allowed => omega
      | empty same full => rw [allowed, same]

theorem Ends.weaken {application : Application} {allowing : IoError → Prop}
    {capacity place : Nat} {outcome : Except NoticeError Unit}
    (ends : Ends application fails capacity place outcome)
    (weaker : ∀ error, fails error → allowing error) :
    Ends application allowing capacity place outcome := by
  cases ends with
  | whole fits => exact .whole fits
  | cut allowed => exact .cut (weaker _ allowed)
  | empty allowed full => exact .empty (weaker _ allowed) full

theorem take_repeated_of_enough (bytes : Bytes) {fewer count capacity : Nat}
    (enough : capacity ≤ fewer * bytes.length) (more : fewer ≤ count) :
    (List.replicate count bytes).flatten.take capacity =
      (List.replicate fewer bytes).flatten.take capacity := by
  obtain ⟨rest, rfl⟩ := Nat.exists_eq_add_of_le more
  rw [← List.replicate_append_replicate, List.flatten_append, List.take_append_of_le_length]
  simpa using enough

end Application

namespace Session

def after (session : Session) (steps : List SessionStep) : Session :=
  steps.foldl (fun session step => (session.step step).2) session

/-- Runs change nothing of a session but its outlet, whether they fail or
not. -/
theorem after_runs {session : Session} {application : Application}
    (made : session.application? = some application) (count : Nat) :
    session.after (List.replicate count .run) =
      { session with
        outlet := (application.runs BoundedSink.sink session.outlet count).outlet } := by
  induction count generalizing session with
  | zero => rfl
  | succ count induction =>
      have stepped : (session.step .run).2 =
          { session with outlet := (application.run BoundedSink.sink session.outlet).outlet } := by
        rw [step, made]
      have still : (session.step .run).2.application? = some application := by
        rw [stepped]
        exact made
      have later := induction still
      rw [stepped] at later
      rw [List.replicate_succ, after, List.foldl_cons, stepped]
      exact later

end Session

namespace Application

/-- Runs that share a bounded sink fill it with their repeated text: as many
succeed as there is room for, the next one is cut off, and all others fail and
add nothing. Two sinks with the same room and the same failure are not told
apart, and no run changes what is run. -/
theorem runs_share_the_room (application : Application) (bounded : sink.Bounded fails room)
    {capacity : Nat} (outlet : Outlet State) (has : room (some capacity) outlet.state)
    (count : Nat) :
    (application.runs sink outlet count).outlet.output =
        outlet.output ++ (List.replicate count application.textBytes).flatten.take
          (min capacity (count * application.textBytes.length)) ∧
      (application.runs sink outlet count).outcomes.length = count ∧
      (∀ place outcome, (application.runs sink outlet count).outcomes[place]? = some outcome →
        (outcome = .ok () ↔ place < capacity / application.textBytes.length) ∧
        (place = capacity / application.textBytes.length →
          ∃ error, fails error ∧ outcome = .error
            (if capacity % application.textBytes.length < application.detailsBytes.length
              then .output error
              else .email ⟨application.customer.email.text, error⟩)) ∧
        (capacity / application.textBytes.length < place →
          ∃ error, fails error ∧ outcome = .error (.output error))) ∧
      (∀ fewer, capacity / application.textBytes.length < fewer → fewer ≤ count →
        (application.runs sink outlet fewer).outlet.output =
          (application.runs sink outlet count).outlet.output) ∧
      (∀ error, (∀ given, fails given → given = error) →
        ∀ {Other : Type} {other : Sink Other} {otherRoom : Option Nat → Other → Prop}
          {otherOutlet : Outlet Other}, other.Bounded (· = error) otherRoom →
          otherRoom (some capacity) otherOutlet.state →
          (application.runs other otherOutlet count).outcomes =
              (application.runs sink outlet count).outcomes ∧
            ∃ added,
              (application.runs sink outlet count).outlet.output = outlet.output ++ added ∧
              (application.runs other otherOutlet count).outlet.output =
                otherOutlet.output ++ added) ∧
      (∀ session : Session, session.application? = some application →
        session.after (List.replicate count .run) =
          { session with
            outlet := (application.runs BoundedSink.sink session.outlet count).outlet }) := by
  obtain ⟨output, length, ends⟩ := application.runs_fill bounded count has
  refine ⟨?output, length, ?outcomes, ?nothingAdded, ?sameRoom, ?sameApplication⟩
  case output =>
    have size : (List.replicate count application.textBytes).flatten.length =
        count * application.textBytes.length := by simp
    rw [output, ← size, List.take_eq_take_min]
  case outcomes =>
    intro place outcome found
    cases ends place outcome found with
    | whole fits =>
        refine ⟨by simp [fits], ?_, ?_⟩
        · intro here
          omega
        · intro later
          omega
    | @cut error allowed =>
        refine ⟨by simp, ?_, ?_⟩
        · intro here
          exact ⟨error, allowed, rfl⟩
        · intro later
          omega
    | @empty place error allowed full =>
        refine ⟨by simp; omega, ?_, ?_⟩
        · intro here
          omega
        · intro later
          exact ⟨error, allowed, rfl⟩
  case nothingAdded =>
    intro fewer full within
    have enough : capacity ≤ fewer * application.textBytes.length :=
      Nat.le_of_lt ((Nat.div_lt_iff_lt_mul application.text_length_pos).mp full)
    rw [output, (application.runs_fill bounded fewer has).1,
      take_repeated_of_enough _ enough within]
  case sameRoom =>
    intro error only Other other otherRoom otherOutlet otherBounded otherHas
    obtain ⟨otherOutput, otherLength, otherEnds⟩ :=
      application.runs_fill otherBounded count otherHas
    refine ⟨?_, _, output, otherOutput⟩
    apply List.ext_getElem (otherLength.trans length.symm)
    intro place within otherWithin
    exact (otherEnds place _ (List.getElem?_eq_getElem within)).unique
      ((ends place _ (List.getElem?_eq_getElem otherWithin)).weaken only)
  case sameApplication =>
    intro session made
    exact Session.after_runs made count

def sample : Application where
  customer := .new "" "zoe@example.com" "Zoë" "key"
  reveal := false

/-- Takes five octets at a time and interrupts twice. Its limit falls between
the two octets of the letter in the second text. -/
def smallSink : BoundedSink where
  limit := some 196
  chunk := some 5
  failure := none
  interrupts := 2
  flushFailure := none
  held := 0

theorem small_sink_takes_one_run_and_a_half :
    (sample.runs BoundedSink.sink (.start smallSink) 3).outcomes =
        [.ok (), .error (.email ⟨"zoe@example.com", .noProgress⟩),
          .error (.output .noProgress)] ∧
      (sample.runs BoundedSink.sink (.start smallSink) 3).outlet.output.length = 196 := by
  have text_length : sample.textBytes.length = 99 := by
    rw [textBytes, Notice.textBytes]
    decide +kernel
  have details_length : sample.detailsBytes.length = 63 := by
    rw [detailsBytes, Notice.detailsBytes]
    decide +kernel
  have sound : smallSink.Sound .noProgress := ⟨by decide, rfl, by simp [smallSink], rfl⟩
  have has : smallSink.Sound .noProgress ∧ some 196 = smallSink.left := ⟨sound, rfl⟩
  obtain ⟨output, length, ends, _⟩ :=
    runs_share_the_room sample (BoundedSink.sink_bounded .noProgress) (.start smallSink) has 3
  rw [text_length, details_length] at ends
  rw [text_length] at output
  generalize sample.runs BoundedSink.sink (.start smallSink) 3 = course at output length ends ⊢
  obtain ⟨outcomes, outlet, signals⟩ := course
  obtain ⟨first, second, third, rfl⟩ : ∃ first second third, outcomes = [first, second, third] := by
    rcases outcomes with _ | ⟨first, _ | ⟨second, _ | ⟨third, _ | _⟩⟩⟩ <;> simp at length
    exact ⟨first, second, third, rfl⟩
  have first_ends := (ends 0 first rfl).1.mpr (by decide)
  obtain ⟨error, rfl, second_ends⟩ := (ends 1 second rfl).2.1 rfl
  obtain ⟨error, rfl, third_ends⟩ := (ends 2 third rfl).2.2 (by decide)
  refine ⟨?_, ?_⟩
  · rw [first_ends, second_ends, third_ends]
    rfl
  · simp only at output
    rw [output]
    simp [Outlet.start, text_length]

end Application
end CustomerNotice
