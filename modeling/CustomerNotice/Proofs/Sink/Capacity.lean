import CustomerNotice.Proofs.Sink.Writing
import CustomerNotice.Sink.Bounded

/-!
# Sinks that take a limited number of octets

Such a sink takes every octet that it has room for, in pieces of any length and
with interruptions anywhere, and fails only when it is full. A sink that takes
everything has no limit to its room. How much of a text is taken then depends
on the room alone.
-/

namespace CustomerNotice
namespace Sink

variable {State : Type} {sink : Sink State} {fails : IoError → Prop}
  {room : Option Nat → State → Prop}

/-- In a state with `room left` the sink takes as many more octets as `left`
says, or any number if it says nothing. A full sink goes on failing, with an
error that `fails` allows, and flushing never fails. -/
structure Bounded (sink : Sink State) (fails : IoError → Prop)
    (room : Option Nat → State → Prop) : Prop where
  took : ∀ {left : Option Nat} {state after : State} {offered : Bytes} {count : Nat},
    room left state → offered ≠ [] → sink.write state offered = (.taken (count + 1), after) →
      (∀ most ∈ left, (offered.take (count + 1)).length ≤ most) ∧
        room (left.map (· - (offered.take (count + 1)).length)) after
  interrupted : ∀ {left : Option Nat} {state after : State} {offered : Bytes},
    room left state → offered ≠ [] → sink.write state offered = (.interrupted, after) →
      room left after
  refused : ∀ {left : Option Nat} {state after : State} {offered : Bytes},
    room left state → offered ≠ [] → sink.write state offered = (.taken 0, after) →
      left = some 0 ∧ fails .noProgress ∧ room left after
  failed : ∀ {left : Option Nat} {state after : State} {offered : Bytes} {error : IoError},
    room left state → offered ≠ [] → sink.write state offered = (.failed error, after) →
      left = some 0 ∧ fails error ∧ room left after
  flushes : ∀ {left : Option Nat} {state : State}, room left state →
    (sink.flush state).1 = none ∧ room left (sink.flush state).2

/-- What is taken makes the room smaller, and a writing fails only by filling
it. -/
theorem Writes.within_room {state after : State} {text taken : Bytes}
    {failure? : Option IoError} (writes : Writes sink state text taken failure? after)
    (bounded : sink.Bounded fails room) {left : Option Nat} (has : room left state) :
    room (left.map (· - taken.length)) after ∧
      (∀ most ∈ left, taken.length ≤ most) ∧
      ∀ error, failure? = some error → fails error ∧ left = some taken.length := by
  induction writes generalizing left with
  | complete state =>
      refine ⟨?_, by simp, by simp⟩
      simpa using has
  | @took _ _ _ _ offered rest count _ asked ofText answered goesOn induction =>
      obtain ⟨fits, has⟩ := bounded.took has asked answered
      obtain ⟨has, rest_fits, filled⟩ := induction has
      refine ⟨?room, ?fits, ?filled⟩
      case room =>
        rw [List.length_append]
        simpa [Option.map_map, Function.comp_def, Nat.sub_sub] using has
      case fits =>
        intro most limited
        have piece := fits most limited
        have others := rest_fits _ (Option.mem_map_of_mem _ limited)
        rw [List.length_append]
        omega
      case filled =>
        intro error failed
        obtain ⟨allowed, full⟩ := filled error failed
        obtain ⟨most, limited, exact⟩ := Option.map_eq_some_iff.mp full
        have piece := fits most limited
        refine ⟨allowed, ?_⟩
        rw [limited, List.length_append, Option.some.injEq]
        omega
  | interrupted asked ofText answered goesOn induction =>
      exact induction (bounded.interrupted has asked answered)
  | refused asked ofText answered =>
      obtain ⟨full, allowed, has⟩ := bounded.refused has asked answered
      subst full
      refine ⟨has, by simp, ?_⟩
      intro error failed
      cases failed
      exact ⟨allowed, rfl⟩
  | failed asked ofText answered =>
      obtain ⟨full, allowed, has⟩ := bounded.failed has asked answered
      subst full
      refine ⟨has, by simp, ?_⟩
      intro error failed
      cases failed
      exact ⟨allowed, rfl⟩

/-- A text for which there is room is taken as a whole. -/
theorem Writes.complete_of_room {state after : State} {text taken : Bytes}
    {failure? : Option IoError} (writes : Writes sink state text taken failure? after)
    (bounded : sink.Bounded fails room) {left : Option Nat} (has : room left state)
    (fits : ∀ most ∈ left, text.length ≤ most) : failure? = none := by
  cases failure? with
  | none => rfl
  | some error =>
      obtain ⟨_, full⟩ := (writes.within_room bounded has).2.2 error rfl
      have short := writes.length_lt_of_failure
      have enough := fits _ full
      omega

/-- A text that is too long is taken up to the limit. -/
theorem Writes.fills_room {state after : State} {text taken : Bytes}
    {failure? : Option IoError} (writes : Writes sink state text taken failure? after)
    (bounded : sink.Bounded fails room) {most : Nat} (has : room (some most) state)
    (short : most < text.length) :
    taken = text.take most ∧ ∃ error, fails error ∧ failure? = some error := by
  obtain ⟨_, fits, filled⟩ := writes.within_room bounded has
  have within := fits most rfl
  cases failure? with
  | none =>
      obtain rfl := writes.all_taken
      omega
  | some error =>
      obtain ⟨allowed, full⟩ := filled error rfl
      rw [Option.some.injEq] at full
      rw [full]
      exact ⟨List.prefix_iff_eq_take.mp writes.taken_is_prefix, error, allowed, rfl⟩

/-- A willing sink has room for everything and never fails. -/
theorem Willing.bounded (willing : sink.Willing) :
    sink.Bounded (fun _ => False) (fun left _ => left = none) := by
  refine ⟨?took, ?interrupted, ?refused, ?failed, ?flushes⟩
  case took =>
    rintro left state after offered count rfl asked answered
    simp
  case interrupted =>
    intro left state after offered unlimited asked answered
    exact unlimited
  case refused =>
    intro left state after offered unlimited asked answered
    exact absurd answered (willing.progresses asked)
  case failed =>
    intro left state after offered error unlimited asked answered
    exact absurd answered (willing.holds asked)
  case flushes =>
    intro left state unlimited
    exact ⟨willing.flushes state, unlimited⟩

end Sink

namespace BoundedSink

def refusal (sink : BoundedSink) : IoError := sink.failure.getD .noProgress

/-- A sink that makes progress, flushes, holds no more than its limit, and
answers with `error` once it is full. -/
structure Sound (error : IoError) (sink : BoundedSink) : Prop where
  chunk : sink.chunk ≠ some 0
  flushFailure : sink.flushFailure = none
  held : ∀ limit ∈ sink.limit, sink.held ≤ limit
  refusal : sink.refusal = error

/-- What a sink with a limit still takes. -/
def left (sink : BoundedSink) : Option Nat := sink.limit.map (· - sink.held)

theorem room_le (sink : BoundedSink) (offered : Nat) :
    sink.room offered ≤ offered ∧ ∀ most ∈ sink.left, sink.room offered ≤ most := by
  simp only [room, left]
  cases sink.chunk <;> cases sink.limit <;> simp <;> omega

/-- There is no room only where nothing is offered or the limit is reached. -/
theorem full_of_no_room {sink : BoundedSink} {error : IoError} (sound : sink.Sound error)
    {offered : Nat} (asked : 0 < offered) (none : sink.room offered = 0) :
    sink.left = some 0 := by
  have chunk := sound.chunk
  simp only [room, left] at none ⊢
  cases chunked : sink.chunk <;> cases limited : sink.limit <;>
    simp [chunked, limited] at none chunk ⊢ <;> omega

def fullAnswer (sink : BoundedSink) : SinkAnswer :=
  match sink.failure with
  | some error => .failed error
  | none => .taken 0

/-- A write is interrupted, finds no room, or takes what there is room for. -/
theorem write_cases (sink : BoundedSink) (bytes : Bytes) :
    (∃ interrupts, sink.write bytes = (.interrupted, { sink with interrupts })) ∨
      (sink.room bytes.length = 0 ∧ sink.write bytes = (sink.fullAnswer, sink)) ∨
      ∃ count, sink.room bytes.length = count + 1 ∧
        sink.write bytes = (.taken (count + 1), { sink with held := sink.held + (count + 1) }) := by
  unfold write
  cases sink.interrupts with
  | succ interrupts => exact .inl ⟨interrupts, rfl⟩
  | zero =>
      cases sink.room bytes.length with
      | zero =>
          refine .inr (.inl ⟨rfl, ?_⟩)
          unfold fullAnswer
          cases sink.failure <;> rfl
      | succ count => exact .inr (.inr ⟨count, rfl, rfl⟩)

theorem Sound.taking {sink : BoundedSink} {error : IoError} (sound : sink.Sound error)
    {count : Nat} (fits : ∀ most ∈ sink.left, count ≤ most) :
    { sink with held := sink.held + count }.Sound error := by
  refine ⟨sound.chunk, sound.flushFailure, ?_, sound.refusal⟩
  intro limit limited
  have held := sound.held limit limited
  have room := fits _ (Option.mem_map_of_mem _ limited)
  dsimp only
  omega

theorem left_taking (sink : BoundedSink) (count : Nat) :
    { sink with held := sink.held + count }.left = sink.left.map (· - count) := by
  simp [left, Option.map_map, Function.comp_def, Nat.sub_sub]

theorem fullAnswer_eq (sink : BoundedSink) :
    (sink.fullAnswer = .taken 0 ∧ sink.refusal = .noProgress) ∨
      sink.fullAnswer = .failed sink.refusal := by
  unfold fullAnswer refusal
  cases sink.failure with
  | none => exact .inl ⟨rfl, rfl⟩
  | some error => exact .inr rfl

/-- A write that is neither interrupted nor taken finds the sink full. -/
theorem full_of_write {sink after : BoundedSink} {error : IoError} (sound : sink.Sound error)
    {bytes : Bytes} (asked : bytes ≠ []) {answer : SinkAnswer}
    (answered : sink.write bytes = (answer, after)) (uninterrupted : answer ≠ .interrupted)
    (nothing : ∀ count, answer ≠ .taken (count + 1)) :
    sink.left = some 0 ∧ after = sink ∧ answer = sink.fullAnswer := by
  rcases write_cases sink bytes with ⟨_, wrote⟩ | ⟨room, wrote⟩ | ⟨count, _, wrote⟩
  · cases wrote.symm.trans answered
    contradiction
  · cases wrote.symm.trans answered
    exact ⟨full_of_no_room sound (List.length_pos_iff.mpr asked) room, rfl, rfl⟩
  · cases wrote.symm.trans answered
    exact absurd rfl (nothing count)

/-- Whatever its chunks and its interruptions, a sink with a capacity takes
just what it has room for. -/
theorem sink_bounded (error : IoError) :
    sink.Bounded (· = error) (fun left state => state.Sound error ∧ left = state.left) := by
  refine ⟨?took, ?interrupted, ?refused, ?failed, ?flushes⟩
  case took =>
    rintro left state after offered count ⟨sound, rfl⟩ asked answered
    rcases write_cases state offered with ⟨_, wrote⟩ | ⟨_, wrote⟩ | ⟨taken, room, wrote⟩
    · cases wrote.symm.trans answered
    · have same := congrArg Prod.fst (wrote.symm.trans answered)
      rcases state.fullAnswer_eq with ⟨full, _⟩ | full <;> cases full.symm.trans same
    · cases wrote.symm.trans answered
      have fits := state.room_le offered.length
      rw [room] at fits
      have size : (offered.take (count + 1)).length = count + 1 := by
        rw [List.length_take, Nat.min_eq_left fits.1]
      rw [size, left_taking]
      exact ⟨fits.2, sound.taking fits.2, rfl⟩
  case interrupted =>
    rintro left state after offered ⟨sound, rfl⟩ asked answered
    rcases write_cases state offered with ⟨_, wrote⟩ | ⟨_, wrote⟩ | ⟨_, _, wrote⟩
    · cases wrote.symm.trans answered
      exact ⟨⟨sound.chunk, sound.flushFailure, sound.held, sound.refusal⟩, rfl⟩
    · have same := congrArg Prod.fst (wrote.symm.trans answered)
      rcases state.fullAnswer_eq with ⟨full, _⟩ | full <;> cases full.symm.trans same
    · cases wrote.symm.trans answered
  case refused =>
    rintro left state after offered ⟨sound, rfl⟩ asked answered
    obtain ⟨full, rfl, same⟩ := full_of_write sound asked answered nofun nofun
    rcases after.fullAnswer_eq with ⟨_, refusal⟩ | failing
    · exact ⟨full, refusal.symm.trans sound.refusal, sound, rfl⟩
    · cases same.trans failing
  case failed =>
    rintro left state after offered given ⟨sound, rfl⟩ asked answered
    obtain ⟨full, rfl, same⟩ := full_of_write sound asked answered nofun nofun
    rcases after.fullAnswer_eq with ⟨refusing, _⟩ | failing
    · cases same.trans refusing
    · cases same.trans failing
      exact ⟨full, sound.refusal, sound, rfl⟩
  case flushes =>
    rintro left state ⟨sound, rfl⟩
    exact ⟨sound.flushFailure, sound, rfl⟩

end BoundedSink
end CustomerNotice
