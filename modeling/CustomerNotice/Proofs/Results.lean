import CustomerNotice.Failure

/-!
# What a computation can come to

Readers give a value or nothing, or they fail with a reason. A statement about
all their values, or about all their values and reasons, passes through a
sequence of steps one step at a time.
-/

namespace CustomerNotice

/-- Whatever is found is good. -/
def Gives {Value : Type} (good : Value → Prop) (found? : Option Value) : Prop :=
  ∀ value, found? = some value → good value

namespace Gives

variable {Value Result : Type} {good : Value → Prop} {right : Result → Prop}

theorem none : Gives good Option.none := by
  intro value found
  contradiction

theorem some {value : Value} (holds : good value) : Gives good (Option.some value) := by
  intro other found
  cases found
  exact holds

theorem bind {first : Option Value} {next : Value → Option Result} (gives : Gives good first)
    (goesOn : ∀ value, good value → Gives right (next value)) : Gives right (first >>= next) := by
  intro result found
  obtain ⟨value, found, last⟩ := Option.bind_eq_some_iff.mp found
  exact goesOn value (gives value found) result last

theorem ite {condition : Prop} [Decidable condition] {yes no : Option Value}
    (positive : Gives good yes) (negative : Gives good no) :
    Gives good (if condition then yes else no) := by
  split
  · exact positive
  · exact negative

end Gives

/-- A value is good, and a failure has its cause. -/
def Yields {Failure Value : Type} (good : Value → Prop) (caused : Failure → Prop) :
    Except Failure Value → Prop
  | .ok value => good value
  | .error failure => caused failure

namespace Yields

variable {Failure Other Value Result : Type} {good : Value → Prop} {right : Result → Prop}
  {caused : Failure → Prop}

theorem bind {first : Except Failure Value} {next : Value → Except Failure Result}
    (yields : Yields good caused first)
    (goesOn : ∀ value, good value → Yields right caused (next value)) :
    Yields right caused (first >>= next) := by
  cases first with
  | error failure => exact yields
  | ok value => exact goesOn value yields

theorem ite {condition : Prop} [Decidable condition] {yes no : Except Failure Value}
    (positive : Yields good caused yes) (negative : Yields good caused no) :
    Yields good caused (if condition then yes else no) := by
  split
  · exact positive
  · exact negative

theorem weaken {result : Except Failure Value} {easier : Value → Prop}
    {likelier : Failure → Prop} (yields : Yields good caused result)
    (values : ∀ value, good value → easier value)
    (failures : ∀ failure, caused failure → likelier failure) :
    Yields easier likelier result := by
  cases result with
  | error failure => exact failures failure yields
  | ok value => exact values value yields

/-- A value that is given is the one that was computed. -/
theorem known {result : Except Failure Value} (yields : Yields good caused result) :
    Yields (fun value => result = .ok value) caused result := by
  cases result with
  | error failure => exact yields
  | ok value => exact rfl

theorem mapError {result : Except Other Value} {change : Other → Failure}
    (yields : Yields good (fun failure => caused (change failure)) result) :
    Yields good caused (result.mapError change) := by
  cases result with
  | error failure => exact yields
  | ok value => exact yields

end Yields

/-- A text may be rejected; where reading it breaks off, there is a cause. -/
def FormatFailure.Caused (cause : Crash → Prop) : FormatFailure → Prop
  | .rejected _ => True
  | .crashed crash => cause crash

namespace Yields

variable {Value : Type} {good : Value → Prop} {cause : Crash → Prop}

theorem require {found? : Option Value} (gives : Gives good found?) :
    Yields good (FormatFailure.Caused cause) (FormatFailure.require found?) := by
  cases found? with
  | none => exact True.intro
  | some value => exact gives value rfl

end Yields

section

variable {Failure Other Value Result : Type}

theorem steps_of_bind_ok {first : Except Failure Value} {next : Value → Except Failure Result}
    {result : Result} (run : first >>= next = .ok result) :
    ∃ value, first = .ok value ∧ next value = .ok result := by
  cases first with
  | error failure => contradiction
  | ok value => exact ⟨value, rfl, run⟩

theorem failure_of_bind {first : Except Failure Value} {next : Value → Except Failure Result}
    {failure : Failure} :
    first >>= next = .error failure ↔
      first = .error failure ∨ ∃ value, first = .ok value ∧ next value = .error failure := by
  cases first with
  | error other =>
      have stops : (Except.error other >>= next) = .error other := rfl
      simp [stops]
  | ok value =>
      have goesOn : (Except.ok value >>= next) = next value := rfl
      simp [goesOn]

theorem mapError_error (change : Failure → Other) (failure : Failure) :
    (Except.error failure : Except Failure Value).mapError change = .error (change failure) := rfl

theorem mapError_ok (change : Failure → Other) (value : Value) :
    (Except.ok value : Except Failure Value).mapError change = .ok value := rfl

theorem failure_of_mapError {change : Failure → Other} {result : Except Failure Value}
    {other : Other} :
    result.mapError change = .error other ↔
      ∃ failure, result = .error failure ∧ change failure = other := by
  cases result with
  | error failure => simp [mapError_error]
  | ok value => simp [mapError_ok]

theorem value_of_mapError {change : Failure → Other} {result : Except Failure Value}
    {value : Value} : result.mapError change = .ok value ↔ result = .ok value := by
  cases result with
  | error failure => simp [mapError_error]
  | ok other => simp [mapError_ok]

theorem mapError_bind {change : Failure → Other} (first : Except Failure Value)
    (next : Value → Except Failure Result) :
    (first >>= next).mapError change =
      first.mapError change >>= fun value => (next value).mapError change := by
  cases first with
  | error failure => rfl
  | ok value => rfl

theorem value_of_toOption {result : Except Failure Value} {value : Value} :
    result.toOption = some value ↔ result = .ok value := by
  cases result with
  | error failure => simp [Except.toOption]
  | ok other => simp [Except.toOption]

def failure? : Except Failure Value → Option Failure
  | .ok _ => none
  | .error failure => some failure

theorem failure_of_failure? {result : Except Failure Value} {failure : Failure} :
    failure? result = some failure ↔ result = .error failure := by
  cases result with
  | error other => simp [failure?]
  | ok value => simp [failure?]

theorem failure_of_toOption {result : Except Failure Value} :
    result.toOption = none ↔ ∃ failure, result = .error failure := by
  cases result with
  | error failure => simp [Except.toOption]
  | ok value => simp [Except.toOption]

theorem toOption_bind (first : Except Failure Value) (next : Value → Except Failure Result) :
    (first >>= next).toOption = first.toOption.bind fun value => (next value).toOption := by
  cases first with
  | error failure => rfl
  | ok value => rfl

theorem toOption_mapError (change : Failure → Other) (result : Except Failure Value) :
    (result.mapError change).toOption = result.toOption := by
  cases result with
  | error failure => rfl
  | ok value => rfl

theorem toOption_map (change : Value → Result) (result : Except Failure Value) :
    (result.map change).toOption = result.toOption.map change := by
  cases result with
  | error failure => rfl
  | ok value => rfl

/-- Two computations of which a view is the same go on alike if the rest depends on
the view alone. -/
theorem bind_of_view {View : Type} {view : Value → View} {first second : Option Value}
    (same : first.map view = second.map view) {one other : Value → Option Result}
    (goesOn : ∀ left right, first = some left → second = some right → view left = view right →
      one left = other right) : first.bind one = second.bind other := by
  cases first with
  | none =>
      rw [Option.map_eq_none_iff.mp same.symm]
      rfl
  | some left =>
      cases second with
      | none => contradiction
      | some right => exact goesOn left right rfl rfl (Option.some.inj same)

end

end CustomerNotice
