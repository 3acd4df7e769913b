import CustomerNotice.Proofs.Configuration.FirstFailure
import CustomerNotice.Proofs.Text.Lowering

/-!
# Which names stand for an environment

The name of an environment is accepted in any case of its plain letters and in no
other spelling, although the full lowercase mapping is used to compare: no character
beyond the first 128 has a small form that occurs in one of the names. The
environment is detected from a variable. A variable that is no text is taken for a
missing one, so that a garbled name selects the local environment.
-/

namespace CustomerNotice
namespace Environment

open Text (EqualUpToCase IsPlainWord)

theorem name_is_plain (environment : Environment) : IsPlainWord environment.name := by
  have letters : environment.name.toList.all (fun form => Text.IsPlainForm form) = true := by
    cases environment <;> decide
  constructor
  · intro form member
    exact of_decide_eq_true (List.all_eq_true.mp letters form member)
  · cases environment <;> decide +kernel

theorem ofName_gives_iff {given : String} {environment : Environment} :
    ofName given = .ok environment ↔ EqualUpToCase given environment.name := by
  rw [← Text.lowercase_eq_iff environment.name_is_plain, ofName]
  have apart : production.name ≠ development.name := by decide
  by_cases first : Text.lowercase given = development.name
  · cases environment with
    | development => simp [first]
    | production => simp [first, apart.symm]
  · by_cases second : Text.lowercase given = production.name
    · cases environment with
      | development => simp [second, apart]
      | production => simp [second, apart]
    · cases environment with
      | development => simp [first, second]
      | production => simp [first, second]

theorem unsupported_iff {given : String} :
    Unsupported given ↔ ∀ environment : Environment, ¬EqualUpToCase given environment.name := by
  constructor
  · intro unsupported environment same
    exact unsupported environment ((Text.lowercase_eq_iff environment.name_is_plain).mpr same)
  · intro unequal environment same
    exact unequal environment ((Text.lowercase_eq_iff environment.name_is_plain).mp same)

/-- The two names are accepted in any case of their plain letters and nothing else
is; what is not accepted is reported in lowercase. Lowercasing a name first makes no
difference. -/
theorem names_are_accepted_in_any_plain_case (given : String) :
    (ofName given = .ok .development ↔ EqualUpToCase given "local") ∧
    (ofName given = .ok .production ↔ EqualUpToCase given "production") ∧
    (∀ error, ofName given = .error error ↔
      ¬EqualUpToCase given "local" ∧ ¬EqualUpToCase given "production" ∧
        error = ⟨Text.lowercase given⟩) ∧
    UnknownEnvironment.text ⟨Text.lowercase given⟩ = Text.lowercase given ++
      " is not a supported environment. Use either `local` or `production`." ∧
    ofName (Text.lowercase given) = ofName given ∧
    ∀ environment, ofName given = .ok environment →
      ∀ character ∈ given.toList, character.toNat < 128 := by
  refine ⟨ofName_gives_iff, ofName_gives_iff, ?refused, rfl, ?lowered, ?plain⟩
  case refused =>
    intro error
    rw [ofName_fails_iff, unsupported_iff]
    constructor
    · intro refused
      exact ⟨refused.1 .development, refused.1 .production, refused.2⟩
    · intro refused
      obtain ⟨not_local, not_production, same⟩ := refused
      refine ⟨?_, same⟩
      intro environment
      cases environment with
      | development => exact not_local
      | production => exact not_production
  case lowered => rw [ofName, ofName, Text.lowercase_lowercase]
  case plain =>
    intro environment accepted
    have same := (Text.lowercase_eq_iff environment.name_is_plain).mpr (ofName_gives_iff.mp accepted)
    exact Text.plain_of_lowercase environment.name_is_plain same

theorem capital_production_is_accepted :
    ofName "PRODUCTION" = .ok .production ∧
      ∀ character ∈ "PRODUCTION".toList, character.toNat < 128 := by
  obtain ⟨_, accepted, _, _, _, plain⟩ := names_are_accepted_in_any_plain_case "PRODUCTION"
  have production := accepted.mpr (by decide)
  exact ⟨production, plain .production production⟩

/-- A capital I with a dot does not stand for a letter of a name: its small form is
an i with a mark. -/
example : ofName "PRODUCT\u0130ON" = .error ⟨"producti\u0307on"⟩ := by rfl

theorem given_of_value {exported : Variables} {given : String} :
    given? exported = some given ↔
      ∃ bytes, exported.value? variableName = some bytes ∧ Bytes.toText? bytes = some given :=
  Option.bind_eq_some_iff

theorem ungiven_of_value {exported : Variables} :
    given? exported = none ↔ exported.value? variableName = none ∨
      ∃ bytes, exported.value? variableName = some bytes ∧ Bytes.toText? bytes = none := by
  unfold given?
  cases exported.value? variableName with
  | none => simp
  | some bytes => simp

theorem detect_gives_iff {exported : Variables} {environment : Environment} :
    detect exported = .ok environment ↔
      (given? exported = none ∧ environment = .development) ∨
        ∃ given, given? exported = some given ∧ EqualUpToCase given environment.name := by
  rw [detect_eq, ofName_gives_iff]
  cases given? exported with
  | none =>
      have own : EqualUpToCase development.name environment.name ↔ environment = .development := by
        cases environment <;> decide
      simpa using own
  | some given => simp

/-- The environment is the one that the variable names, in any case. Without the
variable it is the local one, but also where the variable is no text: only a text
that names no environment is refused. -/
theorem detection_takes_garbled_for_missing (exported : Variables) :
    (∀ environment, detect exported = .ok environment ↔
      (exported.value? variableName = none ∧ environment = .development) ∨
      (∃ bytes, exported.value? variableName = some bytes ∧ Bytes.toText? bytes = none ∧
        environment = .development) ∨
      ∃ bytes given, exported.value? variableName = some bytes ∧
        Bytes.toText? bytes = some given ∧ EqualUpToCase given environment.name) ∧
    ∀ error, detect exported = .error error ↔
      ∃ bytes given, exported.value? variableName = some bytes ∧
        Bytes.toText? bytes = some given ∧
        (∀ environment : Environment, ¬EqualUpToCase given environment.name) ∧
        error = ⟨Text.lowercase given⟩ := by
  constructor
  · intro environment
    rw [detect_gives_iff, ungiven_of_value]
    constructor
    · intro detected
      rcases detected with ⟨missing | ⟨bytes, found, garbled⟩, same⟩ | ⟨given, named, equal⟩
      · exact .inl ⟨missing, same⟩
      · exact .inr (.inl ⟨bytes, found, garbled, same⟩)
      · obtain ⟨bytes, found, spelled⟩ := given_of_value.mp named
        exact .inr (.inr ⟨bytes, given, found, spelled, equal⟩)
    · intro reason
      rcases reason with ⟨missing, same⟩ | ⟨bytes, found, garbled, same⟩ |
        ⟨bytes, given, found, spelled, equal⟩
      · exact .inl ⟨.inl missing, same⟩
      · exact .inl ⟨.inr ⟨bytes, found, garbled⟩, same⟩
      · exact .inr ⟨given, given_of_value.mpr ⟨bytes, found, spelled⟩, equal⟩
  · intro error
    rw [detect_fails_iff]
    constructor
    · intro failed
      obtain ⟨given, named, unsupported, same⟩ := failed
      obtain ⟨bytes, found, spelled⟩ := given_of_value.mp named
      exact ⟨bytes, given, found, spelled, unsupported_iff.mp unsupported, same⟩
    · intro refused
      obtain ⟨bytes, given, found, spelled, unequal, same⟩ := refused
      exact ⟨given, given_of_value.mpr ⟨bytes, found, spelled⟩, unsupported_iff.mpr unequal, same⟩

/-- The variables ask for the environment: they name it, or they name none. -/
def AskedFor (exported : Variables) (environment : Environment) : Prop :=
  (exported.value? variableName = none ∧ environment = .development) ∨
    ∃ given, exported.value? variableName = some (Bytes.ofText given) ∧
      EqualUpToCase given environment.name

def garbledProduction : Variables :=
  [(Bytes.ofText variableName, Bytes.ofText "production" ++ [255])]

/-- A garbled name of production selects the local environment, which nobody asked
for. -/
theorem garbled_production_selects_local :
    detect garbledProduction = .ok .development ∧
      ¬AskedFor garbledProduction .development ∧
      ¬∀ (exported : Variables) (environment : Environment),
        detect exported = .ok environment → AskedFor exported environment := by
  have value : garbledProduction.value? variableName =
      some (Bytes.ofText "production" ++ [255]) := by decide
  have garbled : Bytes.toText? (Bytes.ofText "production" ++ [255]) = none := by decide +kernel
  have detected : detect garbledProduction = .ok .development := by
    rw [detect, value, Option.bind_some, garbled]
    rfl
  have unasked : ¬AskedFor garbledProduction .development := by
    intro asked
    rcases asked with ⟨missing, _⟩ | ⟨given, named, _⟩
    · rw [value] at missing
      contradiction
    · rw [value, Option.some.injEq] at named
      rw [named, Bytes.toText?_ofText] at garbled
      contradiction
  exact ⟨detected, unasked, fun closed => unasked (closed _ _ detected)⟩

end Environment
end CustomerNotice
