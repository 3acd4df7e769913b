import CustomerNotice.Program
import CustomerNotice.Proofs.Log.Thresholds
import CustomerNotice.Proofs.Notice.Delivery

/-!
# Which filter the log is under

A variable may spell a filter. If it does, nothing else has a say. If it is not set, is no text or
is a text that is no filter, the given filter decides, as if the variable were not set; and where
the reading of the variable breaks off, there is no listener at all.
-/

namespace CustomerNotice

namespace Filter

variable {patterns : Patterns}

theorem choose_of_read {bytes : Bytes} {text : String} {filter : Filter}
    (spelled : bytes.toText? = some text) (whole : read patterns text = .ok filter)
    (given : String) : choose patterns (some bytes) given = some filter := by
  simp only [choose, Option.bind_some, spelled, whole]

theorem choose_of_broken {bytes : Bytes} {text : String} (spelled : bytes.toText? = some text)
    (broken : read patterns text = .error .brokenOff) (given : String) :
    choose patterns (some bytes) given = none := by
  simp only [choose, Option.bind_some, spelled, broken]

/-- A setting of the variable that decides nothing. -/
def Undecided (patterns : Patterns) (named? : Option Bytes) : Prop :=
  ∀ bytes ∈ named?, ∀ text ∈ bytes.toText?, read patterns text = .error .refused

theorem choose_of_undecided {named? : Option Bytes} (undecided : Undecided patterns named?)
    (given : String) : choose patterns named? given = ofText? patterns given := by
  rw [choose]
  cases spelled : named?.bind Bytes.toText? with
  | none => rfl
  | some text =>
      obtain ⟨bytes, named, decoded⟩ := Option.bind_eq_some_iff.mp spelled
      simp only [undecided bytes named text decoded]

end Filter

namespace Program

variable {State : Type}

/-- The signals of making the application of a configuration and running it. -/
def signals (configuration : Configuration) (sink : Sink State) (outlet : Outlet State)
    (count : Nat) : List Signal :=
  let (application, built) := Application.build configuration
  built ++ (application.runs sink outlet count).signals

theorem signals_eq (configuration : Configuration) (sink : Sink State) (outlet : Outlet State)
    (count : Nat) :
    signals configuration sink outlet count =
      .happened (Application.builtEvent configuration) ::
        ((Application.ofConfiguration configuration).runs sink outlet count).signals := rfl

/-- What a listener under a name and with a given filter records of it, if there is one. -/
def logUnder (patterns : Patterns) (exported : Variables) (name given : String)
    (configuration : Configuration) (sink : Sink State) (outlet : Outlet State) (count : Nat) :
    Option (List Record) :=
  (listener? patterns exported name given).map (·.records (signals configuration sink outlet count))

section

variable {patterns : Patterns} {exported : Variables}

theorem listener_of_read {bytes : Bytes} {text : String} {filter : Filter}
    (set : exported.value? filterVariable = some bytes) (spelled : bytes.toText? = some text)
    (whole : Filter.read patterns text = .ok filter) (name given : String) :
    listener? patterns exported name given = some ⟨name, filter⟩ := by
  rw [listener?, set, Filter.choose_of_read spelled whole]
  rfl

theorem listener_of_broken {bytes : Bytes} {text : String}
    (set : exported.value? filterVariable = some bytes) (spelled : bytes.toText? = some text)
    (broken : Filter.read patterns text = .error .brokenOff) (name given : String) :
    listener? patterns exported name given = none := by
  rw [listener?, set, Filter.choose_of_broken spelled broken]
  rfl

theorem listener_of_undecided
    (undecided : Filter.Undecided patterns (exported.value? filterVariable))
    (name given : String) :
    listener? patterns exported name given =
      (Filter.ofText? patterns given).map (⟨name, ·⟩) := by
  rw [listener?, Filter.choose_of_undecided undecided]

theorem listener_of_level (patterns : Patterns)
    (unset : exported.value? filterVariable = none) (name : String) (level : Level) :
    listener? patterns exported name level.label =
      some ⟨name, .upTo patterns (some level)⟩ := by
  have undecided : Filter.Undecided patterns (exported.value? filterVariable) := by
    intro bytes named
    rw [unset] at named
    contradiction
  rw [listener_of_undecided undecided, Filter.ofText?_of_read (Filter.read_label patterns level)]
  rfl

/-- Where the variable decides nothing, the given filter does: that an application was made is
recorded or not. -/
theorem given_filter_shows
    (undecided : Filter.Undecided patterns (exported.value? filterVariable)) (name : String)
    (configuration : Configuration) (sink : Sink State) (outlet : Outlet State) (count : Nat) :
    logUnder patterns exported name "info" configuration sink outlet count ≠
      logUnder patterns exported name "off" configuration sink outlet count := by
  have informed : Filter.ofText? patterns "info" = some (.upTo patterns (some .info)) :=
    Filter.ofText?_of_read (Filter.read_label patterns .info)
  have silent : Filter.ofText? patterns "off" = some (.upTo patterns none) :=
    Filter.ofText?_of_read (Filter.read_off patterns)
  have built (later : List Signal) :
      (Filter.upTo patterns (some .info)).leaves
          (.happened (Application.builtEvent configuration) :: later) =
        .happened (Application.builtEvent configuration) ::
          (Filter.upTo patterns (some .info)).leaves later := by
    rw [Filter.leaves, Filter.leavesFrom, Filter.upTo_admitsEvent]
    rfl
  simp only [logUnder, listener_of_undecided undecided, informed, silent, Option.map_some,
    Listener.records, Filter.upTo_none_leaves, signals_eq, built]
  exact fun same => List.cons_ne_nil _ _ (Option.some.inj same)

/-- The log does not depend on the given filter exactly if the variable is set to a text that is
not refused. -/
theorem same_under_all_iff :
    (∀ {State : Type} (name left right : String) (configuration : Configuration)
        (sink : Sink State) (outlet : Outlet State) (count : Nat),
        logUnder patterns exported name left configuration sink outlet count =
          logUnder patterns exported name right configuration sink outlet count) ↔
      ∃ bytes text, exported.value? filterVariable = some bytes ∧ bytes.toText? = some text ∧
        Filter.read patterns text ≠ .error .refused := by
  constructor
  · intro same
    apply Classical.byContradiction
    intro undecisive
    have undecided : Filter.Undecided patterns (exported.value? filterVariable) := by
      intro bytes named text spelled
      apply Classical.byContradiction
      intro accepted
      exact undecisive ⟨bytes, text, named, spelled, accepted⟩
    exact given_filter_shows undecided "" .default Sink.accepting (.start ()) 0
      (same "" "info" "off" .default Sink.accepting (.start ()) 0)
  · rintro ⟨bytes, text, set, spelled, accepted⟩
    intro State name left right configuration sink outlet count
    cases whole : Filter.read patterns text with
    | ok filter =>
        rw [logUnder, logUnder, listener_of_read set spelled whole,
          listener_of_read set spelled whole]
    | error failure =>
        cases failure with
        | refused => exact absurd whole accepted
        | brokenOff =>
            rw [logUnder, logUnder, listener_of_broken set spelled whole,
              listener_of_broken set spelled whole]

end

/-- If the variable is set to a filter, this filter alone selects what is recorded. If it is not
set, or to anything that is refused, the given filter does; if the reading of the variable breaks
off, nothing does. So the log is the same under all given filters exactly if the variable is set to
a text that is not refused. -/
theorem valid_variable_alone_decides (patterns : Patterns) (exported : Variables) :
    (∀ bytes text filter, exported.value? filterVariable = some bytes →
      bytes.toText? = some text → Filter.read patterns text = .ok filter →
      Filter.ofText? patterns text = some filter ∧
      ∀ {State : Type} (name given : String) (configuration : Configuration) (sink : Sink State)
        (outlet : Outlet State) (count : Nat),
        logUnder patterns exported name given configuration sink outlet count =
          some (Record.listFrom name []
            (filter.leaves (signals configuration sink outlet count)))) ∧
    (exported.value? filterVariable = none ∨
      (∃ bytes, exported.value? filterVariable = some bytes ∧
        ∀ text, bytes.toText? = some text → Filter.read patterns text = .error .refused) →
      ∀ {State : Type} (name given : String) (configuration : Configuration) (sink : Sink State)
        (outlet : Outlet State) (count : Nat),
        logUnder patterns exported name given configuration sink outlet count =
          (Filter.ofText? patterns given).map fun filter =>
            Record.listFrom name [] (filter.leaves (signals configuration sink outlet count))) ∧
    (∀ bytes text, exported.value? filterVariable = some bytes → bytes.toText? = some text →
      Filter.read patterns text = .error .brokenOff →
      ∀ name given, listener? patterns exported name given = none) ∧
    ((∀ {State : Type} (name left right : String) (configuration : Configuration)
        (sink : Sink State) (outlet : Outlet State) (count : Nat),
        logUnder patterns exported name left configuration sink outlet count =
          logUnder patterns exported name right configuration sink outlet count) ↔
      ∃ bytes text, exported.value? filterVariable = some bytes ∧ bytes.toText? = some text ∧
        Filter.read patterns text ≠ .error .refused) := by
  refine ⟨?read, ?undecided, ?broken, ?exactly⟩
  case read =>
    intro bytes text filter set spelled whole
    refine ⟨Filter.ofText?_of_read whole, ?_⟩
    intro State name given configuration sink outlet count
    rw [logUnder, listener_of_read set spelled whole]
    rfl
  case undecided =>
    intro without State name given configuration sink outlet count
    have undecided : Filter.Undecided patterns (exported.value? filterVariable) := by
      intro bytes named text spelled
      rcases without with unset | ⟨garbled, set, refused⟩
      · rw [unset] at named
        contradiction
      · rw [set, Option.mem_some_iff] at named
        exact refused text (named ▸ spelled)
    rw [logUnder, listener_of_undecided undecided, Option.map_map]
    rfl
  case broken =>
    intro bytes text set spelled broken name given
    exact listener_of_broken set spelled broken name given
  case exactly => exact same_under_all_iff

def mutedVariable : Variables := [(Bytes.ofText filterVariable, Bytes.ofText "off")]

/-- A filter that lets nothing pass, with a part behind it that is no directive. -/
def brokenVariable : Variables := [(Bytes.ofText filterVariable, Bytes.ofText "off,==")]

theorem broken_variable_set :
    brokenVariable.value? filterVariable = some (Bytes.ofText "off,==") := by decide

theorem broken_variable_refused (patterns : Patterns) :
    Filter.read patterns "off,==" = .error .refused := by
  have parts : Filter.parts "off,==" = ["off", "=="] := by decide
  have trimmed : Text.trim "==".toList = ['=', '='] := by decide
  have refused : Directive.read patterns "==" = .error .refused :=
    Directive.read_refused patterns trimmed (by decide) (by decide +kernel)
  rw [Filter.read, parts, List.mapM_cons, List.mapM_cons, Directive.read_off, refused]
  rfl

theorem broken_variable_undecided (patterns : Patterns) :
    Filter.Undecided patterns (brokenVariable.value? filterVariable) := by
  intro bytes named text spelled
  rw [broken_variable_set, Option.mem_some_iff] at named
  rw [← named, Bytes.toText?_ofText, Option.mem_some_iff] at spelled
  exact spelled ▸ broken_variable_refused patterns

theorem muted_variable_keeps_the_log_empty :
    mutedVariable.value? filterVariable = some (Bytes.ofText "off") ∧
      (Bytes.ofText "off").toText? = some "off" ∧
      Filter.read .words "off" = .ok (.upTo .words none) ∧
      logUnder .words mutedVariable "customer_notify" "info" .default Sink.accepting (.start ()) 1 =
        some [] ∧
      logUnder .words brokenVariable "customer_notify" "info" .default Sink.accepting
          (.start ()) 1 =
        (Filter.ofText? .words "info").map fun filter =>
          Record.listFrom "customer_notify" []
            (filter.leaves (signals .default Sink.accepting (.start ()) 1)) := by
  have set : mutedVariable.value? filterVariable = some (Bytes.ofText "off") := by decide
  have whole := Filter.read_off .words
  refine ⟨set, Bytes.toText?_ofText _, whole, ?muted, ?broken⟩
  case muted =>
    have decided := (valid_variable_alone_decides .words mutedVariable).1 _ _ _ set
      (Bytes.toText?_ofText _) whole
    rw [decided.2, Filter.upTo_none_leaves]
    rfl
  case broken =>
    have undecided := broken_variable_undecided .words _ broken_variable_set
    exact (valid_variable_alone_decides .words brokenVariable).2.1
      (.inr ⟨_, broken_variable_set, undecided⟩) _ _ _ _ _ _

/-- One part that is no directive, and the whole variable is passed over: although it is set, two
given filters leave different logs. -/
theorem broken_variable_is_passed_over :
    brokenVariable.value? filterVariable = some (Bytes.ofText "off,==") ∧
      logUnder .words brokenVariable "customer_notify" "info" .default Sink.accepting
          (.start ()) 1 ≠
        logUnder .words brokenVariable "customer_notify" "off" .default Sink.accepting
          (.start ()) 1 ∧
      ¬∀ (patterns : Patterns) (exported : Variables) (text : String),
        exported.value? filterVariable = some (Bytes.ofText text) →
        ∀ {State : Type} (name left right : String) (configuration : Configuration)
          (sink : Sink State) (outlet : Outlet State) (count : Nat),
          logUnder patterns exported name left configuration sink outlet count =
            logUnder patterns exported name right configuration sink outlet count := by
  have differ := given_filter_shows (broken_variable_undecided .words) "customer_notify" .default
    Sink.accepting (.start ()) 1
  exact ⟨broken_variable_set, differ,
    fun same => differ (same .words _ _ broken_variable_set _ _ _ _ _ _ _)⟩

end Program
end CustomerNotice
