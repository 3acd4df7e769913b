import CustomerNotice.Program
import CustomerNotice.Proofs.Application.Repetition
import CustomerNotice.Proofs.Configuration.Variables
import CustomerNotice.Proofs.Log.Filtering

/-!
# How the program ends

On an output that takes everything the program fails in loading, or where the
reading of a filter breaks off. What is loaded decides what is printed, and a
configuration that cannot be loaded leaves the output as it was. As long as there
is a filter, the log has no part in either.
-/

namespace CustomerNotice
namespace Program

variable {State : Type} {sink : Sink State} {fails : IoError → Prop}
  {room : Option Nat → State → Prop}

/-- What the program shows of an error in loading. -/
def spelledReport (error : LoadError) : String :=
  "Error: Failed to load configuration\n\nCaused by:\n    "
    ++ ErrorChain.hanging (List.replicate 4 ' ') error.message ++ "\n"

theorem outline_of_loading (error : LoadError) :
    (loadingChain error).outline =
      "Failed to load configuration" ++ "\n\nCaused by:" ++
        ("\n" ++ ("    " ++ ErrorChain.hanging (List.replicate 4 ' ') error.message)) := by
  simp [loadingChain, ErrorChain.outline, ErrorChain.outlineCauses]

theorem report_spelled (error : LoadError) :
    reportOf (loadingChain error) = spelledReport error := by
  have heading : "Error: " ++ "Failed to load configuration" ++ "\n\nCaused by:" ++ "\n" ++ "    " =
      "Error: Failed to load configuration\n\nCaused by:\n    " := by decide
  rw [reportOf, outline_of_loading]
  delta spelledReport
  simp only [← String.append_assoc, heading]

/-- With a configuration, a listener and an output that takes everything, the
program prints the notice and ends well. -/
theorem run_of_loaded {patterns : Patterns} {files : Files} {exported : Variables}
    {configuration : Configuration} {listener : Listener}
    (loaded : Loading.fromSurroundings files exported = .ok configuration)
    (listens : listenerOf? patterns exported configuration = some listener)
    (bounded : sink.Bounded fails room) {outlet : Outlet State} (has : room none outlet.state) :
    (run patterns files exported sink outlet).status = 0 ∧
      (run patterns files exported sink outlet).report = none ∧
      (run patterns files exported sink outlet).outlet.output =
        outlet.output ++ Notice.textBytes configuration.customer.toCustomer.toContact
          configuration.output.revealApiKey := by
  obtain ⟨succeeded, written, _⟩ :=
    (Application.ofConfiguration configuration).run_with_room bounded has (by simp)
  have installed : Installation.empty.install listener = (.ok (), ⟨true, some listener⟩) := rfl
  have outcome : (course sink outlet configuration).outcome = .ok () := succeeded
  rw [run, loaded]
  dsimp only
  rw [listens]
  dsimp only
  rw [installed]
  dsimp only
  rw [outcome]
  exact ⟨rfl, rfl, written⟩

/-- Where the reading of a filter breaks off, the program does too. -/
theorem run_of_unlistened {patterns : Patterns} {files : Files} {exported : Variables}
    {configuration : Configuration}
    (loaded : Loading.fromSurroundings files exported = .ok configuration)
    (unlistened : listenerOf? patterns exported configuration = none)
    (sink : Sink State) (outlet : Outlet State) :
    run patterns files exported sink outlet = ⟨101, [], none, outlet⟩ := by
  rw [run, loaded]
  dsimp only
  rw [unlistened]

/-- There is no listener only where one of the two texts of a filter has a part
that begins with a blank. -/
theorem unsolid_of_unlistened {patterns : Patterns} {exported : Variables}
    {configuration : Configuration}
    (unlistened : listenerOf? patterns exported configuration = none) :
    ¬Filter.Solid configuration.application.logLevel ∨
      ∃ bytes text, exported.value? filterVariable = some bytes ∧ bytes.toText? = some text ∧
        ¬Filter.Solid text := by
  rw [listenerOf?, listener?, Option.map_eq_none_iff] at unlistened
  exact Filter.unsolid_of_choose unlistened

/-- An error in loading is shown with its cause, and nothing else happens. -/
theorem run_of_rejected {files : Files} {exported : Variables} {error : LoadError}
    (rejected : Loading.fromSurroundings files exported = .error (.rejected error))
    (patterns : Patterns) (sink : Sink State) (outlet : Outlet State) :
    run patterns files exported sink outlet = ⟨1, [], some (spelledReport error), outlet⟩ := by
  rw [run, rejected, ← report_spelled]

theorem run_of_crashed {files : Files} {exported : Variables} {crash : Crash}
    (crashed : Loading.fromSurroundings files exported = .error (.crashed crash))
    (patterns : Patterns) (sink : Sink State) (outlet : Outlet State) :
    run patterns files exported sink outlet = ⟨101, [], none, outlet⟩ := by
  rw [run, crashed]

theorem ends_well_iff {patterns : Patterns} {files : Files} {exported : Variables}
    (bounded : sink.Bounded fails room) {outlet : Outlet State} (has : room none outlet.state) :
    (run patterns files exported sink outlet).status = 0 ↔
      ∃ configuration, Loading.fromSurroundings files exported = .ok configuration ∧
        listenerOf? patterns exported configuration ≠ none := by
  constructor
  · intro well
    cases loaded : Loading.fromSurroundings files exported with
    | ok configuration =>
        refine ⟨configuration, rfl, ?_⟩
        intro unlistened
        rw [run_of_unlistened loaded unlistened] at well
        contradiction
    | error failure =>
        cases failure with
        | rejected error =>
            rw [run_of_rejected loaded] at well
            contradiction
        | crashed crash =>
            rw [run_of_crashed loaded] at well
            contradiction
  · rintro ⟨configuration, loaded, listened⟩
    obtain ⟨listener, listens⟩ := Option.ne_none_iff_exists'.mp listened
    exact (run_of_loaded loaded listens bounded has).1

theorem filter_variable_is_no_setting :
    Layer.variableKey? filterVariable = none ∧ Environment.variableName ≠ filterVariable := by
  decide +kernel

/-- The program ends well exactly if there is a configuration and a listener, and
then prints the notice of the configuration and nothing else. Without a listener it
breaks off and prints nothing, which takes a part of a filter that begins with a
blank. Without a configuration it prints nothing, and shows the error with its cause
if loading gave one. Two courses of it that have a listener print the same whatever
their names, their log levels and their log filters are. -/
theorem loading_decides_what_is_printed (patterns : Patterns) (files : Files)
    (exported : Variables) (bounded : sink.Bounded fails room) (outlet : Outlet State)
    (has : room none outlet.state) :
    ((run patterns files exported sink outlet).status = 0 ↔
        ∃ configuration, Loading.fromSurroundings files exported = .ok configuration ∧
          listenerOf? patterns exported configuration ≠ none) ∧
      (∀ configuration, Loading.fromSurroundings files exported = .ok configuration →
        listenerOf? patterns exported configuration ≠ none →
        (run patterns files exported sink outlet).outlet.output =
            outlet.output ++ Bytes.ofText (Notice.spelledText
              configuration.customer.toCustomer.toContact configuration.output.revealApiKey) ∧
          (run patterns files exported sink outlet).report = none) ∧
      (∀ configuration, Loading.fromSurroundings files exported = .ok configuration →
        listenerOf? patterns exported configuration = none →
        run patterns files exported sink outlet = ⟨101, [], none, outlet⟩ ∧
          (¬Filter.Solid configuration.application.logLevel ∨
            ∃ bytes text, exported.value? filterVariable = some bytes ∧
              bytes.toText? = some text ∧ ¬Filter.Solid text)) ∧
      (∀ error, Loading.fromSurroundings files exported = .error (.rejected error) →
        (run patterns files exported sink outlet).outlet.output = outlet.output ∧
          (run patterns files exported sink outlet).status ≠ 0 ∧
          (run patterns files exported sink outlet).records = [] ∧
          (run patterns files exported sink outlet).report = some (spelledReport error)) ∧
      (∀ crash, Loading.fromSurroundings files exported = .error (.crashed crash) →
        (run patterns files exported sink outlet).outlet.output = outlet.output ∧
          (run patterns files exported sink outlet).status ≠ 0) ∧
      (∀ (otherFiles : Files) (otherExported : Variables) (one other : Configuration),
        Loading.fromSurroundings files exported = .ok one →
        Loading.fromSurroundings otherFiles otherExported = .ok other →
        listenerOf? patterns exported one ≠ none →
        listenerOf? patterns otherExported other ≠ none →
        ((one.customer = other.customer ∧ one.output = other.output) ∨
          (files = otherFiles ∧ exported.AgreeExcept filterVariable otherExported)) →
        (run patterns files exported sink outlet).outlet.output =
            (run patterns otherFiles otherExported sink outlet).outlet.output ∧
          (run patterns files exported sink outlet).status =
            (run patterns otherFiles otherExported sink outlet).status) := by
  refine ⟨?status, ?printed, ?unlistened, ?rejected, ?crashed, ?unlogged⟩
  case status => exact ends_well_iff bounded has
  case printed =>
    intro configuration loaded listened
    obtain ⟨listener, listens⟩ := Option.ne_none_iff_exists'.mp listened
    obtain ⟨_, silent, printed⟩ := run_of_loaded loaded listens bounded has
    rw [Notice.textBytes] at printed
    exact ⟨printed, silent⟩
  case unlistened =>
    intro configuration loaded unlistened
    exact ⟨run_of_unlistened loaded unlistened sink outlet, unsolid_of_unlistened unlistened⟩
  case rejected =>
    intro error rejected
    rw [run_of_rejected rejected]
    exact ⟨rfl, Nat.one_ne_zero, rfl, rfl⟩
  case crashed =>
    intro crash crashed
    rw [run_of_crashed crashed]
    exact ⟨rfl, Nat.succ_ne_zero 100⟩
  case unlogged =>
    intro otherFiles otherExported one other loaded also listened otherListened related
    obtain ⟨listener, listens⟩ := Option.ne_none_iff_exists'.mp listened
    obtain ⟨otherListener, otherListens⟩ := Option.ne_none_iff_exists'.mp otherListened
    obtain ⟨well, _, printed⟩ := run_of_loaded loaded listens bounded has
    obtain ⟨otherWell, _, otherPrinted⟩ := run_of_loaded also otherListens bounded has
    have same : one.customer = other.customer ∧ one.output = other.output := by
      rcases related with same | ⟨rfl, agree⟩
      · exact same
      · obtain ⟨silent, unasked⟩ := filter_variable_is_no_setting
        obtain rfl := Loading.fromSurroundings_agree silent unasked agree loaded also
        exact ⟨rfl, rfl⟩
    rw [well, otherWell, printed, otherPrinted, same.1, same.2]
    exact ⟨rfl, rfl⟩

/-- What is printed where nothing else is said. -/
def defaultNotice : String :=
  "Processing John Doe with email customer@example.com\n"
    ++ "API Key: sk_live_abc123xyz789\n"
    ++ "Sending to customer@example.com for John Doe\n"

/-- The variables of a process that are nothing but a filter. -/
def filteredBy (filter : String) : Variables :=
  Variables.set [] (Bytes.ofText filterVariable) (Bytes.ofText filter)

theorem filter_of_filteredBy (filter : String) :
    (filteredBy filter).value? filterVariable = some (Bytes.ofText filter) := by
  simp [filteredBy, Variables.set, Variables.value?]

/-- A filter does not keep anything from being loaded. -/
theorem default_loaded (filter : String) :
    Loading.fromSurroundings Files.empty (filteredBy filter) = .ok .default := by
  have unnamed : (filteredBy filter).value? Environment.variableName = none := by
    have different : Bytes.ofText filterVariable ≠ Bytes.ofText Environment.variableName := by
      decide +kernel
    simp [filteredBy, Variables.set, Variables.value?, different]
  have silent : Layer.ofVariable? (filterVariable, filter) = none := by
    rw [Layer.ofVariable?, filter_variable_is_no_setting.1]
    rfl
  have settings : Layer.ofVariables (filteredBy filter) = Layer.ofVariables [] := by
    simp only [filteredBy, Variables.set, Layer.ofVariables, Layer.decodeVariables,
      Bytes.toText?_ofText]
    dsimp only [bind, Except.bind, pure, Except.pure]
    rw [List.filterMap_cons_none silent]
  have plain : Loading.fromSurroundings Files.empty [] = .ok .default := by rfl
  rw [Loading.fromSurroundings, Environment.detect, unnamed]
  simp only [Loading.fromDirectory_congr _ _ settings]
  exact plain

def unknownStage : Variables :=
  [(Bytes.ofText Environment.variableName, Bytes.ofText "staging")]

def blankFilter : String := "\u00a0x=info"

theorem blank_filter_breaks_off (patterns : Patterns) :
    Filter.read patterns blankFilter = .error .brokenOff := by
  have parts : Filter.parts blankFilter = [blankFilter] := by decide
  have directive : Directive.read patterns blankFilter = .error .brokenOff := by rfl
  rw [Filter.read, parts, List.mapM_cons, directive]
  rfl

theorem blank_filter_unsolid : ¬Filter.Solid blankFilter := by
  intro solid
  have part : blankFilter ∈ Filter.parts blankFilter := by decide
  have blank : Text.isBlank '\u00a0' = true := by decide
  have visible := solid blankFilter part '\u00a0' (by decide)
  rw [blank] at visible
  contradiction

theorem blank_filter_leaves_no_listener (patterns : Patterns) (configuration : Configuration) :
    listenerOf? patterns (filteredBy blankFilter) configuration = none :=
  listener_of_broken (filter_of_filteredBy _) (Bytes.toText?_ofText _)
    (blank_filter_breaks_off patterns) _ _

theorem unlimited_sound : BoundedSink.unlimited.Sound (.plain .brokenPipe) :=
  ⟨by decide, rfl, by simp [BoundedSink.unlimited], rfl⟩

theorem default_notice_is_printed_whatever_is_logged :
    (run .words Files.empty [] BoundedSink.sink (.start .unlimited)).status = 0 ∧
      (run .words Files.empty [] BoundedSink.sink (.start .unlimited)).outlet.output =
        Bytes.ofText defaultNotice ∧
      (run .words Files.empty (filteredBy "off") BoundedSink.sink
          (.start .unlimited)).outlet.output =
        (run .words Files.empty [] BoundedSink.sink (.start .unlimited)).outlet.output ∧
      ((run .words Files.empty (filteredBy blankFilter) BoundedSink.sink (.start .unlimited)) =
          ⟨101, [], none, .start .unlimited⟩ ∧
        ¬Filter.Solid blankFilter) ∧
      (run .words Files.empty unknownStage BoundedSink.sink (.start .unlimited)).report =
        some (spelledReport (.environmentUnknown ⟨"staging"⟩)) := by
  have plain : Loading.fromSurroundings Files.empty [] = .ok .default := by rfl
  have listened : listenerOf? .words [] .default ≠ none := by
    rw [listenerOf?, show Configuration.default.application.logLevel = Level.info.label from rfl,
      listener_of_level .words rfl]
    exact Option.some_ne_none _
  have muted : listenerOf? .words (filteredBy "off") .default ≠ none := by
    rw [listenerOf?, listener_of_read (filter_of_filteredBy _) (Bytes.toText?_ofText _)
      (Filter.read_off .words)]
    exact Option.some_ne_none _
  have unknown : Loading.fromSurroundings Files.empty unknownStage =
      .error (.rejected (.environmentUnknown ⟨"staging"⟩)) := by
    have named : unknownStage.value? Environment.variableName =
        some (Bytes.ofText "staging") := by decide
    rw [Loading.fromSurroundings, Environment.detect, named, Option.bind_some,
      Bytes.toText?_ofText]
    rfl
  have printed : Notice.spelledText Configuration.default.customer.toCustomer.toContact
      Configuration.default.output.revealApiKey = defaultNotice := by
    delta Notice.spelledText Notice.spelledDetails Notice.spelledEmail defaultNotice
    simp [Configuration.default, CustomerSettings.toCustomer, Customer.new]
  have ending := fun exported => loading_decides_what_is_printed .words Files.empty exported
    (BoundedSink.sink_bounded (.plain .brokenPipe)) (.start .unlimited) ⟨unlimited_sound, rfl⟩
  have agree : Variables.AgreeExcept filterVariable (filteredBy "off") [] :=
    (Variables.agree_except_set [] filterVariable (Bytes.ofText "off")).symm
  refine ⟨?status, ?output, ?muted, ?broken, ?unknown⟩
  case status => exact (ending []).1.mpr ⟨_, plain, listened⟩
  case output =>
    rw [((ending []).2.1 _ plain listened).1, printed]
    exact List.nil_append _
  case muted =>
    exact ((ending (filteredBy "off")).2.2.2.2.2 Files.empty [] _ _ (default_loaded _) plain muted
      listened (.inr ⟨rfl, agree⟩)).1
  case broken =>
    have broken := (ending (filteredBy blankFilter)).2.2.1 _ (default_loaded _)
      (blank_filter_leaves_no_listener .words .default)
    exact ⟨broken.1, blank_filter_unsolid⟩
  case unknown => exact ((ending unknownStage).2.2.2.1 _ unknown).2.2.2

/-- A blank before the filter, and the program breaks off with nothing printed,
although there is a configuration. -/
theorem blank_before_a_filter_ends_the_program :
    Loading.fromSurroundings Files.empty (filteredBy blankFilter) = .ok .default ∧
      (run .words Files.empty (filteredBy blankFilter) BoundedSink.sink
          (.start .unlimited)).status = 101 ∧
      (run .words Files.empty (filteredBy blankFilter) BoundedSink.sink
          (.start .unlimited)).outlet.output = [] ∧
      ¬∀ (patterns : Patterns) (files : Files) (exported : Variables),
        (run patterns files exported BoundedSink.sink (.start .unlimited)).status = 0 ↔
          ∃ configuration, Loading.fromSurroundings files exported = .ok configuration := by
  have loaded := default_loaded blankFilter
  have ended := run_of_unlistened loaded (blank_filter_leaves_no_listener .words .default)
    BoundedSink.sink (.start .unlimited)
  refine ⟨loaded, by rw [ended], by rw [ended]; rfl, ?_⟩
  intro claimed
  have well := (claimed .words Files.empty (filteredBy blankFilter)).mpr ⟨_, loaded⟩
  rw [ended] at well
  contradiction

end Program
end CustomerNotice
