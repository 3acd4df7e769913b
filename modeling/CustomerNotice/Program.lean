import CustomerNotice.Application
import CustomerNotice.Configuration.Loading
import CustomerNotice.Log.Installation

/-!
The whole program: it loads the configuration, installs a listener with the name and the filter
of the configuration, makes the application and runs it once.
-/

namespace CustomerNotice

/-- How the program ends: its exit status, its log records, the error that it shows, and the outlet
that it wrote to. -/
structure Exit (State : Type) where
  status : Nat
  records : List Record
  report : Option String
  outlet : Outlet State

namespace Program

variable {State : Type}

def filterVariable : String := "RUST_LOG"

/-- The listener under a name with the filter in force. There is none where the reading of a filter
breaks off. -/
def listener? (patterns : Patterns) (exported : Variables) (name given : String) :
    Option Listener :=
  (Filter.choose patterns (exported.value? filterVariable) given).map (⟨name, ·⟩)

def listenerOf? (patterns : Patterns) (exported : Variables) (configuration : Configuration) :
    Option Listener :=
  listener? patterns exported configuration.application.name configuration.application.logLevel

def reportOf (chain : ErrorChain) : String := "Error: " ++ chain.outline ++ "\n"

def loadingChain (error : LoadError) : ErrorChain :=
  ⟨"Failed to load configuration", [error.message]⟩

def processingChain (error : NoticeError) : ErrorChain :=
  ⟨"Failed to process customer", error.chain.text :: error.chain.causes⟩

/-- Makes the application of a configuration and runs it once. -/
def course (sink : Sink State) (outlet : Outlet State) (configuration : Configuration) :
    Activity State NoticeError :=
  let (application, built) := Application.build configuration
  let activity := application.run sink outlet
  { activity with signals := built ++ activity.signals }

def run (patterns : Patterns) (files : Files) (exported : Variables) (sink : Sink State)
    (outlet : Outlet State) : Exit State :=
  match Loading.fromSurroundings files exported with
  | .error (.crashed _) => ⟨101, [], none, outlet⟩
  | .error (.rejected error) => ⟨1, [], some (reportOf (loadingChain error)), outlet⟩
  | .ok configuration =>
      match listenerOf? patterns exported configuration with
      | none => ⟨101, [], none, outlet⟩
      | some listener =>
          match Installation.empty.install listener with
          | (.error error, _) => ⟨1, [], some (reportOf error.chain), outlet⟩
          | (.ok (), installation) =>
              let activity := course sink outlet configuration
              let records := installation.records activity.signals
              match activity.outcome with
              | .ok () => ⟨0, records, none, activity.outlet⟩
              | .error error =>
                  ⟨1, records, some (reportOf (processingChain error)), activity.outlet⟩

end Program
end CustomerNotice
