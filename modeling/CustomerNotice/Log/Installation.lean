import CustomerNotice.ErrorChain
import CustomerNotice.Log.Record

/-!
The listeners of a process: one slot for the facade through which foreign code logs, and one for
the listener to signals. Each is filled at most once and never emptied.
-/

namespace CustomerNotice

structure Installation where
  facade : Bool
  listener? : Option Listener

inductive InstallError
  | facadeTaken
  | listenerTaken
  deriving DecidableEq, Repr

namespace InstallError

def text : InstallError → String
  | facadeTaken => "Failed to set logger"
  | listenerTaken => "Failed to set subscriber"

def cause : InstallError → String
  | facadeTaken =>
      "attempted to set a logger after the logging system was already initialized"
  | listenerTaken => "a global default trace dispatcher has already been set"

def chain (error : InstallError) : ErrorChain := ⟨error.text, [error.cause]⟩

end InstallError

namespace Installation

def empty : Installation := ⟨false, none⟩

def setFacade (installation : Installation) : Option Installation :=
  if installation.facade then none else some { installation with facade := true }

def setListener (installation : Installation) (listener : Listener) : Option Installation :=
  match installation.listener? with
  | some _ => none
  | none => some { installation with listener? := some listener }

/-- Fills the slot of the facade and then that of the listener. What the first step did stays
when the second fails. -/
def install (installation : Installation) (listener : Listener) :
    Except InstallError Unit × Installation :=
  match installation.setFacade with
  | none => (.error .facadeTaken, installation)
  | some installation =>
      match installation.setListener listener with
      | none => (.error .listenerTaken, installation)
      | some installation => (.ok (), installation)

def records (installation : Installation) (signals : List Signal) : List Record :=
  match installation.listener? with
  | some listener => listener.records signals
  | none => []

def facadeTarget : String := "log"

def facadeNames : List String :=
  ["message", "log.target", "log.module_path", "log.file", "log.line"]

/-- The records of a message that foreign code logs for a target of its own, outside all spans. Its
own target decides whether it is kept. -/
def facadeRecords (installation : Installation) (level : Level) (target message : String) :
    List Record :=
  match installation.facade, installation.listener? with
  | true, some listener =>
      if listener.filter.admitsEvent [] target level facadeNames then
        [{ name := listener.name, level, target := facadeTarget, message,
           fields := [("log.target", .text target)] }]
      else []
  | _, _ => []

end Installation
end CustomerNotice
