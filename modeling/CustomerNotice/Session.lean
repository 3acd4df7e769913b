import CustomerNotice.Application
import CustomerNotice.Configuration.Loading
import CustomerNotice.Sink.Bounded

/-!
Sessions: the parts of the program used step by step, on files, variables and one sink that
change between the steps.
-/

namespace CustomerNotice

inductive RequestError
  | unknownEnvironment (error : UnknownEnvironment)
  | loading (failure : LoadFailure)
  deriving DecidableEq, Repr

structure LoadRequest where
  directory : String
  environment? : Option String
  deriving DecidableEq, Repr

namespace LoadRequest

def load (request : LoadRequest) (files : Files) (exported : Variables) :
    Except RequestError Configuration :=
  match request.environment? with
  | none => (Loading.fromSurroundings files exported).mapError .loading
  | some name =>
      match Environment.ofName name with
      | .error error => .error (.unknownEnvironment error)
      | .ok environment =>
          (Loading.fromDirectory (files.directory request.directory) environment
            exported).mapError .loading

end LoadRequest

structure Session where
  files : Files
  exported : Variables
  outlet : Outlet BoundedSink
  configuration? : Option Configuration
  application? : Option Application

inductive SessionStep
  | writeFile (location : Location) (entry : DirectoryEntry)
  | removeFile (location : Location)
  | setVariable (name value : Bytes)
  | unsetVariable (name : Bytes)
  | detect
  | load (request : LoadRequest)
  | reveal (value : Bool)
  | build
  | run
  | process (contact : Contact) (reveal : Bool)
  | sendEmail (email : CustomerEmail) (name : CustomerName)
  | adjust (settings : BoundedSink)
  | take

inductive SessionAnswer
  | done
  | noConfiguration
  | noApplication
  | environment (environment : Environment)
  | unknownEnvironment (error : UnknownEnvironment)
  | configuration (configuration : Configuration)
  | loadFailure (failure : LoadFailure)
  | customer (customer : Customer)
  | noticeError (error : NoticeError)
  | sendError (error : SendError)
  | output (bytes : Bytes)

namespace SessionAnswer

def ofNotice : Except NoticeError Unit → SessionAnswer
  | .ok () => done
  | .error error => noticeError error

def ofSending : Except SendError Unit → SessionAnswer
  | .ok () => done
  | .error error => sendError error

end SessionAnswer

namespace Session

def start (files : Files) (exported : Variables) (sink : BoundedSink) : Session where
  files := files
  exported := exported
  outlet := .start sink
  configuration? := none
  application? := none

def adjusted (outlet : Outlet BoundedSink) (settings : BoundedSink) : Outlet BoundedSink :=
  { outlet with state := { settings with held := outlet.output.length } }

/-- A sink that holds nothing any more. -/
def emptied (outlet : Outlet BoundedSink) : Outlet BoundedSink :=
  { outlet with output := [], state := { outlet.state with held := 0 } }

def step (session : Session) : SessionStep → SessionAnswer × Session
  | .writeFile location entry =>
      (.done, { session with files := session.files.put location entry })
  | .removeFile location => (.done, { session with files := session.files.remove location })
  | .setVariable name value =>
      (.done, { session with exported := session.exported.set name value })
  | .unsetVariable name => (.done, { session with exported := session.exported.unset name })
  | .detect =>
      match Environment.detect session.exported with
      | .ok environment => (.environment environment, session)
      | .error error => (.unknownEnvironment error, session)
  | .load request =>
      match request.load session.files session.exported with
      | .ok configuration =>
          (.configuration configuration, { session with configuration? := some configuration })
      | .error (.unknownEnvironment error) =>
          (.unknownEnvironment error, { session with configuration? := none })
      | .error (.loading failure) =>
          (.loadFailure failure, { session with configuration? := none })
  | .reveal value =>
      match session.configuration? with
      | none => (.noConfiguration, session)
      | some configuration =>
          let configuration := { configuration with output := ⟨value⟩ }
          (.configuration configuration, { session with configuration? := some configuration })
  | .build =>
      match session.configuration? with
      | none => (.noConfiguration, session)
      | some configuration =>
          let (application, _) := Application.build configuration
          (.customer application.customer, { session with application? := some application })
  | .run =>
      match session.application? with
      | none => (.noApplication, session)
      | some application =>
          let activity := application.run BoundedSink.sink session.outlet
          (.ofNotice activity.outcome, { session with outlet := activity.outlet })
  | .process contact reveal =>
      let activity := Notice.deliver BoundedSink.sink session.outlet contact reveal
      (.ofNotice activity.outcome, { session with outlet := activity.outlet })
  | .sendEmail email name =>
      let activity := Notice.sendEmail BoundedSink.sink session.outlet email name
      (.ofSending activity.outcome, { session with outlet := activity.outlet })
  | .adjust settings => (.done, { session with outlet := adjusted session.outlet settings })
  | .take => (.output session.outlet.output, { session with outlet := emptied session.outlet })

def steps (session : Session) : List SessionStep → List SessionAnswer × Session
  | [] => ([], session)
  | step :: rest =>
      let (answer, session) := session.step step
      let (answers, session) := session.steps rest
      (answer :: answers, session)

end Session
end CustomerNotice
