import CustomerNotice.Customer
import CustomerNotice.ErrorChain
import CustomerNotice.Log.Signal
import CustomerNotice.Sink

/-!
A notice: three lines about a contact, written to a sink. The last line stands for the email
that is sent to the contact.
-/

namespace CustomerNotice

structure SendError where
  recipient : String
  source : IoError
  deriving DecidableEq, Repr

namespace SendError

def chain (error : SendError) : ErrorChain where
  text := "Failed to send notification email to " ++ error.recipient
  causes := error.source.text :: error.source.causes

end SendError

inductive NoticeError
  | output (source : IoError)
  | email (source : SendError)
  deriving DecidableEq, Repr

namespace NoticeError

def chain : NoticeError → ErrorChain
  | output source =>
      { text := "Failed to write customer details", causes := source.text :: source.causes }
  | email source => source.chain

end NoticeError

/-- What an activity comes to: its outcome, the outlet after it, and the signals it gave. -/
structure Activity (State Error : Type) where
  outcome : Except Error Unit
  outlet : Outlet State
  signals : List Signal

namespace Notice

variable {State : Type}

def redactedKey : String := "[REDACTED]"

def shownKey (apiKey : ApiKey) (reveal : Bool) : String :=
  if reveal then apiKey.secret else redactedKey

def contactLine (contact : Contact) : List String :=
  ["Processing ", contact.name.text, " with email ", contact.email.text, "\n"]

def keyLine (contact : Contact) (reveal : Bool) : List String :=
  ["API Key: ", shownKey contact.apiKey reveal, "\n"]

def emailLine (email : CustomerEmail) (name : CustomerName) : List String :=
  ["Sending to ", email.text, " for ", name.text, "\n"]

def details (contact : Contact) (reveal : Bool) : String :=
  String.join (contactLine contact) ++ String.join (keyLine contact reveal)

def text (contact : Contact) (reveal : Bool) : String :=
  details contact reveal ++ String.join (emailLine contact.email contact.name)

def emailTarget : String := "customer_notify::mail::send_email"

def noticeTarget : String := "customer_notify::process"

def emailSpan (email : CustomerEmail) (name : CustomerName) : Span where
  name := "Send notification email"
  target := emailTarget
  level := .info
  fields := [("recipient", .text email.debug), ("name", .text name.debug)]

def emailFailure (error : IoError) : Event where
  target := emailTarget
  level := .error
  message := "Failed to write notification: " ++ error.debug
  fields := []

def noticeSpan (contact : Contact) : Span where
  name := "Processing customer"
  target := noticeTarget
  level := .info
  fields :=
    [("run_id", .freshId), ("customer_email", .text contact.email.text),
      ("customer_name", .text contact.name.text)]

def sendEmail (sink : Sink State) (outlet : Outlet State) (email : CustomerEmail)
    (name : CustomerName) : Activity State SendError :=
  match sink.print outlet (emailLine email name) with
  | (none, outlet) => ⟨.ok (), outlet, [.opened (emailSpan email name), .closed]⟩
  | (some error, outlet) =>
      ⟨.error ⟨email.text, error⟩, outlet,
        [.opened (emailSpan email name), .happened (emailFailure error), .closed]⟩

def deliver (sink : Sink State) (outlet : Outlet State) (contact : Contact) (reveal : Bool) :
    Activity State NoticeError :=
  let opened := Signal.opened (noticeSpan contact)
  match sink.print outlet (contactLine contact) with
  | (some error, outlet) => ⟨.error (.output error), outlet, [opened, .closed]⟩
  | (none, outlet) =>
      match sink.print outlet (keyLine contact reveal) with
      | (some error, outlet) => ⟨.error (.output error), outlet, [opened, .closed]⟩
      | (none, outlet) =>
          let sent := sendEmail sink outlet contact.email contact.name
          ⟨sent.outcome.mapError .email, sent.outlet, opened :: sent.signals ++ [.closed]⟩

end Notice
end CustomerNotice
