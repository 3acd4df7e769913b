import CustomerNotice.Configuration
import CustomerNotice.Notice

/-!
The application: a customer and whether the key is shown, made from a configuration. A run
delivers the notice and then flushes the sink.
-/

namespace CustomerNotice

structure Application where
  customer : Customer
  reveal : Bool
  deriving DecidableEq

namespace Application

variable {State : Type}

def target : String := "customer_notify::startup"

def builtEvent (configuration : Configuration) : Event where
  target := target
  level := .info
  message := "Built " ++ configuration.application.name
  fields := [("reveal_api_key", .flag configuration.output.revealApiKey)]

def processedEvent : Event where
  target := target
  level := .info
  message := "Customer processed"
  fields := []

def ofConfiguration (configuration : Configuration) : Application where
  customer := configuration.customer.toCustomer
  reveal := configuration.output.revealApiKey

def build (configuration : Configuration) : Application × List Signal :=
  (ofConfiguration configuration, [.happened (builtEvent configuration)])

def text (application : Application) : String :=
  Notice.text application.customer.toContact application.reveal

def run (application : Application) (sink : Sink State) (outlet : Outlet State) :
    Activity State NoticeError :=
  let delivered := Notice.deliver sink outlet application.customer.toContact application.reveal
  match delivered.outcome with
  | .error _ => delivered
  | .ok () =>
      match sink.flushOutlet delivered.outlet with
      | (some error, outlet) => ⟨.error (.output error), outlet, delivered.signals⟩
      | (none, outlet) => ⟨.ok (), outlet, delivered.signals ++ [.happened processedEvent]⟩

end Application

/-- What several runs on one outlet come to. -/
structure Course (State : Type) where
  outcomes : List (Except NoticeError Unit)
  outlet : Outlet State
  signals : List Signal

namespace Course

variable {State : Type}

def times (activity : Outlet State → Activity State NoticeError) (outlet : Outlet State) :
    Nat → Course State
  | 0 => ⟨[], outlet, []⟩
  | count + 1 =>
      let first := activity outlet
      let rest := times activity first.outlet count
      ⟨first.outcome :: rest.outcomes, rest.outlet, first.signals ++ rest.signals⟩

end Course

namespace Application

variable {State : Type}

def runs (application : Application) (sink : Sink State) (outlet : Outlet State) (count : Nat) :
    Course State :=
  Course.times (application.run sink) outlet count

end Application
end CustomerNotice
