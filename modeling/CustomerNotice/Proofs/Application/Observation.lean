import CustomerNotice.Configuration.Loading
import CustomerNotice.Log.Installation
import CustomerNotice.Proofs.Notice.Delivery

/-!
# What an onlooker sees of an application

An application is made from a configuration and run a number of times on one
outlet, under some logging set-up. Everything that can be seen of that is one
value, so that a secret is kept exactly when two configurations give the same
value. The signals are a part of it, and so a secret that is kept is kept from
whatever listens to them. Nothing of a contact is seen but its email, its name and the key as it
is shown; nothing of a customer beyond its contact.
-/

namespace CustomerNotice

variable {State : Type}

structure Observation where
  output : Bytes
  flushes : Nat
  outcomes : List (Except NoticeError Unit)
  reports : List (Option (ErrorChain × String))
  signals : List Signal
  records : List Record

namespace Observation

def reportOf : Except NoticeError Unit → Option (ErrorChain × String)
  | .ok () => none
  | .error error => some (error.chain, error.chain.render)

end Observation

namespace Configuration

/-- The configuration with another key and nothing else changed. -/
def withKey (configuration : Configuration) (key : String) : Configuration :=
  { configuration with customer := { configuration.customer with apiKey := key } }

/-- The configuration with another customer id and nothing else changed. -/
def withId (configuration : Configuration) (id : String) : Configuration :=
  { configuration with customer := { configuration.customer with id := id } }

/-- Makes the application of the configuration, runs it and looks on. The
set-up of the log may depend on what the configuration says about it. -/
def observe (configuration : Configuration) (sink : Sink State) (outlet : Outlet State)
    (setUp : ApplicationSettings → Installation) (count : Nat) : Observation :=
  let (application, built) := Application.build configuration
  let course := application.runs sink outlet count
  let signals := built ++ course.signals
  { output := course.outlet.output
    flushes := course.outlet.flushes
    outcomes := course.outcomes
    reports := course.outcomes.map Observation.reportOf
    signals
    records := (setUp configuration.application).records signals }

end Configuration

namespace Notice

/-- A delivery sees the key only as it is shown. -/
theorem deliver_depends_on_shown_key (sink : Sink State) (outlet : Outlet State)
    {left right : Contact} {reveal : Bool}
    (email : left.email = right.email) (name : left.name = right.name)
    (shown : shownKey left.apiKey reveal = shownKey right.apiKey reveal) :
    deliver sink outlet left reveal = deliver sink outlet right reveal := by
  simp only [deliver, contactLine, keyLine, noticeSpan, email, name, shown]

end Notice

namespace Application

theorem run_depends_on_shown_key (sink : Sink State) (outlet : Outlet State)
    {left right : Application} (reveal : left.reveal = right.reveal)
    (email : left.customer.email = right.customer.email)
    (name : left.customer.name = right.customer.name)
    (shown : Notice.shownKey left.customer.apiKey left.reveal =
      Notice.shownKey right.customer.apiKey right.reveal) :
    left.run sink outlet = right.run sink outlet := by
  have delivered : Notice.deliver sink outlet left.customer.toContact left.reveal =
      Notice.deliver sink outlet right.customer.toContact right.reveal := by
    rw [← reveal] at shown ⊢
    exact Notice.deliver_depends_on_shown_key sink outlet email name shown
  simp only [run, delivered]

/-- The runs go on from one outlet to the next, so that what one run cannot
tell apart several cannot either. -/
theorem runs_depend_on_run (sink : Sink State) (outlet : Outlet State)
    {left right : Application}
    (same : ∀ outlet : Outlet State, left.run sink outlet = right.run sink outlet)
    (count : Nat) : left.runs sink outlet count = right.runs sink outlet count := by
  have activities : left.run sink = right.run sink := funext same
  simp only [runs, activities]

end Application

namespace Notice

def beforeKey (email : CustomerEmail) (name : CustomerName) : Bytes :=
  Bytes.ofText ("Processing " ++ name.text ++ " with email " ++ email.text ++ "\nAPI Key: ")

def afterKey (email : CustomerEmail) (name : CustomerName) : Bytes :=
  Bytes.ofText "\n" ++ emailBytes email name

theorem text_bytes_of_revealed_key (contact : Contact) :
    textBytes contact true =
      beforeKey contact.email contact.name ++ Bytes.ofText contact.apiKey.secret ++
        afterKey contact.email contact.name := by
  rw [text_bytes_eq, detailsBytes, beforeKey, afterKey]
  delta spelledDetails
  simp only [if_true, Bytes.ofText_append, List.append_assoc]

end Notice

namespace Configuration

theorem observe_depends_on_run (sink : Sink State) (outlet : Outlet State)
    (setUp : ApplicationSettings → Installation) {left right : Configuration}
    (application : left.application = right.application) (output : left.output = right.output)
    (same : ∀ outlet : Outlet State,
      (Application.ofConfiguration left).run sink outlet =
        (Application.ofConfiguration right).run sink outlet)
    (count : Nat) :
    left.observe sink outlet setUp count = right.observe sink outlet setUp count := by
  have built : Application.builtEvent left = Application.builtEvent right := by
    rw [Application.builtEvent, Application.builtEvent, application, output]
  simp only [observe, Application.build, built, application,
    Application.runs_depend_on_run sink outlet same count]

/-- A key that is not revealed leaves no trace, however the sink fails and
whatever is logged; a revealed one stands in the output and nowhere else. The
debug text never tells two keys apart. -/
theorem key_is_seen_only_where_revealed (configuration : Configuration) :
    (∀ left right : String,
      (configuration.withKey left).debug = (configuration.withKey right).debug) ∧
    (configuration.output.revealApiKey = false →
      ∀ {State : Type} (sink : Sink State) (outlet : Outlet State)
        (setUp : ApplicationSettings → Installation) (count : Nat) (left right : String),
        (configuration.withKey left).observe sink outlet setUp count =
          (configuration.withKey right).observe sink outlet setUp count) ∧
    (configuration.output.revealApiKey = true →
      ∃ before after : Bytes,
        ∀ {State : Type} (sink : Sink State) (outlet : Outlet State)
          (setUp : ApplicationSettings → Installation), sink.Willing →
          ∃ seen : Observation, ∀ key : String,
            (configuration.withKey key).observe sink outlet setUp 1 =
              { seen with
                output := outlet.output ++ (before ++ Bytes.ofText key ++ after)
                outcomes := [.ok ()] }) := by
  refine ⟨?debug, ?hidden, ?revealed⟩
  case debug =>
    intro left right
    rfl
  case hidden =>
    intro concealed State sink outlet setUp count left right
    apply observe_depends_on_run
    · rfl
    · rfl
    · intro outlet
      apply Application.run_depends_on_shown_key
      · rfl
      · rfl
      · rfl
      · simp [Application.ofConfiguration, withKey, Notice.shownKey, concealed]
  case revealed =>
    intro revealed
    let contact := configuration.customer.toCustomer.toContact
    refine ⟨Notice.beforeKey contact.email contact.name,
      Notice.afterKey contact.email contact.name, ?_⟩
    intro State sink outlet setUp willing
    let noticed : List Signal :=
      [.happened (Application.builtEvent configuration), .opened (Notice.noticeSpan contact),
        .opened (Notice.emailSpan contact.email contact.name), .closed, .closed,
        .happened Application.processedEvent]
    refine ⟨{ output := [], flushes := outlet.flushes + 1, outcomes := [], reports := [none]
              signals := noticed
              records := (setUp configuration.application).records noticed }, ?_⟩
    intro key
    obtain ⟨state, ran⟩ :=
      (Application.ofConfiguration (configuration.withKey key)).run_on_willing_sink willing outlet
    have written : (Application.ofConfiguration (configuration.withKey key)).textBytes =
        Notice.beforeKey contact.email contact.name ++ Bytes.ofText key ++
          Notice.afterKey contact.email contact.name := by
      rw [Application.textBytes]
      simp only [Application.ofConfiguration, withKey, revealed]
      exact Notice.text_bytes_of_revealed_key { contact with apiKey := ⟨key⟩ }
    rw [written] at ran
    simp only [observe, Application.build, Application.runs, Course.times, ran]
    rfl

theorem default_key_is_seen_in_output :
    ∃ before after : Bytes, ∃ seen : Observation, ∀ key : String,
      (default.withKey key).observe Sink.accepting (Outlet.start ()) (fun _ => .empty) 1 =
        { seen with
          output := before ++ Bytes.ofText key ++ after
          outcomes := [.ok ()] } := by
  obtain ⟨before, after, revealed⟩ := (key_is_seen_only_where_revealed default).2.2 rfl
  obtain ⟨seen, observed⟩ := revealed Sink.accepting (Outlet.start ()) (fun _ => .empty)
    Sink.accepting_willing
  exact ⟨before, after, seen, observed⟩

/-- The id of a customer is never seen, whether the key is revealed or not: not
in what is written, not in an error, not in the log. -/
theorem customer_id_is_never_seen (configuration : Configuration) (left right : String) :
    (∀ {State : Type} (sink : Sink State) (outlet : Outlet State)
      (setUp : ApplicationSettings → Installation) (count : Nat),
      (configuration.withId left).observe sink outlet setUp count =
        (configuration.withId right).observe sink outlet setUp count) ∧
    (∀ {State : Type} (sink : Sink State) (outlet : Outlet State) (customer : Customer)
      (reveal : Bool),
      Notice.deliver sink outlet { customer with id := ⟨left⟩ }.toContact reveal =
        Notice.deliver sink outlet { customer with id := ⟨right⟩ }.toContact reveal) := by
  constructor
  · intro State sink outlet setUp count
    apply observe_depends_on_run
    · rfl
    · rfl
    · intro outlet
      exact Application.run_depends_on_shown_key sink outlet rfl rfl rfl rfl
  · intro State sink outlet customer reveal
    exact Notice.deliver_depends_on_shown_key sink outlet rfl rfl rfl

end Configuration
end CustomerNotice
