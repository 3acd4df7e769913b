import CustomerNotice.Application
import CustomerNotice.Proofs.Sink.Writing

/-!
# How far a delivery comes

A delivery ends while the details are written, while the email is written, or
when all is written, and a run adds the flush. These are all the cases there
are, whatever the sink does: each says how much was taken, which failure is
reported and which signals were given.
-/

namespace CustomerNotice

open Sink (Writes)

variable {State : Type}

namespace Notice

/-- The two parts before the email, letter by letter. -/
def spelledDetails (contact : Contact) (reveal : Bool) : String :=
  "Processing " ++ contact.name.text ++ " with email " ++ contact.email.text ++ "\nAPI Key: "
    ++ (if reveal then contact.apiKey.secret else "[REDACTED]") ++ "\n"

def spelledEmail (email : CustomerEmail) (name : CustomerName) : String :=
  "Sending to " ++ email.text ++ " for " ++ name.text ++ "\n"

def spelledText (contact : Contact) (reveal : Bool) : String :=
  spelledDetails contact reveal ++ spelledEmail contact.email contact.name

theorem details_spelled (contact : Contact) (reveal : Bool) :
    details contact reveal = spelledDetails contact reveal := by
  have joint : ∀ text : String, "\n" ++ ("API Key: " ++ text) = "\nAPI Key: " ++ text := by
    intro text
    rw [← String.append_assoc, show "\n" ++ "API Key: " = "\nAPI Key: " from by decide]
  delta spelledDetails
  simp only [details, contactLine, keyLine, shownKey, redactedKey, String.join_cons,
    String.join_nil, String.append_empty, String.append_assoc, joint]

theorem email_line_spelled (email : CustomerEmail) (name : CustomerName) :
    String.join (emailLine email name) = spelledEmail email name := by
  delta spelledEmail
  simp only [emailLine, String.join_cons, String.join_nil, String.append_empty,
    String.append_assoc]

-- Irreducible, so that no comparison of outlets ever encodes a text.
@[irreducible] def detailsBytes (contact : Contact) (reveal : Bool) : Bytes :=
  Bytes.ofText (spelledDetails contact reveal)

@[irreducible] def emailBytes (email : CustomerEmail) (name : CustomerName) : Bytes :=
  Bytes.ofText (spelledEmail email name)

@[irreducible] def textBytes (contact : Contact) (reveal : Bool) : Bytes :=
  Bytes.ofText (spelledText contact reveal)

theorem text_bytes_eq (contact : Contact) (reveal : Bool) :
    textBytes contact reveal =
      detailsBytes contact reveal ++ emailBytes contact.email contact.name := by
  rw [textBytes, detailsBytes, emailBytes, spelledText, Bytes.ofText_append]

/-- The ways in which a delivery ends. -/
inductive Delivers (sink : Sink State) (outlet : Outlet State) (contact : Contact)
    (reveal : Bool) : Activity State NoticeError → Prop
  | detailsFailed {taken : Bytes} {error : IoError} {after : State}
      (writes : Writes sink outlet.state (detailsBytes contact reveal) taken (some error) after) :
      Delivers sink outlet contact reveal
        ⟨.error (.output error), outlet.extended taken after,
          [.opened (noticeSpan contact), .closed]⟩
  | emailFailed {taken : Bytes} {error : IoError} {middle after : State}
      (details : Writes sink outlet.state (detailsBytes contact reveal)
        (detailsBytes contact reveal) none middle)
      (writes : Writes sink middle (emailBytes contact.email contact.name) taken (some error)
        after) :
      Delivers sink outlet contact reveal
        ⟨.error (.email ⟨contact.email.text, error⟩),
          outlet.extended (detailsBytes contact reveal ++ taken) after,
          [.opened (noticeSpan contact), .opened (emailSpan contact.email contact.name),
            .happened (emailFailure error), .closed, .closed]⟩
  | delivered {after : State}
      (writes : Writes sink outlet.state (textBytes contact reveal)
        (textBytes contact reveal) none after) :
      Delivers sink outlet contact reveal
        ⟨.ok (), outlet.extended (textBytes contact reveal) after,
          [.opened (noticeSpan contact), .opened (emailSpan contact.email contact.name),
            .closed, .closed]⟩

/-- The two lines of details are one writing, whichever of them fails. -/
theorem details_written (sink : Sink State) (outlet : Outlet State) (contact : Contact)
    (reveal : Bool) :
    ∃ taken failure? after,
      sink.print outlet (contactLine contact ++ keyLine contact reveal) =
          (failure?, outlet.extended taken after) ∧
        Writes sink outlet.state (detailsBytes contact reveal) taken failure? after := by
  have printed := sink.print_writes outlet (contactLine contact ++ keyLine contact reveal)
  rw [String.join_append] at printed
  change ∃ taken failure? after, _ ∧
    Writes sink outlet.state (Bytes.ofText (details contact reveal)) taken failure? after at printed
  rwa [details_spelled, ← detailsBytes] at printed

/-- The email is reported by its own signals, which come before those of the delivery end. -/
theorem deliver_by_parts (sink : Sink State) (outlet : Outlet State) (contact : Contact)
    (reveal : Bool) :
    deliver sink outlet contact reveal =
      match sink.print outlet (contactLine contact ++ keyLine contact reveal) with
      | (some error, outlet) =>
          ⟨.error (.output error), outlet, [.opened (noticeSpan contact), .closed]⟩
      | (none, outlet) =>
          let sent := sendEmail sink outlet contact.email contact.name
          ⟨sent.outcome.mapError .email, sent.outlet,
            .opened (noticeSpan contact) :: sent.signals ++ [.closed]⟩ := by
  rw [Sink.print_append]
  simp only [deliver]
  rcases sink.print outlet (contactLine contact) with ⟨_ | error, outlet⟩
  · rfl
  · rfl

theorem deliver_delivers (sink : Sink State) (outlet : Outlet State) (contact : Contact)
    (reveal : Bool) :
    Delivers sink outlet contact reveal (deliver sink outlet contact reveal) := by
  rw [deliver_by_parts]
  obtain ⟨taken, failure?, middle, printed, details⟩ := details_written sink outlet contact reveal
  rw [printed]
  cases failure? with
  | some error => exact .detailsFailed details
  | none =>
      obtain rfl := details.all_taken
      obtain ⟨rest, failure?, after, mailed, email⟩ :=
        sink.print_writes (outlet.extended (detailsBytes contact reveal) middle)
          (emailLine contact.email contact.name)
      rw [email_line_spelled, ← emailBytes, Outlet.extended_state] at email
      simp only [sendEmail, mailed, Outlet.extended_extended]
      cases failure? with
      | some error => exact .emailFailed details email
      | none =>
          obtain rfl := email.all_taken
          have whole := details.append email
          rw [← text_bytes_eq] at whole ⊢
          exact .delivered whole

/-- A sink that takes everything gets the whole notice. -/
theorem deliver_on_willing_sink {sink : Sink State} (willing : sink.Willing)
    (outlet : Outlet State) (contact : Contact) (reveal : Bool) :
    ∃ state, deliver sink outlet contact reveal =
      ⟨.ok (), outlet.extended (textBytes contact reveal) state,
        [.opened (noticeSpan contact), .opened (emailSpan contact.email contact.name),
          .closed, .closed]⟩ := by
  have delivers := deliver_delivers sink outlet contact reveal
  generalize deliver sink outlet contact reveal = activity at delivers ⊢
  cases delivers with
  | detailsFailed writes =>
      have complete := writes.complete_of_willing willing
      contradiction
  | emailFailed details writes =>
      have complete := writes.complete_of_willing willing
      contradiction
  | @delivered state writes => exact ⟨state, rfl⟩

end Notice

namespace Application

def textBytes (application : Application) : Bytes :=
  Notice.textBytes application.customer.toContact application.reveal

def detailsBytes (application : Application) : Bytes :=
  Notice.detailsBytes application.customer.toContact application.reveal

/-- A run ends as its delivery fails, or with the flush that follows a delivery. -/
inductive Runs (application : Application) (sink : Sink State) (outlet : Outlet State) :
    Activity State NoticeError → Prop
  | stopped {error : NoticeError} {after : Outlet State} {signals : List Signal}
      (delivers : Notice.Delivers sink outlet application.customer.toContact application.reveal
        ⟨.error error, after, signals⟩) :
      Runs application sink outlet ⟨.error error, after, signals⟩
  | flushFailed {error : IoError} {after : Outlet State} {state : State} {signals : List Signal}
      (delivers : Notice.Delivers sink outlet application.customer.toContact application.reveal
        ⟨.ok (), after, signals⟩)
      (flushed : sink.flush after.state = (some error, state)) :
      Runs application sink outlet
        ⟨.error (.output error), { after with state, flushes := after.flushes + 1 }, signals⟩
  | succeeded {after : Outlet State} {state : State} {signals : List Signal}
      (delivers : Notice.Delivers sink outlet application.customer.toContact application.reveal
        ⟨.ok (), after, signals⟩)
      (flushed : sink.flush after.state = (none, state)) :
      Runs application sink outlet
        ⟨.ok (), { after with state, flushes := after.flushes + 1 },
          signals ++ [.happened processedEvent]⟩

theorem run_runs (application : Application) (sink : Sink State) (outlet : Outlet State) :
    Runs application sink outlet (application.run sink outlet) := by
  have delivers := Notice.deliver_delivers sink outlet application.customer.toContact
    application.reveal
  simp only [run]
  generalize Notice.deliver sink outlet application.customer.toContact application.reveal =
    delivered at delivers ⊢
  rcases delivered with ⟨error | ⟨⟩, after, signals⟩
  · exact .stopped delivers
  · rcases flushed : sink.flush after.state with ⟨_ | error, state⟩
    · simp only [Sink.flushOutlet, flushed]
      exact .succeeded delivers flushed
    · simp only [Sink.flushOutlet, flushed]
      exact .flushFailed delivers flushed

/-- A sink that takes everything lets every run succeed with the same signals. -/
theorem run_on_willing_sink (application : Application) {sink : Sink State}
    (willing : sink.Willing) (outlet : Outlet State) :
    ∃ state, application.run sink outlet =
      ⟨.ok (), ⟨state, outlet.output ++ application.textBytes, outlet.flushes + 1⟩,
        [.opened (Notice.noticeSpan application.customer.toContact),
          .opened (Notice.emailSpan application.customer.email application.customer.name),
          .closed, .closed, .happened processedEvent]⟩ := by
  obtain ⟨state, delivered⟩ := Notice.deliver_on_willing_sink willing outlet
    application.customer.toContact application.reveal
  have flushes := willing.flushes state
  rcases flushed : sink.flush state with ⟨failure?, settled⟩
  rw [flushed] at flushes
  obtain rfl : failure? = none := flushes
  refine ⟨settled, ?_⟩
  simp only [run, delivered, Sink.flushOutlet, Outlet.extended_state, flushed]
  rfl

/-- What a run reports of a writing that ended as it did and of the flush that may follow. -/
def verdict (application : Application) (taken : Bytes) (failure? flushFailure? : Option IoError) :
    Except NoticeError Unit :=
  match failure?, flushFailure? with
  | some error, _ =>
      if taken.length < application.detailsBytes.length then .error (.output error)
      else .error (.email ⟨application.customer.email.text, error⟩)
  | none, some error => .error (.output error)
  | none, none => .ok ()

theorem verdict_ok_iff (application : Application) (taken : Bytes)
    (failure? flushFailure? : Option IoError) :
    application.verdict taken failure? flushFailure? = .ok () ↔
      failure? = none ∧ flushFailure? = none := by
  rcases failure? with _ | error
  · cases flushFailure? <;> simp [verdict]
  · by_cases early : taken.length < application.detailsBytes.length <;> simp [verdict, early]

theorem verdict_output_iff (application : Application) (taken : Bytes)
    (failure? flushFailure? : Option IoError) (error : IoError) :
    application.verdict taken failure? flushFailure? = .error (.output error) ↔
      (taken.length < application.detailsBytes.length ∧ failure? = some error) ∨
        (failure? = none ∧ flushFailure? = some error) := by
  rcases failure? with _ | error
  · cases flushFailure? <;> simp [verdict]
  · by_cases early : taken.length < application.detailsBytes.length <;> simp [verdict, early]

theorem verdict_email_iff (application : Application) (taken : Bytes)
    (failure? flushFailure? : Option IoError) (sent : SendError) :
    application.verdict taken failure? flushFailure? = .error (.email sent) ↔
      application.detailsBytes.length ≤ taken.length ∧
        sent.recipient = application.customer.email.text ∧ failure? = some sent.source := by
  rcases failure? with _ | error
  · cases flushFailure? <;> simp [verdict]
  · by_cases early : taken.length < application.detailsBytes.length
    · have notLate := Nat.not_le.mpr early
      simp [verdict, early, notLate]
    · have late := Nat.not_lt.mp early
      rcases sent with ⟨recipient, source⟩
      simp [verdict, early, late, eq_comm]

/-- The signals of an email in a run that comes to `outcome`. -/
def emailSignals (application : Application) (outcome : Except NoticeError Unit) : List Signal :=
  .opened (Notice.emailSpan application.customer.email application.customer.name) ::
    ((match outcome with
      | .error (.email sent) => [.happened (Notice.emailFailure sent.source)]
      | _ => []) ++ [.closed])

def lastSignals : Except NoticeError Unit → List Signal
  | .ok () => [.happened processedEvent]
  | .error _ => []

/-- The signals of a run that wrote `taken` and came to `outcome`: the email has its
own if the details before it are written. -/
def signalsOf (application : Application) (taken : Bytes) (outcome : Except NoticeError Unit) :
    List Signal :=
  .opened (Notice.noticeSpan application.customer.toContact) ::
    ((if application.detailsBytes.length ≤ taken.length then application.emailSignals outcome
      else []) ++ .closed :: lastSignals outcome)

/-- A run is one writing of the whole text, which leaves the sink `settled`, and
a flush if nothing failed before; it tells how far it came and what it came to. -/
theorem run_settles_and_tells (application : Application) (sink : Sink State)
    (outlet : Outlet State) :
    ∃ taken failure? settled,
      Writes sink outlet.state application.textBytes taken failure? settled ∧
      (application.run sink outlet).outlet =
        { state := if failure? = none then (sink.flush settled).2 else settled
          output := outlet.output ++ taken
          flushes := outlet.flushes + (if failure? = none then 1 else 0) } ∧
      (application.run sink outlet).outcome =
        application.verdict taken failure? (sink.flush settled).1 ∧
      (application.run sink outlet).signals =
        application.signalsOf taken (application.run sink outlet).outcome := by
  have ran := application.run_runs sink outlet
  generalize application.run sink outlet = activity at ran ⊢
  have parts : application.textBytes =
      application.detailsBytes ++
        Notice.emailBytes application.customer.email application.customer.name :=
    Notice.text_bytes_eq _ _
  have complete : application.detailsBytes.length ≤ application.textBytes.length := by
    rw [parts, List.length_append]
    omega
  cases ran with
  | stopped delivers =>
      cases delivers with
      | @detailsFailed taken error after writes =>
          have whole := writes.append_failed
            (Notice.emailBytes application.customer.email application.customer.name)
          have short : taken.length < application.detailsBytes.length :=
            writes.length_lt_of_failure
          refine ⟨taken, some error, after, parts ▸ whole, rfl, ?_, ?_⟩
          · simp only [verdict, if_pos short]
          · simp only [signalsOf, if_neg (Nat.not_le.mpr short), List.nil_append, lastSignals]
      | @emailFailed taken error middle after details writes =>
          have whole := details.append writes
          have long : application.detailsBytes.length ≤
              (application.detailsBytes ++ taken).length := by
            simp only [List.length_append]
            omega
          refine ⟨application.detailsBytes ++ taken, some error, after, parts ▸ whole, rfl, ?_, ?_⟩
          · simp only [verdict, if_neg (Nat.not_lt.mpr long)]
          · simp only [signalsOf, if_pos long]
            rfl
  | flushFailed delivers flushed =>
      cases delivers with
      | @delivered after writes =>
          rw [Outlet.extended_state] at flushed
          refine ⟨application.textBytes, none, after, writes, ?_, ?_, ?_⟩
          · rw [flushed]
            rfl
          · rw [flushed]
            rfl
          · simp only [signalsOf, if_pos complete]
            rfl
  | succeeded delivers flushed =>
      cases delivers with
      | @delivered after writes =>
          rw [Outlet.extended_state] at flushed
          refine ⟨application.textBytes, none, after, writes, ?_, ?_, ?_⟩
          · rw [flushed]
            rfl
          · rw [flushed]
            rfl
          · simp only [signalsOf, if_pos complete]
            rfl

theorem run_settles (application : Application) (sink : Sink State) (outlet : Outlet State) :
    ∃ taken failure? settled,
      Writes sink outlet.state application.textBytes taken failure? settled ∧
      (application.run sink outlet).outlet =
        { state := if failure? = none then (sink.flush settled).2 else settled
          output := outlet.output ++ taken
          flushes := outlet.flushes + (if failure? = none then 1 else 0) } ∧
      (application.run sink outlet).outcome =
        application.verdict taken failure? (sink.flush settled).1 := by
  obtain ⟨taken, failure?, settled, writes, left, outcome, told⟩ :=
    application.run_settles_and_tells sink outlet
  exact ⟨taken, failure?, settled, writes, left, outcome⟩

theorem run_follows_verdict (application : Application) (sink : Sink State)
    (outlet : Outlet State) :
    ∃ taken failure? settled,
      Writes sink outlet.state application.textBytes taken failure? settled ∧
      (application.run sink outlet).outlet.output = outlet.output ++ taken ∧
      (application.run sink outlet).outlet.flushes =
        outlet.flushes + (if failure? = none then 1 else 0) ∧
      (application.run sink outlet).outcome =
        application.verdict taken failure? (sink.flush settled).1 := by
  obtain ⟨taken, failure?, settled, writes, left, outcome⟩ := application.run_settles sink outlet
  refine ⟨taken, failure?, settled, writes, ?_, ?_, outcome⟩
  · rw [left]
  · rw [left]

/-- The result of a run tells exactly how much of the notice the sink has taken,
and every error carries the failure that the sink itself gave. -/
theorem run_reports_what_was_taken (application : Application) (sink : Sink State)
    (outlet : Outlet State) :
    ∃ taken failure? settled,
      Writes sink outlet.state application.textBytes taken failure? settled ∧
      (application.run sink outlet).outlet.output = outlet.output ++ taken ∧
      taken <+: application.textBytes ∧
      (failure? = none ↔ taken = application.textBytes) ∧
      ((application.run sink outlet).outcome = .ok () ↔
        taken = application.textBytes ∧ (sink.flush settled).1 = none) ∧
      (∀ error, (application.run sink outlet).outcome = .error (.output error) ↔
        (taken.length < application.detailsBytes.length ∧ failure? = some error) ∨
          (taken = application.textBytes ∧ (sink.flush settled).1 = some error)) ∧
      (∀ sent, (application.run sink outlet).outcome = .error (.email sent) ↔
        application.detailsBytes.length ≤ taken.length ∧
          taken.length < application.textBytes.length ∧
          sent.recipient = application.customer.email.text ∧ failure? = some sent.source) ∧
      (application.run sink outlet).outlet.flushes =
        outlet.flushes + (if taken = application.textBytes then 1 else 0) := by
  obtain ⟨taken, failure?, settled, writes, output, flushes, outcome⟩ :=
    application.run_follows_verdict sink outlet
  have complete := writes.complete_iff_all_taken
  refine ⟨taken, failure?, settled, writes, output, writes.taken_is_prefix, complete,
    ?succeeds, ?failsOutput, ?failsEmail, ?flushed⟩
  case succeeds => rw [outcome, verdict_ok_iff, complete]
  case failsOutput =>
    intro error
    rw [outcome, verdict_output_iff, complete]
  case failsEmail =>
    intro sent
    rw [outcome, verdict_email_iff]
    constructor
    · rintro ⟨late, recipient, source⟩
      rw [source] at writes
      exact ⟨late, writes.length_lt_of_failure, recipient, source⟩
    · rintro ⟨late, partly, recipient, source⟩
      exact ⟨late, recipient, source⟩
  case flushed =>
    rw [flushes]
    simp only [complete]

end Application
end CustomerNotice
