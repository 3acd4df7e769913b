import CustomerNotice.Program
import CustomerNotice.Proofs.Application.Repetition
import CustomerNotice.Proofs.Log.Filtering

/-!
# The trace of a run

What is logged about a run shows how far it came and what it came to, whatever
the sink does: the email has records of its own exactly if the details before it
were written, a failure is recorded exactly if the email could not be written,
and success is recorded exactly if the run succeeded.
-/

namespace CustomerNotice

open Sink (Writes)

namespace Application

theorem email_signals_nested (application : Application) (outcome : Except NoticeError Unit) :
    Signal.Nested (application.emailSignals outcome) := by
  apply Signal.Nested.span
  case inside =>
    rcases outcome with (source | sent) | done
    · exact .nothing
    · exact .event .nothing
    · exact .nothing
  case later => exact .nothing

theorem inner_signals_nested (application : Application) (taken : Bytes)
    (outcome : Except NoticeError Unit) :
    Signal.Nested
      (if application.detailsBytes.length ≤ taken.length then application.emailSignals outcome
        else []) := by
  split
  · exact application.email_signals_nested outcome
  · exact .nothing

/-- However a run ends, the spans that it opened are closed. -/
theorem signals_nested (application : Application) (taken : Bytes)
    (outcome : Except NoticeError Unit) :
    Signal.Nested (application.signalsOf taken outcome) := by
  apply Signal.Nested.span
  case inside => exact application.inner_signals_nested taken outcome
  case later =>
    rcases outcome with error | done
    · exact .nothing
    · exact .event .nothing

def Informed (signal : Signal) : Prop := ∀ level ∈ signal.level?, level = .info ∨ level = .error

theorem Informed.admitted {signal : Signal} (informed : Informed signal) (patterns : Patterns) :
    (Filter.upTo patterns (some .info)).Admits signal := by
  apply Filter.upTo_admits
  intro level spoken
  rcases informed level spoken with rfl | rfl
  · rfl
  · rfl

theorem email_signals_informed (application : Application) (outcome : Except NoticeError Unit) :
    ∀ signal ∈ application.emailSignals outcome, Informed signal := by
  rcases outcome with (source | sent) | done <;>
    simp [emailSignals, Informed, Signal.level?, Notice.emailSpan, Notice.emailFailure]

theorem signals_informed (application : Application) (taken : Bytes)
    (outcome : Except NoticeError Unit) :
    ∀ signal ∈ application.signalsOf taken outcome, Informed signal := by
  have email := application.email_signals_informed outcome
  have last : ∀ signal ∈ lastSignals outcome, Informed signal := by
    rcases outcome with error | done <;>
      simp [lastSignals, Informed, Signal.level?, processedEvent]
  have inner : ∀ signal ∈ (if application.detailsBytes.length ≤ taken.length then
      application.emailSignals outcome else []), Informed signal := by
    split
    · exact email
    · exact List.forall_mem_nil _
  refine List.forall_mem_cons.mpr ⟨?opened, List.forall_mem_append.mpr ⟨inner, ?closed⟩⟩
  case opened => simp [Informed, Signal.level?, Notice.noticeSpan]
  case closed => exact List.forall_mem_cons.mpr ⟨by simp [Informed, Signal.level?], last⟩

end Application

namespace Trace

variable (configuration : Configuration)

def record (level : Level) (target message : String) (fields : Fields) : Record where
  name := configuration.application.name
  level := level
  target := target
  message := message
  fields := fields

def customerFields : Fields :=
  [("run_id", .freshId), ("customer_email", .text configuration.customer.email),
    ("customer_name", .text configuration.customer.name)]

/-- What every record about the email carries. The name of the customer is not
among it a second time: a field called like the name of a record is dropped. -/
def emailFields : Fields :=
  customerFields configuration ++
    [("recipient",
      .text ("CustomerEmail(" ++ Text.quoted configuration.customer.email ++ ")"))]

def built : Record :=
  record configuration .info "customer_notify::startup"
    ("Built " ++ configuration.application.name)
    [("reveal_api_key", .flag configuration.output.revealApiKey)]

def processingStarts : Record :=
  record configuration .info "customer_notify::process" "[PROCESSING CUSTOMER - START]"
    (customerFields configuration)

def processingEnds : Record :=
  record configuration .info "customer_notify::process" "[PROCESSING CUSTOMER - END]"
    (customerFields configuration ++ [("elapsed_milliseconds", .duration)])

def emailStarts : Record :=
  record configuration .info "customer_notify::mail::send_email"
    "[SEND NOTIFICATION EMAIL - START]" (emailFields configuration)

def emailFails (error : IoError) : Record :=
  record configuration .error "customer_notify::mail::send_email"
    ("[SEND NOTIFICATION EMAIL - EVENT] Failed to write notification: " ++ error.debug)
    (emailFields configuration)

def emailEnds : Record :=
  record configuration .info "customer_notify::mail::send_email"
    "[SEND NOTIFICATION EMAIL - END]"
    (emailFields configuration ++ [("elapsed_milliseconds", .duration)])

def processed : Record :=
  record configuration .info "customer_notify::startup" "Customer processed" []

/-- The records of a run that wrote `taken` and came to `outcome`. -/
def ofRun (taken : Bytes) (outcome : Except NoticeError Unit) : List Record :=
  [built configuration, processingStarts configuration] ++
    (if (Application.ofConfiguration configuration).detailsBytes.length ≤ taken.length then
      [emailStarts configuration] ++
        (match outcome with
          | .error (.email sent) => [emailFails configuration sent.source]
          | _ => []) ++
        [emailEnds configuration]
    else []) ++
    [processingEnds configuration] ++
    (match outcome with
      | .ok () => [processed configuration]
      | .error _ => [])

/-- The two spans of a run, the inner one inside the outer one. -/
def processingSpan : OpenSpan :=
  .ofSpan [] (Notice.noticeSpan configuration.customer.toCustomer.toContact)

def sendingSpan : OpenSpan :=
  .ofSpan [processingSpan configuration]
    (Notice.emailSpan ⟨configuration.customer.email⟩ ⟨configuration.customer.name⟩)

theorem processing_title (contact : Contact) :
    (Notice.noticeSpan contact).title = "PROCESSING CUSTOMER" := by
  have capitals : String.ofList ("Processing customer".toList.map Char.toUpper) =
      "PROCESSING CUSTOMER" := by decide
  exact capitals

theorem sending_title (email : CustomerEmail) (name : CustomerName) :
    (Notice.emailSpan email name).title = "SEND NOTIFICATION EMAIL" := by
  have capitals : String.ofList ("Send notification email".toList.map Char.toUpper) =
      "SEND NOTIFICATION EMAIL" := by decide
  exact capitals

theorem built_recorded :
    Record.ofEvent configuration.application.name [] (Application.builtEvent configuration) =
      built configuration := rfl

theorem processing_recorded :
    Record.ofSpan configuration.application.name (processingSpan configuration) "START" [] =
        processingStarts configuration ∧
      Record.ofSpan configuration.application.name (processingSpan configuration) "END"
          Record.elapsed =
        processingEnds configuration := by
  simp only [Record.ofSpan, processingSpan, OpenSpan.ofSpan, processing_title]
  exact ⟨rfl, rfl⟩

theorem sending_recorded :
    Record.ofSpan configuration.application.name (sendingSpan configuration) "START" [] =
        emailStarts configuration ∧
      Record.ofSpan configuration.application.name (sendingSpan configuration) "END"
          Record.elapsed =
        emailEnds configuration := by
  simp only [Record.ofSpan, sendingSpan, OpenSpan.ofSpan, sending_title]
  exact ⟨rfl, rfl⟩

theorem failure_recorded (error : IoError) :
    Record.ofEvent configuration.application.name
        [sendingSpan configuration, processingSpan configuration] (Notice.emailFailure error) =
      emailFails configuration error := by
  have heading : Record.inSpan "SEND NOTIFICATION EMAIL" "EVENT" ++ " " ++
      "Failed to write notification: " =
        "[SEND NOTIFICATION EMAIL - EVENT] Failed to write notification: " := by decide
  have title : (sendingSpan configuration).title = "SEND NOTIFICATION EMAIL" := sending_title _ _
  rw [emailFails, record, ← heading, ← title, String.append_assoc]
  rfl

theorem email_signals_recorded (outcome : Except NoticeError Unit) :
    Record.listFrom configuration.application.name [processingSpan configuration]
        ((Application.ofConfiguration configuration).emailSignals outcome) =
      [emailStarts configuration] ++
        (match outcome with
          | .error (.email sent) => [emailFails configuration sent.source]
          | _ => []) ++
        [emailEnds configuration] := by
  obtain ⟨starts, ends⟩ := sending_recorded configuration
  rcases outcome with (source | sent) | done
  · rw [← starts, ← ends]
    rfl
  · dsimp only
    rw [← starts, ← ends, ← failure_recorded]
    rfl
  · rw [← starts, ← ends]
    rfl

theorem last_signals_recorded (outcome : Except NoticeError Unit) :
    Record.listFrom configuration.application.name [] (Application.lastSignals outcome) =
      match outcome with
      | .ok () => [processed configuration]
      | .error _ => [] := by
  rcases outcome with error | done <;> rfl

/-- All of what a run says, as it is recorded. -/
theorem signals_recorded (taken : Bytes) (outcome : Except NoticeError Unit) :
    Record.listFrom configuration.application.name []
        (.happened (Application.builtEvent configuration) ::
          (Application.ofConfiguration configuration).signalsOf taken outcome) =
      ofRun configuration taken outcome := by
  have inner := (Application.ofConfiguration configuration).inner_signals_nested taken outcome
  obtain ⟨starts, ends⟩ := processing_recorded configuration
  rw [Record.listFrom_event, built_recorded, Application.signalsOf]
  have around := Record.listFrom_span configuration.application.name []
    (Notice.noticeSpan configuration.customer.toCustomer.toContact) inner
    (Application.lastSignals outcome)
  rw [last_signals_recorded] at around
  refine (congrArg _ around).trans ?_
  have span : OpenSpan.ofSpan [] (Notice.noticeSpan configuration.customer.toCustomer.toContact) =
      processingSpan configuration := rfl
  rw [span, starts, ends]
  by_cases detailed : (Application.ofConfiguration configuration).detailsBytes.length ≤ taken.length
  · simp only [ofRun, if_pos detailed, email_signals_recorded, List.append_assoc, List.cons_append,
      List.nil_append]
  · simp only [ofRun, if_neg detailed, List.cons_append, List.nil_append, Record.listFrom]

end Trace

namespace Program

variable {State : Type}

/-- The log tells the truth about a run, whatever the sink does with the text
that it is offered and with the flush. -/
theorem log_tells_what_happened (patterns : Patterns) (configuration : Configuration)
    (exported : Variables) (informed : configuration.application.logLevel = "info")
    (unset : exported.value? filterVariable = none) (sink : Sink State) (outlet : Outlet State) :
    ∃ taken failure? settled,
      Writes sink outlet.state (Application.ofConfiguration configuration).textBytes taken failure?
        settled ∧
      (course sink outlet configuration).outlet.output = outlet.output ++ taken ∧
      (∃ listener, listenerOf? patterns exported configuration = some listener ∧
        listener.records (course sink outlet configuration).signals =
          Trace.ofRun configuration taken (course sink outlet configuration).outcome) ∧
      (∀ sent, (course sink outlet configuration).outcome = .error (.email sent) →
        (Application.ofConfiguration configuration).detailsBytes.length ≤ taken.length ∧
          failure? = some sent.source) ∧
      Signal.Nested (course sink outlet configuration).signals := by
  let application := Application.ofConfiguration configuration
  obtain ⟨taken, failure?, settled, writes, left, outcome, told⟩ :=
    application.run_settles_and_tells sink outlet
  have signals : (course sink outlet configuration).signals =
      .happened (Application.builtEvent configuration) ::
        application.signalsOf taken (course sink outlet configuration).outcome :=
    congrArg (List.cons _) told
  have nested : Signal.Nested (course sink outlet configuration).signals := by
    rw [signals]
    exact .event (application.signals_nested taken _)
  refine ⟨taken, failure?, settled, writes, ?output, ?records, ?email, nested⟩
  case output => exact congrArg Outlet.output left
  case records =>
    have listener : listenerOf? patterns exported configuration =
        some ⟨configuration.application.name, .upTo patterns (some .info)⟩ := by
      rw [listenerOf?, informed]
      exact listener_of_level patterns unset _ .info
    refine ⟨_, listener, ?_⟩
    have passes : ∀ signal ∈ (course sink outlet configuration).signals,
        (Filter.upTo patterns (some .info)).Admits signal := by
      have informed : ∀ signal ∈ (course sink outlet configuration).signals,
          Application.Informed signal := by
        rw [signals]
        refine List.forall_mem_cons.mpr ⟨?_, application.signals_informed taken _⟩
        simp [Application.Informed, Signal.level?, Application.builtEvent]
      exact fun signal member => (informed signal member).admitted patterns
    rw [Listener.records, Filter.leaves_nested nested passes, signals]
    exact Trace.signals_recorded configuration taken _
  case email =>
    intro sent failed
    have verdict := (application.verdict_email_iff taken failure? _ sent).mp (outcome ▸ failed)
    exact ⟨verdict.1, verdict.2.2⟩

def breakingSink : BoundedSink := { BoundedSink.unlimited with limit := some 100 }

/-- The log of a run that is cut off in its email: the failure stands inside the
span of the email, and success is not recorded. -/
theorem default_log_of_cut_email :
    Configuration.default.application.logLevel = "info" ∧
      Variables.value? [] filterVariable = none ∧
      ∃ listener, listenerOf? .words [] .default = some listener ∧
        listener.records (course BoundedSink.sink (.start breakingSink) .default).signals =
          [Trace.built .default, Trace.processingStarts .default, Trace.emailStarts .default,
            Trace.emailFails .default (.plain .brokenPipe), Trace.emailEnds .default,
            Trace.processingEnds .default] := by
  refine ⟨rfl, rfl, ?_⟩
  let application := Application.ofConfiguration .default
  have sizes : application.detailsBytes.length = 82 ∧ application.textBytes.length = 127 := by
    rw [Application.detailsBytes, Application.textBytes, Notice.detailsBytes, Notice.textBytes]
    decide +kernel
  have sound : breakingSink.Sound (.plain .brokenPipe) :=
    ⟨by decide, rfl, by simp [breakingSink, BoundedSink.unlimited], rfl⟩
  have short : 100 < application.textBytes.length := by omega
  have cut : ∃ error, error = IoError.plain .brokenPipe ∧
      (application.run BoundedSink.sink (.start breakingSink)).outcome =
        .error (application.shortfall 100 error) :=
    (application.run_without_room (BoundedSink.sink_bounded _) ⟨sound, rfl⟩ short).1
  obtain ⟨error, rfl, outcome⟩ := cut
  obtain ⟨taken, failure?, settled, writes, output, ⟨listener, chosen, records⟩, email, nested⟩ :=
    log_tells_what_happened .words .default [] rfl rfl BoundedSink.sink (.start breakingSink)
  have failed : (course BoundedSink.sink (.start breakingSink) .default).outcome =
      .error (.email ⟨"customer@example.com", .plain .brokenPipe⟩) := by
    have late : ¬100 < application.detailsBytes.length := by omega
    rw [Application.shortfall, if_neg late] at outcome
    exact outcome
  have detailed := (email _ failed).1
  refine ⟨listener, chosen, ?_⟩
  rw [records, failed, Trace.ofRun, if_pos detailed]
  rfl

end Program
end CustomerNotice
