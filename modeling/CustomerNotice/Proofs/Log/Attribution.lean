import CustomerNotice.Proofs.Application.Trace
import CustomerNotice.Proofs.Format.JsonObjects
import CustomerNotice.Proofs.Log.Filtering
import CustomerNotice.Proofs.Tree.Collecting

/-!
# Every record is the application's own

A record stands under the name of the listener that made it, and it has its level, its target and
its message from the span or the event that it tells of. In its line the parts of the record and
its fields are members of one object. Since no field, wherever it was inherited from, is called
like one of these parts, whoever reads the line finds the parts as they are.
-/

namespace CustomerNotice

open Record (textLiteral)

namespace FieldValue

def tree (circumstances : Circumstances) : FieldValue → Tree
  | text value => .scalar none (.text value)
  | flag value => .scalar none (.bool value)
  | freshId => .scalar none (.text circumstances.freshId)
  | duration => .scalar none (Json.ofInteger false circumstances.milliseconds)

theorem spelled {circumstances : Circumstances}
    (fits : circumstances.milliseconds < Text.wordCount) (value : FieldValue) :
    Json.Spells (Record.valueLiteral circumstances value) (value.tree circumstances) := by
  cases value with
  | text value => exact Json.spells_text value
  | flag value => exact Json.spells_flag value
  | freshId => exact Json.spells_text circumstances.freshId
  | duration => exact Json.spells_number fits

end FieldValue

namespace Record

open Json (WrittenMember)

variable (circumstances : Circumstances) (record : Record)

def coreEntries : List (String × Tree) :=
  [("v", .scalar none (.int version)), ("name", .scalar none (.text record.name)),
    ("msg", .scalar none (.text record.message)),
    ("level", .scalar none (.int record.level.code)),
    ("target", .scalar none (.text record.target))]

def fieldEntries : List (String × Tree) :=
  record.fields.map fun field => (field.1, field.2.tree circumstances)

def tree : Tree :=
  .table none (Entries.ofList (coreEntries record ++ fieldEntries circumstances record))

theorem version_spelled : Json.Spells version.repr (.scalar none (.int version)) :=
  Json.spells_number (by decide)

theorem level_spelled (level : Level) :
    Json.Spells level.code.repr (.scalar none (.int level.code)) := by
  cases level <;> exact Json.spells_number (by decide)

def coreMembers : List WrittenMember :=
  [⟨"v", version.repr, _, version_spelled⟩,
    ⟨"name", textLiteral record.name, _, Json.spells_text record.name⟩,
    ⟨"msg", textLiteral record.message, _, Json.spells_text record.message⟩,
    ⟨"level", record.level.code.repr, _, level_spelled record.level⟩,
    ⟨"target", textLiteral record.target, _, Json.spells_text record.target⟩]

variable {circumstances} (fits : circumstances.milliseconds < Text.wordCount)

def members : List WrittenMember :=
  coreMembers record ++ record.fields.map fun field =>
    ⟨field.1, valueLiteral circumstances field.2, _, field.2.spelled fits⟩

theorem entries_of_members :
    (members record fits).map WrittenMember.entry =
      coreEntries record ++ fieldEntries circumstances record := by
  rw [members, List.map_append, List.map_map]
  rfl

theorem line_toList :
    (record.line circumstances).toList =
      '\x7b' :: (WrittenMember.listed (members record fits) ++ ['\x7d', '\n']) := by
  have opening : "\x7b".toList = ['\x7b'] := by decide
  have comma : ",".toList = [','] := by decide
  have closing : "\x7d\n".toList = ['\x7d', '\n'] := by decide
  have texts : record.line circumstances =
      "\x7b" ++ ",".intercalate ((members record fits).map WrittenMember.text) ++ "\x7d\n" := by
    rw [members, List.map_append, List.map_map]
    rfl
  rw [texts, String.toList_append, String.toList_append, String.toList_intercalate, List.map_map,
    opening, comma, closing]
  rfl

include fits in
/-- A line is an object of JSON with the parts of the record and its fields. -/
theorem read_line :
    Json.read? (record.line circumstances).toList = some (record.tree circumstances) := by
  have some_members : members record fits ≠ [] := List.cons_ne_nil _ _
  rw [line_toList record fits, WrittenMember.read_object some_members, entries_of_members]
  rfl

/-- No field is called like a part that every record has. -/
def Apart : Prop := ∀ field ∈ record.fields, field.1 ∉ coreNames

variable {record}

theorem apart_withoutCore (fields : Fields) :
    ∀ field ∈ withoutCore fields, field.1 ∉ coreNames := by
  intro field member
  have kept := (List.mem_filter.mp member).2
  simpa using kept

/-- What is read under a name of every record is never a field. -/
theorem get?_tree (apart : Apart record) {key : String} (core : key ∈ coreNames) :
    (record.tree circumstances).get? key = Entries.latest? key (coreEntries record) := by
  have absent : key ∉ Entries.names (fieldEntries circumstances record).reverse := by
    intro named
    obtain ⟨entry, entered, called⟩ := List.mem_map.mp named
    obtain ⟨field, member, rfl⟩ := List.mem_map.mp (List.mem_reverse.mp entered)
    exact apart field member (called ▸ core)
  have none_of_fields : Entries.latest? key (fieldEntries circumstances record) = none :=
    Entries.get?_eq_none_iff.mpr absent
  calc (record.tree circumstances).get? key
      = Entries.get? key
          (Entries.ofList (coreEntries record ++ fieldEntries circumstances record)) := rfl
    _ = (Entries.latest? key (fieldEntries circumstances record)).or
          (Entries.latest? key (coreEntries record)) := by
        rw [Entries.get?_ofList, Entries.latest?_append]
    _ = Entries.latest? key (coreEntries record) := by rw [none_of_fields, Option.none_or]

theorem core_of_tree (apart : Apart record) (circumstances : Circumstances) :
    (record.tree circumstances).get? "name" = some (.scalar none (.text record.name)) ∧
      (record.tree circumstances).get? "msg" = some (.scalar none (.text record.message)) ∧
      (record.tree circumstances).get? "level" =
        some (.scalar none (.int record.level.code)) := by
  refine ⟨?name, ?msg, ?level⟩
  case name =>
    rw [get?_tree apart (by decide)]
    rfl
  case msg =>
    rw [get?_tree apart (by decide)]
    rfl
  case level =>
    rw [get?_tree apart (by decide)]
    rfl

end Record

namespace Signal

/-- The level, the target and the message of a record come from a span that was opened, or from an
event, which may have happened inside such a span. -/
inductive Tells (signals : List Signal) : Level → String → String → Prop
  | starts {span : Span} (opened : .opened span ∈ signals) :
      Tells signals span.level span.target (Record.inSpan span.title "START")
  | ends {span : Span} (opened : .opened span ∈ signals) :
      Tells signals span.level span.target (Record.inSpan span.title "END")
  | alone {event : Event} (happened : .happened event ∈ signals) :
      Tells signals event.level event.target event.message
  | inside {event : Event} {span : Span} (happened : .happened event ∈ signals)
      (opened : .opened span ∈ signals) :
      Tells signals event.level event.target
        (Record.inSpan span.title "EVENT" ++ " " ++ event.message)

end Signal

namespace Record

open Signal (Tells)

variable (name : String) {signals : List Signal}

/-- A record under a name that tells of signals. -/
structure Attributed (signals : List Signal) (record : Record) : Prop where
  named : record.name = name
  tells : Tells signals record.level record.target record.message
  apart : record.Apart

/-- Every span that is open was opened by one of the signals. -/
def Known (signals : List Signal) (stack : SpanStack) : Prop :=
  ∀ inner ∈ stack, ∃ outer span, .opened span ∈ signals ∧ inner = .ofSpan outer span

theorem ofSpan_attributed {outer : SpanStack} {span : Span} (opened : .opened span ∈ signals) :
    Attributed name signals (ofSpan name (.ofSpan outer span) "START" []) ∧
      Attributed name signals (ofSpan name (.ofSpan outer span) "END" elapsed) :=
  ⟨⟨rfl, .starts opened, apart_withoutCore _⟩, ⟨rfl, .ends opened, apart_withoutCore _⟩⟩

theorem ofEvent_attributed {stack : SpanStack} (known : Known signals stack) {event : Event}
    (happened : .happened event ∈ signals) :
    Attributed name signals (ofEvent name stack event) := by
  refine ⟨rfl, ?tells, apart_withoutCore _⟩
  case tells =>
    cases stack with
    | nil => exact .alone happened
    | cons inner around =>
        obtain ⟨outer, span, opened, rfl⟩ := known inner List.mem_cons_self
        exact .inside happened opened

/-- What one signal is recorded as, and what is open after it. -/
theorem hear_attributed {stack : SpanStack} (known : Known signals stack) {signal : Signal}
    (given : signal ∈ signals) :
    (∀ record ∈ (hear name stack signal).1, Attributed name signals record) ∧
      Known signals (hear name stack signal).2 := by
  cases signal with
  | opened span =>
      refine ⟨List.forall_mem_singleton.mpr (ofSpan_attributed name given).1, ?_⟩
      exact List.forall_mem_cons.mpr ⟨⟨stack, span, given, rfl⟩, known⟩
  | happened event =>
      exact ⟨List.forall_mem_singleton.mpr (ofEvent_attributed name known given), known⟩
  | closed =>
      cases stack with
      | nil => exact ⟨List.forall_mem_nil _, known⟩
      | cons inner around =>
          obtain ⟨⟨outer, span, opened, rfl⟩, others⟩ := List.forall_mem_cons.mp known
          exact ⟨List.forall_mem_singleton.mpr (ofSpan_attributed name opened).2, others⟩

/-- Whatever is recorded of some of the signals is recorded of one of them. -/
theorem listFrom_attributed {stack : SpanStack} (known : Known signals stack)
    {left : List Signal} (given : ∀ signal ∈ left, signal ∈ signals) :
    ∀ record ∈ listFrom name stack left, Attributed name signals record := by
  induction left generalizing stack with
  | nil => exact List.forall_mem_nil _
  | cons signal rest induction =>
      obtain ⟨here, others⟩ := List.forall_mem_cons.mp given
      obtain ⟨now, known_after⟩ := hear_attributed name known here
      intro record member
      rcases List.mem_append.mp member with recorded | recorded
      · exact now record recorded
      · exact induction known_after others record recorded

end Record

namespace Filter

/-- A filter adds nothing. -/
theorem leavesFrom_subset (filter : Filter) (spans : List Passage) (signals : List Signal) :
    filter.leavesFrom spans signals ⊆ signals := by
  induction signals generalizing spans with
  | nil => exact List.Subset.refl _
  | cons signal rest induction =>
      have dropped (spans : List Passage) : filter.leavesFrom spans rest ⊆ signal :: rest :=
        List.subset_cons_of_subset _ (induction spans)
      have kept (spans : List Passage) : signal :: filter.leavesFrom spans rest ⊆ signal :: rest :=
        List.cons_subset_cons _ (induction spans)
      cases signal with
      | opened span =>
          rw [leavesFrom]
          split
          · exact kept _
          · exact dropped _
      | happened event =>
          rw [leavesFrom]
          split
          · exact kept _
          · exact dropped _
      | closed =>
          cases spans with
          | nil => exact dropped _
          | cons passage spans =>
              cases passage with
              | taken => exact dropped _
              | left grant? => exact kept _

end Filter

namespace Program

variable {State : Type}

/-- Whatever is left of the signals of making an application and running it, by a filter or in any
other way, and whatever the sink does, every record of it stands under the name of the application,
with its level and its message from what it tells of; and these three are what is read in its line,
whatever fields stand beside them. -/
theorem records_belong_to_the_application (configuration : Configuration) (sink : Sink State)
    (outlet : Outlet State) (count : Nat) (record : Record)
    (recorded :
      (∃ filter, record ∈ (Listener.mk configuration.application.name filter).records
        (signals configuration sink outlet count)) ∨
      ∃ left, left ⊆ signals configuration sink outlet count ∧
        record ∈ Record.listFrom configuration.application.name [] left) :
    record.name = configuration.application.name ∧
      Signal.Tells (signals configuration sink outlet count) record.level record.target
        record.message ∧
      (∀ field ∈ record.fields,
        field.1 ∉ ["v", "name", "hostname", "pid", "level", "time", "msg"]) ∧
      ∀ circumstances : Circumstances, circumstances.milliseconds < Text.wordCount →
        ∃ tree, Json.read? (record.line circumstances).toList = some tree ∧
          tree.get? "name" = some (.scalar none (.text configuration.application.name)) ∧
          tree.get? "msg" = some (.scalar none (.text record.message)) ∧
          tree.get? "level" = some (.scalar none (.int record.level.code)) := by
  have listed : ∃ left, left ⊆ signals configuration sink outlet count ∧
      record ∈ Record.listFrom configuration.application.name [] left := by
    rcases recorded with ⟨filter, heard⟩ | listed
    · exact ⟨_, filter.leavesFrom_subset [] _, heard⟩
    · exact listed
  obtain ⟨left, given, member⟩ := listed
  have none_open : Record.Known (signals configuration sink outlet count) [] :=
    List.forall_mem_nil _
  obtain ⟨named, tells, apart⟩ := Record.listFrom_attributed configuration.application.name
    none_open (fun _ among => given among) record member
  refine ⟨named, tells, apart, ?line⟩
  case line =>
    intro circumstances fits
    have parts := Record.core_of_tree apart circumstances
    rw [named] at parts
    exact ⟨record.tree circumstances, Record.read_line record fits, parts⟩

/-- On a sink that takes everything the beginning of the email is recorded. -/
theorem email_recorded (patterns : Patterns) (configuration : Configuration) {sink : Sink State}
    (willing : sink.Willing) (outlet : Outlet State) :
    Trace.emailStarts configuration ∈
      (Listener.mk configuration.application.name (.upTo patterns (some .info))).records
        (signals configuration sink outlet 1) := by
  let contact := configuration.customer.toCustomer.toContact
  have noticed : signals configuration sink outlet 1 =
      [.happened (Application.builtEvent configuration), .opened (Notice.noticeSpan contact),
        .opened (Notice.emailSpan contact.email contact.name), .closed, .closed,
        .happened Application.processedEvent] := by
    obtain ⟨state, ran⟩ :=
      (Application.ofConfiguration configuration).run_on_willing_sink willing outlet
    rw [signals_eq, Application.runs, Course.times, ran]
    rfl
  have informed : ∀ signal ∈ signals configuration sink outlet 1,
      Application.Informed signal := by
    rw [noticed]
    simp [Application.Informed, Signal.level?, Application.builtEvent, Notice.noticeSpan,
      Notice.emailSpan, Application.processedEvent]
  have nested : Signal.Nested (signals configuration sink outlet 1) := by
    rw [noticed]
    exact .event (.span (.span .nothing .nothing) (.event .nothing))
  rw [Listener.records,
    Filter.leaves_nested nested fun signal member => (informed signal member).admitted patterns,
    noticed, ← (Trace.sending_recorded configuration).1, Record.listFrom_event,
    Record.listFrom_opened, Record.listFrom_opened]
  exact .tail _ (.tail _ (.head _))

/-- The email is sent to a customer whose name stands in a field that is called like the name of
the record, and yet the record keeps the name of the application. -/
theorem name_of_the_customer_replaces_nothing :
    ("name", .text "CustomerName(\"John Doe\")") ∈
        (Notice.emailSpan ⟨Configuration.default.customer.email⟩
          ⟨Configuration.default.customer.name⟩).fields ∧
      Trace.emailStarts .default ∈
        (Listener.mk Configuration.default.application.name (.upTo .words (some .info))).records
          (signals .default Sink.accepting (.start ()) 1) ∧
      ∃ tree,
        Json.read? ((Trace.emailStarts .default).line ⟨"", 0⟩).toList = some tree ∧
          tree.get? "name" = some (.scalar none (.text "customer_notify")) := by
  have recorded := email_recorded .words .default Sink.accepting_willing (.start ())
  obtain ⟨tree, read, name, -⟩ :=
    (records_belong_to_the_application .default Sink.accepting (.start ()) 1 _
      (.inl ⟨_, recorded⟩)).2.2.2 ⟨"", 0⟩ (by decide)
  exact ⟨by decide +kernel, recorded, tree, read, name⟩

end Program
end CustomerNotice
