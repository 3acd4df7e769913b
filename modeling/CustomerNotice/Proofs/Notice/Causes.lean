import CustomerNotice.Notice

/-!
# What an error shows of the errors behind it

An error leads to the one that lies directly behind it, and this one to the next, until one has
nothing behind it. Shown in full, an error is its own text and a block for everything that is met
on this way. An email that could not be sent speaks for the whole notice and leads on in its
place, so that it is not met a second time.
-/

namespace CustomerNotice

/-- Any error on the way from a notice that failed to the last cause. -/
inductive Fault
  | notice (error : NoticeError)
  | sending (error : SendError)
  | writing (error : IoError)
  | cause (text : String) (causes : List String)
  deriving DecidableEq

namespace Fault

def sendingText (error : SendError) : String :=
  "Failed to send notification email to " ++ error.recipient

def text : Fault → String
  | notice (.output _) => "Failed to write customer details"
  | notice (.email error) => sendingText error
  | sending error => sendingText error
  | writing error => error.text
  | cause text _ => text

def first? : List String → Option Fault
  | [] => none
  | text :: causes => some (cause text causes)

/-- The error that lies directly behind. -/
def source? : Fault → Option Fault
  | notice (.output source) => some (writing source)
  | notice (.email error) => some (writing error.source)
  | sending error => some (writing error.source)
  | writing error => first? error.causes
  | cause _ causes => first? causes

def depth : Fault → Nat
  | notice (.output source) => source.causes.length + 1
  | notice (.email error) => error.source.causes.length + 1
  | sending error => error.source.causes.length + 1
  | writing error => error.causes.length
  | cause _ causes => causes.length

theorem depth_first {causes : List String} {source : Fault} (found : first? causes = some source) :
    source.depth + 1 = causes.length := by
  cases causes with
  | nil => contradiction
  | cons text later =>
      cases found
      rfl

theorem depth_source {fault source : Fault} (found : fault.source? = some source) :
    source.depth + 1 = fault.depth := by
  cases fault with
  | notice error => cases error <;> cases found <;> rfl
  | sending error => cases found; rfl
  | writing error => exact depth_first found
  | cause text causes => exact depth_first found

/-- All errors behind an error, outermost first: goes from each to the one behind it. -/
def sources (fault : Fault) : List Fault :=
  match _found : fault.source? with
  | none => []
  | some source => source :: sources source
  termination_by fault.depth
  decreasing_by
    have nearer := depth_source _found
    omega

/-- The error as one that goes through the errors behind it finds it. -/
def chain (fault : Fault) : ErrorChain := ⟨fault.text, fault.sources.map text⟩

theorem sources_of_source {fault source : Fault} (found : fault.source? = some source) :
    fault.sources = source :: source.sources := by
  rw [sources]
  split
  · next nothing =>
      rw [found] at nothing
      contradiction
  · next other also =>
      rw [found, Option.some.injEq] at also
      rw [also]

theorem sources_of_last {fault : Fault} (last : fault.source? = none) : fault.sources = [] := by
  rw [sources]
  split
  · rfl
  · next source found =>
      rw [last] at found
      contradiction

/-- Each of some causes is met once, in their order. -/
theorem texts_of_first {fault : Fault} {causes : List String}
    (leads : fault.source? = first? causes) : fault.sources.map text = causes := by
  induction causes generalizing fault with
  | nil => rw [sources_of_last leads, List.map_nil]
  | cons cause later induction =>
      have further : (Fault.cause cause later).sources.map text = later := induction rfl
      rw [sources_of_source leads, List.map_cons, further]
      rfl

theorem texts_of_writing (error : IoError) : (writing error).sources.map text = error.causes :=
  texts_of_first rfl

theorem texts_of_source {fault : Fault} {error : IoError}
    (leads : fault.source? = some (writing error)) :
    fault.sources.map text = error.text :: error.causes := by
  rw [sources_of_source leads, List.map_cons, texts_of_writing]
  rfl

end Fault

theorem SendError.chain_is_followed (error : SendError) :
    error.chain = (Fault.sending error).chain := by
  rw [Fault.chain, Fault.texts_of_source rfl]
  rfl

theorem NoticeError.chain_is_followed (error : NoticeError) :
    error.chain = (Fault.notice error).chain := by
  cases error with
  | output source =>
      rw [Fault.chain, Fault.texts_of_source rfl]
      rfl
  | email error =>
      rw [Fault.chain, Fault.texts_of_source rfl]
      rfl

namespace ErrorChain

def blocks (causes : List String) : List String :=
  causes.map fun cause => "Caused by:\n\t" ++ cause ++ "\n"

theorem render_eq (chain : ErrorChain) :
    chain.render = chain.text ++ "\n\n" ++ String.join (blocks chain.causes) := rfl

end ErrorChain

/-- A failure of the output with any causes of its own is shown in one block, and each of its
causes in one, whether it struck in the details or in the email. What is reported of an error is
what is met on the way through the errors behind it. A failed email is reported the same by itself
and as the failure of the whole notice. -/
theorem NoticeError.every_cause_is_shown_once (failure : IoError) (recipient : String) :
    let causes := failure.text :: failure.causes
    let undetailed := NoticeError.output failure
    let unsent : SendError := ⟨recipient, failure⟩
    let unnotified := NoticeError.email unsent
    (ErrorChain.blocks causes).length = failure.causes.length + 1 ∧
    (undetailed.chain = (Fault.notice undetailed).chain ∧
      undetailed.chain.render = "Failed to write customer details" ++ "\n\n" ++
        String.join (ErrorChain.blocks causes)) ∧
    (unsent.chain = (Fault.sending unsent).chain ∧
      unsent.chain.render = "Failed to send notification email to " ++ recipient ++ "\n\n" ++
        String.join (ErrorChain.blocks causes)) ∧
    unnotified.chain = (Fault.notice unnotified).chain ∧
      (Fault.notice unnotified).text = (Fault.sending unsent).text ∧
      (Fault.notice unnotified).sources = (Fault.sending unsent).sources ∧
      unnotified.chain = unsent.chain ∧ unnotified.chain.render = unsent.chain.render := by
  intro causes undetailed unsent unnotified
  have behind : (Fault.sending unsent).sources =
      .writing failure :: (Fault.writing failure).sources := Fault.sources_of_source rfl
  have met : (Fault.notice unnotified).sources = (Fault.sending unsent).sources := by
    rw [behind]
    exact Fault.sources_of_source rfl
  have same : unnotified.chain = unsent.chain := by
    rw [unnotified.chain_is_followed, unsent.chain_is_followed, Fault.chain, Fault.chain, met]
    rfl
  refine ⟨?count, ⟨undetailed.chain_is_followed, ?details⟩, ⟨unsent.chain_is_followed, ?email⟩,
    unnotified.chain_is_followed, rfl, met, same, ?wrapped⟩
  case count => rw [ErrorChain.blocks, List.length_map, List.length_cons]
  case details => rw [ErrorChain.render_eq]; rfl
  case email => rw [ErrorChain.render_eq]; rfl
  case wrapped => rw [same]

example :
    (NoticeError.email ⟨"ada", .detailed .brokenPipe "gone" ["reset"]⟩).chain.render =
      "Failed to send notification email to ada\n\n" ++
        "Caused by:\n\tgone\nCaused by:\n\treset\n" := by decide

end CustomerNotice
