import CustomerNotice.Sink

/-!
Sinks with a capacity: they hold a limited number of octets, take a limited number at a time, and
may interrupt their first calls.
-/

namespace CustomerNotice

/-- `limit` counts all octets held, `chunk` those taken by one call; no limit or chunk means no
bound. Without a `failure` a full sink takes nothing instead of failing. -/
structure BoundedSink where
  limit : Option Nat
  chunk : Option Nat
  failure : Option IoError
  interrupts : Nat
  flushFailure : Option IoError
  held : Nat
  deriving DecidableEq, Repr

namespace BoundedSink

/-- A sink that takes everything. -/
def unlimited : BoundedSink where
  limit := none
  chunk := none
  failure := some (.plain .brokenPipe)
  interrupts := 0
  flushFailure := none
  held := 0

/-- A sink that takes nothing and fails with the given error. -/
def refusing (error : IoError) : BoundedSink :=
  { unlimited with limit := some 0, failure := some error }

/-- How many of `offered` octets the next call takes. -/
def room (sink : BoundedSink) (offered : Nat) : Nat :=
  let offered := match sink.chunk with
    | some chunk => min chunk offered
    | none => offered
  match sink.limit with
  | some limit => min (limit - sink.held) offered
  | none => offered

def write (sink : BoundedSink) (bytes : Bytes) : SinkAnswer × BoundedSink :=
  match sink.interrupts with
  | interrupts + 1 => (.interrupted, { sink with interrupts })
  | 0 =>
      match sink.room bytes.length with
      | 0 =>
          match sink.failure with
          | some error => (.failed error, sink)
          | none => (.taken 0, sink)
      | count + 1 => (.taken (count + 1), { sink with held := sink.held + (count + 1) })

def sink : Sink BoundedSink where
  write := write
  flush := fun state => (state.flushFailure, state)
  patience := interrupts
  patience_lt := by
    intro state bytes after answered
    unfold write at answered
    split at answered
    next interrupts found =>
      cases answered
      simp [found]
    next =>
      split at answered
      · split at answered <;> cases answered
      · cases answered

end BoundedSink
end CustomerNotice
