import CustomerNotice.IoError
import CustomerNotice.Text.Bytes

/-!
Outputs that accept octets piece by piece. A sink answers each write by taking a part of what it
is offered, by asking to be called again, or by failing; the loop here offers the remainder until
everything is taken or the sink fails.
-/

namespace CustomerNotice

/-- The answer to one write. Taking nothing means that the sink can make no progress. -/
inductive SinkAnswer
  | taken (count : Nat)
  | interrupted
  | failed (error : IoError)
  deriving DecidableEq, Repr

/-- A sink interrupts only finitely often in a row: each time it does, its patience shrinks. -/
structure Sink (State : Type) where
  write : State → Bytes → SinkAnswer × State
  flush : State → Option IoError × State
  patience : State → Nat
  patience_lt : ∀ state bytes after,
    write state bytes = (.interrupted, after) → patience after < patience state

/-- A sink in use: its state, the octets it has taken so far and the flushes it was asked for. -/
structure Outlet (State : Type) where
  state : State
  output : Bytes
  flushes : Nat

namespace Outlet

def start {State : Type} (state : State) : Outlet State := ⟨state, [], 0⟩

end Outlet

namespace Sink

variable {State : Type}

def writeAll (sink : Sink State) (outlet : Outlet State) (bytes : Bytes) :
    Option IoError × Outlet State :=
  match bytes with
  | [] => (none, outlet)
  | byte :: rest =>
      match _answered : sink.write outlet.state (byte :: rest) with
      | (.taken 0, state) => (some .noProgress, { outlet with state })
      | (.taken (count + 1), state) =>
          sink.writeAll { outlet with state, output := outlet.output ++ (byte :: rest.take count) }
            (rest.drop count)
      | (.interrupted, state) => sink.writeAll { outlet with state } (byte :: rest)
      | (.failed error, state) => (some error, { outlet with state })
  termination_by (bytes.length, sink.patience outlet.state)
  decreasing_by
    · apply Prod.Lex.left
      simp only [List.length_drop, List.length_cons]
      omega
    · apply Prod.Lex.right
      exact sink.patience_lt _ _ _ _answered

def print (sink : Sink State) (outlet : Outlet State) : List String → Option IoError × Outlet State
  | [] => (none, outlet)
  | fragment :: rest =>
      match sink.writeAll outlet (Bytes.ofText fragment) with
      | (none, outlet) => sink.print outlet rest
      | (some error, outlet) => (some error, outlet)

def flushOutlet (sink : Sink State) (outlet : Outlet State) : Option IoError × Outlet State :=
  let (failure, state) := sink.flush outlet.state
  (failure, { outlet with state, flushes := outlet.flushes + 1 })

end Sink
end CustomerNotice
