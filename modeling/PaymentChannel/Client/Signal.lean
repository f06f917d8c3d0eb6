/-!
# Reconnect signals

* `SignalState` : what has become of a signal.
* `SignalRegistry` : the signals waiting for a reconnect, under the names they were registered with.

A name stands for one waiting signal at a time. A signal fires or is retired once and for all;
registering its name again makes a new one.
-/

namespace PaymentChannel

inductive SignalState where
  | pending
  | fired
  | retired
  deriving DecidableEq

def SignalState.text : SignalState → String
  | pending => "pending"
  | fired => "fired"
  | retired => "retired"

/-- Signals in the order in which they were made, and the names of the waiting ones. -/
structure SignalRegistry where
  signals : List SignalState
  waiting : List (String × Nat)
  deriving DecidableEq

namespace SignalRegistry

def empty : SignalRegistry := ⟨[], []⟩

def state? (registry : SignalRegistry) (signal : Nat) : Option SignalState :=
  registry.signals[signal]?

def size (registry : SignalRegistry) : Nat := registry.waiting.length

def isEmpty (registry : SignalRegistry) : Bool := registry.waiting.isEmpty

def isRegistered (registry : SignalRegistry) (name : String) : Bool :=
  (registry.waiting.lookup name).isSome

/-- The signal that waits under the name, made where there is none. -/
def register (registry : SignalRegistry) (name : String) : Nat × SignalRegistry :=
  match registry.waiting.lookup name with
  | some signal => (signal, registry)
  | none =>
    let signal := registry.signals.length
    (signal, ⟨registry.signals ++ [.pending], registry.waiting ++ [(name, signal)]⟩)

/-- Fires the waiting signals. Returns their number. -/
def notifyAll (registry : SignalRegistry) : Nat × SignalRegistry :=
  (registry.size,
    ⟨registry.waiting.foldl (fun signals (_, signal) => signals.set signal .fired) registry.signals,
      []⟩)

/-- Drops the signal that waits under the name without firing it. Returns whether there was one. -/
def retire (registry : SignalRegistry) (name : String) : Bool × SignalRegistry :=
  match registry.waiting.lookup name with
  | some signal =>
    (true, ⟨registry.signals.set signal .retired, registry.waiting.filter (·.1 ≠ name)⟩)
  | none => (false, registry)

end SignalRegistry

end PaymentChannel
