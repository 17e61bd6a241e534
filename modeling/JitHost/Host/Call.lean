import JitHost.Host.Stack

/-!
# Calls of native functions

A call opens a frame that holds the arguments, runs the function, and closes the
frame again. The function answers with the number of its results, which lie on
top of its frame; a negative answer or a recorded message is a failure. What runs
is a parameter: any computation that takes a host to a status and a host.
-/

namespace JitHost

namespace Host

/-- The host as the called function finds it: a new frame with the arguments. -/
def enter (h : Host) (args : List Value) : Except HostError Host :=
  if h.fits args.length then
    .ok { h with base := h.stack.size, stack := h.stack ++ args.toArray }
  else .error (.stackOverflow h.limit)

/-- The outcome of the running function with the given status. A recorded
message comes before the status, and a bad status before missing results. -/
def outcome (h : Host) (status : Int) : Except HostError (List Value) :=
  match h.pending with
  | some message => .error (.raised message)
  | none =>
      if status < 0 then
        .error (.raised ("native function failed with status " ++ toString status))
      else
        let wanted := status.toNat
        if h.top < wanted then .error (.missingResults wanted h.top)
        else .ok (h.stack.toList.drop (h.stack.size - wanted))

/-- Closes the frame of the running function and goes back to the caller's,
which begins at `callerBase`. The recorded message is taken. -/
def leave (h : Host) (callerBase : Nat) (status : Int) :
    Except HostError (List Value) × Host :=
  (h.outcome status,
    { h with stack := h.stack.take h.base, base := callerBase, pending := none })

/-- A call of the native function that `body` runs. -/
def callNative [Monad m] (h : Host) (body : Host → m (Int × Host)) (args : List Value) :
    m (Except HostError (List Value) × Host) :=
  match h.enter args with
  | .error fault => pure (.error fault, h)
  | .ok inner => do
      let (status, after) ← body inner
      pure (after.leave h.base status)

/-- A call of a value, which has to be a function; `run` says what the function
at an address does. -/
def call [Monad m] (h : Host) (run : Address → Host → m (Int × Host)) (function : Value)
    (args : List Value) : m (Except HostError (List Value) × Host) :=
  match function with
  | .function entry => h.callNative (run entry) args
  | other => pure (.error (.notCallable other.kind), h)

end Host

end JitHost
