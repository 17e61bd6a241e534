import JitHost.Value.Table

/-!
# Errors of the host
-/

namespace JitHost

/-- What can go wrong in the host. -/
inductive HostError where
  | invalidKey (fault : KeyFault)
  | notCallable (kind : Kind)
  | stackOverflow (limit : Nat)
  | missingResults (returned available : Nat)
  | raised (message : String)
  deriving DecidableEq

/-- The message of an unusable key. -/
def KeyFault.message (fault : KeyFault) : String := "table index is " ++ fault.name

/-- The message of an error. -/
def HostError.message : HostError → String
  | invalidKey fault => fault.message
  | notCallable kind => "attempt to call a " ++ kind.name ++ " value"
  | stackOverflow limit => "stack overflow (limit is " ++ toString limit ++ " slots)"
  | missingResults returned available =>
      "native function returned " ++ toString returned ++ " results but only " ++
        toString available ++ " are on the stack"
  | raised message => message

end JitHost
