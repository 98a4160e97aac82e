import MercuryLink.Mercury.Error

/-!
# Exit codes

What the command line returns to its caller, and what each failure of the layers below comes
to. A failure to connect is reported by its cause.
-/

namespace MercuryLink.Console

/-- The code that a command returns. -/
inductive ExitCode where
  | success | failure | transport | permissionDenied | badData | usage | timeout | internal
  /-- The command was broken off, and nothing is reported as its error. -/
  | brokenOff
  deriving DecidableEq, Repr

/-- The number of a code. -/
def ExitCode.toNat : ExitCode → Nat
  | success => 0
  | failure => 1
  | transport => 3
  | permissionDenied => 50
  | badData => 60
  | usage => 64
  | timeout => 124
  | internal => 125
  | brokenOff => 101

/-- Why a command failed. -/
structure Failure where
  /-- The code returned. -/
  code : ExitCode
  /-- The text reported. -/
  message : String
  deriving DecidableEq, Repr

namespace Failure

/-- A failure of what the caller wrote. -/
def usage (message : String) : Failure := ⟨.usage, message⟩

/-- The code of a fault. -/
def faultCode : FaultKind → ExitCode
  | .permissionDenied => .permissionDenied
  | .timedOut | .wouldBlock => .timeout
  | .connectionRefused => .transport
  | _ => .internal

/-- The code of a failure to reach an access point. -/
def dialCode : DialError → ExitCode
  | .connect _ fault | .io fault => faultCode fault.kind
  | .resolve _ | .exhausted _ | .invalidAddress _ _ | .shutdown => .transport

/-- A text with what was going on in front. -/
def inContext (context text : String) : String := context ++ ": " ++ text

/-- A failure to reach an access point. -/
def ofDial (context : String) (e : DialError) : Failure :=
  ⟨dialCode e, inContext context e.message⟩

/-- The code of a failure of the link. -/
def linkCode : LinkError → ExitCode
  | .connect e => dialCode e
  | .timeout _ => .timeout
  | .transport _ | .closed => .transport
  | .authentication _ | .malformed _ | .badMessage _ | .unencodable _ => .badData
  | .status _ _ | .rejected => .failure
  | .spawn _ => .internal

/-- The text of a failure of the link. -/
def linkText : LinkError → String
  | .connect e => e.message
  | e => e.message

/-- A failure of the link. -/
def ofLink (context : String) (e : LinkError) : Failure :=
  ⟨linkCode e, inContext context (linkText e)⟩

end Failure

end MercuryLink.Console
