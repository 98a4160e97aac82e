import MercuryLink.Text.Outline

/-!
# Faults of a byte stream

What a read, a write, a flush or a connection attempt can report instead of succeeding.
-/

namespace MercuryLink

/-- The class of a fault. -/
inductive FaultKind where
  | interrupted | wouldBlock | timedOut | connectionReset | connectionRefused
  | connectionAborted | notConnected | brokenPipe | permissionDenied | unexpectedEnd
  | invalidInput | invalidData | addressNotAvailable | networkUnreachable | unsupported | other
  deriving DecidableEq, Repr

namespace FaultKind

/-- The name of the class. -/
def name : FaultKind → String
  | interrupted => "Interrupted"
  | wouldBlock => "WouldBlock"
  | timedOut => "TimedOut"
  | connectionReset => "ConnectionReset"
  | connectionRefused => "ConnectionRefused"
  | connectionAborted => "ConnectionAborted"
  | notConnected => "NotConnected"
  | brokenPipe => "BrokenPipe"
  | permissionDenied => "PermissionDenied"
  | unexpectedEnd => "UnexpectedEof"
  | invalidInput => "InvalidInput"
  | invalidData => "InvalidData"
  | addressNotAvailable => "AddrNotAvailable"
  | networkUnreachable => "NetworkUnreachable"
  | unsupported => "Unsupported"
  | other => "Other"

/-- The text of a fault that has no text of its own. -/
def text : FaultKind → String
  | interrupted => "operation interrupted"
  | wouldBlock => "operation would block"
  | timedOut => "timed out"
  | connectionReset => "connection reset"
  | connectionRefused => "connection refused"
  | connectionAborted => "connection aborted"
  | notConnected => "not connected"
  | brokenPipe => "broken pipe"
  | permissionDenied => "permission denied"
  | unexpectedEnd => "unexpected end of file"
  | invalidInput => "invalid input parameter"
  | invalidData => "invalid data"
  | addressNotAvailable => "address not available"
  | networkUnreachable => "network unreachable"
  | unsupported => "unsupported"
  | other => "other error"

/-- Every class. -/
def all : List FaultKind :=
  [interrupted, wouldBlock, timedOut, connectionReset, connectionRefused, connectionAborted,
    notConnected, brokenPipe, permissionDenied, unexpectedEnd, invalidInput, invalidData,
    addressNotAvailable, networkUnreachable, unsupported, other]

/-- The class of the given name. -/
def ofName? (name : String) : Option FaultKind := all.find? (·.name = name)

end FaultKind

/-- A fault: its class and, where it has one, a text of its own. -/
structure Fault where
  /-- The class. -/
  kind : FaultKind
  /-- A more precise text than that of the class. -/
  detail : Option String
  deriving DecidableEq, Repr

namespace Fault

/-- A fault with no text of its own. -/
def ofKind (kind : FaultKind) : Fault := ⟨kind, none⟩

/-- The text of a fault. -/
def message (f : Fault) : String := f.detail.getD f.kind.text

/-- The outline of a fault. -/
def outline (f : Fault) : String :=
  match f.detail with
  | none => Text.Outline.variant "Kind" [f.kind.name]
  | some text =>
    Text.Outline.record "Custom" [("kind", f.kind.name), ("error", Text.Outline.text text)]

/-- A transient fault: the same call is simply made again. -/
def isTransient (f : Fault) : Bool := f.kind = .interrupted

/-- A fault that only says that no byte arrived in time. -/
def isIdle (f : Fault) : Bool := f.kind = .wouldBlock || f.kind = .timedOut

end Fault

end MercuryLink
