import MercuryLink.Fault

/-!
# Endpoint errors

What can go wrong on the way to an access point, and on the stream to it.
-/

namespace MercuryLink

/-- A failure to reach an access point or to drive the stream to it. -/
inductive DialError where
  /-- An address could not be connected to. -/
  | connect (address : String) (fault : Fault)
  /-- No address could be offered. -/
  | resolve (reason : String)
  /-- Every address was tried in vain. -/
  | exhausted (attempts : List String)
  /-- An address is not a host and a port. -/
  | invalidAddress (address reason : String)
  /-- The stream reported a fault. -/
  | io (fault : Fault)
  /-- The stream was shut down. -/
  | shutdown
  deriving DecidableEq, Repr

namespace DialError

open Text

/-- The name of a failure. -/
def name : DialError → String
  | connect _ _ => "Connect"
  | resolve _ => "Resolve"
  | exhausted _ => "Exhausted"
  | invalidAddress _ _ => "InvalidAddress"
  | io _ => "Io"
  | shutdown => "Shutdown"

/-- What is reported about a failure. -/
def message : DialError → String
  | connect address fault => "failed to connect to " ++ address ++ ": " ++ fault.message
  | resolve reason => "access point resolution failed: " ++ reason
  | exhausted attempts =>
    "no access point reachable (" ++ Nat.repr attempts.length ++ " candidates tried)"
  | invalidAddress address reason =>
    "invalid access point address '" ++ address ++ "': " ++ reason
  | io fault => "transport I/O error: " ++ fault.message
  | shutdown => "transport shut down"

/-- The outline of a failure. -/
def outline (e : DialError) : String :=
  match e with
  | connect address fault =>
    Outline.record e.name [("addr", Outline.text address), ("source", fault.outline)]
  | resolve reason => Outline.variant e.name [Outline.text reason]
  | exhausted attempts =>
    Outline.record e.name [("attempts", Outline.list (attempts.map Outline.text))]
  | invalidAddress address reason =>
    Outline.record e.name [("addr", Outline.text address), ("reason", Outline.text reason)]
  | io fault => Outline.variant e.name [fault.outline]
  | shutdown => e.name

end DialError

end MercuryLink
