import MercuryLink.Endpoint.Address
import MercuryLink.Timespan

/-!
# Reaching an access point

A directory names candidate addresses, in order of preference. A dialer tries them one after
the other and takes the first connection that is made. A network is given by its answer to
each attempt.
-/

namespace MercuryLink

/-- Candidate addresses that can be replaced, and whether the built-in access point stands in
when there are none. -/
structure Directory where
  /-- The addresses known. -/
  known : List String
  /-- Whether the built-in access point stands in for an empty list. -/
  fallback : Bool
  deriving DecidableEq, Repr

namespace Directory

/-- The built-in access point. -/
def builtin : String := "ap.spotify.com:443"

/-- Replace the addresses known. -/
def update (d : Directory) (known : List String) : Directory := { d with known }

/-- The candidate addresses. -/
def candidates (d : Directory) : Except DialError (List String) :=
  if !d.known.isEmpty then .ok d.known
  else if d.fallback then .ok [builtin]
  else .error (.resolve "no cached access points and fallback disabled")

end Directory

/-- How to connect. -/
structure DialSettings where
  /-- The time that each attempt may take. -/
  timeout : Timespan
  /-- Whether small writes are sent at once. -/
  noDelay : Bool
  deriving DecidableEq, Repr

namespace DialSettings

/-- The settings in force unless it is said otherwise. -/
def standard : DialSettings := ⟨.ofSeconds 5, true⟩

end DialSettings

/-- What a network answers to an attempt to connect: a connection, or a fault. -/
abbrev Network (κ : Type) := DialSettings → Address → Except Fault κ

namespace Network

/-- The fault of every attempt without a network. -/
def unreachable : Fault :=
  ⟨.networkUnreachable, some "Network is unreachable (os error 101)"⟩

/-- A network that reaches nothing. -/
def isolated (κ : Type) : Network κ := fun _ _ => .error unreachable

/-- The fault of a host name that cannot be looked up. -/
def badHost : Fault :=
  ⟨.invalidInput, some "file name contained an unexpected NUL byte"⟩

variable {κ : Type}

/-- Connect to one address. -/
def dial (net : Network κ) (settings : DialSettings) (text : String) : Except DialError κ :=
  match Address.ofText text with
  | .error e => .error e
  | .ok address =>
    if address.host.toList.contains '\x00' then .error (.connect text badHost)
    else
      match net settings address with
      | .error fault => .error (.connect text fault)
      | .ok connection => .ok connection

/-- The first address of a list that can be connected to, with its connection. -/
def firstReached? (net : Network κ) (settings : DialSettings) :
    List String → Option (κ × String)
  | [] => none
  | text :: rest =>
    match net.dial settings text with
    | .ok connection => some (connection, text)
    | .error _ => firstReached? net settings rest

/-- Connect to the first candidate that can be reached. -/
def dialAny (net : Network κ) (settings : DialSettings)
    (candidates : Except DialError (List String)) : Except DialError (κ × String) :=
  match candidates with
  | .error e => .error e
  | .ok [] => .error (.resolve "resolver returned no candidates")
  | .ok (text :: rest) =>
    match net.firstReached? settings (text :: rest) with
    | some reached => .ok reached
    | none => .error (.exhausted (text :: rest))

end Network

end MercuryLink
