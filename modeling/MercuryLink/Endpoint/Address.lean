import MercuryLink.Endpoint.Error
import MercuryLink.Text.Decimal

/-!
# Access point addresses

An address is a host and a port, joined by the last colon of its text.
-/

namespace MercuryLink

/-- Where an access point listens. -/
structure Address where
  /-- The host, by name or number. -/
  host : String
  /-- The port. -/
  port : Nat
  deriving DecidableEq, Repr

namespace Address

/-- The largest port. -/
def maxPort : Nat := 65535

/-- A text before and after its last colon. -/
def splitAtLastColon? (text : String) : Option (String × String) :=
  let reversed := text.toList.reverse
  match reversed.dropWhile (· ≠ ':') with
  | [] => none
  | _ :: host =>
    some (String.ofList host.reverse, String.ofList (reversed.takeWhile (· ≠ ':')).reverse)

/-- Read an address. Its parts are judged from left to right. -/
def ofText (text : String) : Except DialError Address :=
  match splitAtLastColon? text with
  | none => .error (.invalidAddress text "missing ':port'")
  | some (host, port) =>
    if host.isEmpty then .error (.invalidAddress text "empty host")
    else
      match Text.Decimal.read maxPort port with
      | .error _ => .error (.invalidAddress text ("invalid port '" ++ port ++ "'"))
      | .ok port => .ok ⟨host, port⟩

end Address

end MercuryLink
