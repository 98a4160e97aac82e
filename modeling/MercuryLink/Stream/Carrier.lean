import MercuryLink.Fault
import MercuryLink.Text.Outline
import MercuryLink.Timespan

/-!
# What carries a stream

A stream runs over a socket pair of the machine or over a network connection. Either accepts a
limit on the time that a read or a write may take, but not a limit of no time at all.
-/

namespace MercuryLink

open Text

/-- What a stream runs over. -/
inductive Carrier where
  /-- A socket pair of the machine. -/
  | machine
  /-- A network connection. -/
  | network
  deriving DecidableEq, Repr

/-- The outline of a stream, with the address across where it is known. -/
def Carrier.outline (carrier : Carrier) (peer : Option String) : String :=
  match carrier with
  | .machine => Outline.record "ApStream" [("type", Outline.text "unix")]
  | .network =>
    Outline.record "ApStream" [("type", Outline.text "tcp"), ("peer", Outline.option peer)]

/-- The longest that a read or a write may take, if that is limited. -/
abbrev TimeLimit := Option Timespan

namespace TimeLimit

/-- Refuse a limit that leaves no time. -/
def check (limit : TimeLimit) : Except Fault Unit :=
  if limit = some ⟨0⟩ then
    .error ⟨.invalidInput, some "cannot set a 0 duration timeout"⟩
  else .ok ()

end TimeLimit

end MercuryLink
