import MercuryLink.Frame

/-!
# Recorders

A recorder takes frames in the place of a stream. It numbers the calls that are made to it,
fails those that a rule names, and keeps the frames of the others.
-/

namespace MercuryLink

/-- A failure that a recorder is told to report. -/
structure RecorderRule where
  /-- The number of the calls that fail, if not any. -/
  call : Option Nat
  /-- The command of the calls that fail, if not any. -/
  command : Option Command
  /-- What they report. -/
  error : FrameError
  deriving DecidableEq, Repr

/-- Whether a rule names a call. -/
def RecorderRule.names (r : RecorderRule) (call : Nat) (f : Frame) : Bool :=
  r.call.all (· = call) && r.command.all (· = f.command)

/-- What takes frames in the place of a stream. -/
structure Recorder where
  /-- The failures to report; the first rule that names a call decides. -/
  rules : List RecorderRule
  /-- How many calls were made. -/
  calls : Nat
  /-- The frames of the calls that succeeded, oldest first. -/
  frames : List Frame
  deriving DecidableEq, Repr

namespace Recorder

/-- A recorder that has taken nothing yet. -/
def ofRules (rules : List RecorderRule) : Recorder := ⟨rules, 0, []⟩

/-- Take a frame. -/
def write (r : Recorder) (f : Frame) : Recorder × Except FrameError Unit :=
  let after := { r with calls := r.calls + 1 }
  match r.rules.find? (·.names r.calls f) with
  | some rule => (after, .error rule.error)
  | none => ({ after with frames := r.frames ++ [f] }, .ok ())

end Recorder

end MercuryLink
