import MercuryLink.Console.Command
import MercuryLink.Console.Help
import MercuryLink.Mercury.Line

/-!
# Carrying out commands

What a command shows and how it ends, given its surroundings: the environment, the network, the
clock and the build. Settings are judged before anything is tried: the time for a response, the
time to connect, then the keys.
-/

namespace MercuryLink.Console

open Text

/-- What a build knows about itself. -/
structure Build where
  /-- What it was built for. -/
  target : String
  /-- The operating system. -/
  system : String
  /-- The processor. -/
  processor : String
  deriving DecidableEq, Repr

/-- What surrounds the program. -/
structure Surroundings where
  /-- The variables of the environment. -/
  environment : String → Option String
  /-- Whether what is shown goes to a terminal. -/
  terminal : Bool
  /-- The network. -/
  network : Network Connection
  /-- The time of day, in seconds. -/
  time : String
  /-- What is known about the build. -/
  build : Build

/-- What a command leaves behind. -/
structure Report where
  /-- What is shown. -/
  output : Bytes
  /-- How it ends. -/
  result : Except Failure ExitCode

namespace Report

/-- A success that shows something. -/
def success (output : Bytes) : Report := ⟨output, .ok .success⟩

/-- A failure before anything is shown. -/
def failed (f : Failure) : Report := ⟨[], .error f⟩

/-- A command that was broken off before anything was shown. -/
def brokenOff : Report := ⟨[], .ok .brokenOff⟩

/-- A call that was not taken on, or did not succeed. One that would end beyond the clock breaks the
command off. -/
def refused (context : String) : Refusal → Report
  | .failed e => .failed (.ofLink context e)
  | .beyondClock => .brokenOff

/-- The number returned. -/
def code (r : Report) : Nat :=
  match r.result with
  | .ok code => code.toNat
  | .error f => f.code.toNat

/-- The line reported on failure. -/
def complaint (r : Report) : Option String :=
  match r.result with
  | .ok _ => none
  | .error f => some ("error: " ++ f.message)

end Report

/-- The version of the program. -/
def versionNumber : String := "0.1.0"

/-- The version on one line. -/
def versionLine : String := programName ++ " " ++ versionNumber

/-- Everything that is known about the version. -/
def versionLines (b : Build) : List String :=
  ["name: " ++ programName, "version: " ++ versionNumber, "build_target: " ++ b.target,
    "target_os: " ++ b.system, "target_arch: " ++ b.processor,
    "features: mercury=true, async=false, cli=true",
    "max_frame_payload: " ++ Outline.nat Frame.maxPayload]

namespace LinkChoice

/-- The keys of a session. -/
def keys (c : LinkChoice) : Except Failure SessionKeys := do
  let send ← readKey "--send-key" c.sendKey
  let receive ← readKey "--recv-key" c.receiveKey
  return ⟨send, receive⟩

/-- Reach an access point and start a session. -/
def connect (net : Network Connection) (c : LinkChoice) (settings : SessionSettings) :
    Except Failure Line := do
  let timeout ← readSpan c.connectSpan
  let settings := { settings with dial := { settings.dial with timeout } }
  let keys ← c.keys
  (Line.connect net keys settings c.access.directory.candidates).mapError
    (.ofLink "connect failed")

end LinkChoice

namespace Command

/-- Show the access points. -/
def runResolve (access : AccessChoice) (format : Format) : Report :=
  match access.directory.candidates with
  | .ok candidates => .success (Display.candidates candidates format)
  | .error e => .failed (.ofDial "resolve failed" e)

/-- Show a response. -/
def showResponse (time : String) (m : Message) (failOnStatus : Bool) (format : Format) : Report :=
  ⟨Display.message "response" time m format,
    .ok (if failOnStatus && m.isFailure then .failure else .success)⟩

/-- Send a request and show its response. -/
def runGet (s : Surroundings) (link : LinkChoice) (r : Request) (span : String)
    (failOnStatus : Bool) (format : Format) : Report :=
  let opened : Except Failure (Line × Timespan) := do
    let timeout ← readSpan span
    let line ← link.connect s.network { SessionSettings.standard with requestSpan := timeout }
    return (line, timeout)
  match opened with
  | .error f => .failed f
  | .ok (line, timeout) =>
    match (line.fetch r timeout).2 with
    | .error e => .refused "request failed" e
    | .ok m => showResponse s.time m failOnStatus format

/-- Subscribe to a stem and show its pushes. -/
def runSubscribe (s : Surroundings) (link : LinkChoice) (stem : String) (count : Option Nat)
    (format : Format) : Report :=
  match link.connect s.network .standard with
  | .error f => .failed f
  | .ok line =>
    match line.subscribe stem with
    | (_, .error e) => .refused "subscribe failed" e
    | (line, .ok listener) =>
      let (_, pushes, failure) := line.watch listener count
      ⟨pushes.flatMap fun m => Display.message "push" s.time m format,
        match failure with
        | none => .ok .success
        | some e => .error (.ofLink "session ended" e)⟩

/-- Show the version. -/
def runVersion (b : Build) (extended : Bool) : Report :=
  .success (Display.written (if extended then versionLines b else [versionLine]))

/-- Carry a command out. -/
def run (s : Surroundings) (format : Format) : Command → Report
  | .resolve access => runResolve access format
  | .get link r span failOnStatus => runGet s link r span failOnStatus format
  | .subscribe link stem count => runSubscribe s link stem count format
  | .version extended => runVersion s.build extended

end Command

/-- Carry a command line out. -/
def execute (s : Surroundings) (arguments : List String) : Except UsageError Report := do
  let i ← Invocation.read s.environment arguments
  return i.command.run s (i.format.getD (.standard s.terminal))

/-- What the program does in the end. -/
structure Response where
  /-- The code returned. -/
  code : Nat
  /-- What is shown. -/
  output : Bytes
  /-- What is reported. -/
  complaint : Option String

/-- The first line of a report, without the characters that end it. -/
def Response.headline (r : Response) : Option String :=
  r.complaint.map fun text =>
    let line := text.toList.takeWhile (· != '\n')
    String.ofList (if line.getLast? = some '\r' then line.dropLast else line)

/-- What is shown on a use that is not carried out. -/
def UsageError.output (environment : String → Option String) : UsageError → Bytes
  | .help command => Display.written [unstyled (program.helpText environment command)]
  | .version => Display.written [versionLine]
  | _ => []

/-- Carry a command line out, or report why not. -/
def respond (s : Surroundings) (arguments : List String) : Response :=
  match execute s arguments with
  | .ok r => ⟨r.code, r.output, r.complaint⟩
  | .error e => ⟨e.code, e.output s.environment, e.report?⟩

end MercuryLink.Console
