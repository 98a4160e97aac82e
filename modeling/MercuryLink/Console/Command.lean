import MercuryLink.Console.Arguments
import MercuryLink.Console.Display
import MercuryLink.Console.Setting
import MercuryLink.Endpoint.Dial
import MercuryLink.Mercury.Error

/-!
# Commands

The commands of the program, what each is given, and the options under which it is given them.
Spans of time and keys are kept as they were written; they are read when the command is
carried out.
-/

namespace MercuryLink.Console

open Text

/-- Which access points are tried. -/
structure AccessChoice where
  /-- The addresses given. -/
  points : List String
  /-- Whether the built-in access point stands in for an empty list. -/
  fallback : Bool
  deriving DecidableEq, Repr

/-- The directory of a choice of access points. -/
def AccessChoice.directory (c : AccessChoice) : Directory := ⟨c.points, c.fallback⟩

/-- How a session is opened, as it was written. -/
structure LinkChoice where
  /-- Which access points are tried. -/
  access : AccessChoice
  /-- The key of what is sent. -/
  sendKey : String
  /-- The key of what is received. -/
  receiveKey : String
  /-- The time for each attempt to connect. -/
  connectSpan : String
  deriving DecidableEq, Repr

/-- A command with everything it is given. -/
inductive Command where
  /-- Show the access points in the order in which they are tried. -/
  | resolve (access : AccessChoice)
  /-- Send a request and show its response. -/
  | get (link : LinkChoice) (request : Request) (span : String) (failOnStatus : Bool)
  /-- Subscribe to a stem and show pushes, perhaps no more than a count of them. -/
  | subscribe (link : LinkChoice) (stem : String) (count : Option Nat)
  /-- Show the version. -/
  | version (extended : Bool)
  deriving DecidableEq, Repr

/-- A command and the format of what it shows, if one is chosen. -/
structure Invocation where
  /-- The format. -/
  format : Option Format
  /-- The command. -/
  command : Command
  deriving DecidableEq, Repr

/-- The method of a plain request. -/
def readMethod (text : String) : Except String Method :=
  match Method.ofName? text with
  | some .get => .ok .get
  | some .send => .ok .send
  | some m => .error (m.name ++ " is issued by the subscribe command")
  | none => .error (LinkError.badMessage (Method.unknownMessage text)).message

/-- The largest count of pushes. -/
def largestPushCount : Nat := UInt64.size - 1

/-- A count of pushes. -/
def readCount (text : String) : Except String Nat :=
  (Decimal.read largestPushCount text).mapError (·.message)

/-- The problem with a value that cannot be read. -/
def problem {α : Type} (r : Except String α) : Option String :=
  match r with
  | .ok _ => none
  | .error reason => some reason

/-! ### Options -/

namespace OptionRule

/-- The choice of a format. -/
def format : OptionRule where
  name := "format"
  kind := .single "FORMAT" (.oneOf (Format.all.map (·.name)))
  about := "Output format"

/-- The choice of how log lines look. -/
def logFormat : OptionRule where
  name := "log-format"
  kind := .single "FORMAT" (.oneOf ["text", "json"])
  about := "Log output format (stderr)"
  standard := some "text"

/-- The choice of the least level of a log line. -/
def logLevel : OptionRule where
  name := "log-level"
  kind := .single "LEVEL" (.oneOf ["error", "warn", "info", "debug", "trace"])
  about := "Minimum log level (stderr)"
  standard := some "warn"

/-- Access points to try. -/
def accessPoints : OptionRule where
  name := "ap"
  kind := .list "ACCESS_POINTS" (some ',')
  about := "Access points to try, in order (host:port, comma-separated)"
  standIn := some ⟨"SPOTWIRE_AP", true⟩

/-- A wish to do without the built-in access point. -/
def noFallback : OptionRule where
  name := "no-fallback"
  kind := .flag
  about := "Do not fall back to the built-in access point"

/-- The key of what is sent. -/
def sendKey : OptionRule where
  name := "send-key"
  kind := .single "SEND_KEY" .anything
  about := "Hex-encoded client-to-server key"
  standIn := some ⟨"SPOTWIRE_SEND_KEY", false⟩
  required := true

/-- The key of what is received. -/
def receiveKey : OptionRule where
  name := "recv-key"
  kind := .single "RECV_KEY" .anything
  about := "Hex-encoded server-to-client key"
  standIn := some ⟨"SPOTWIRE_RECV_KEY", false⟩
  required := true

/-- The time for each attempt to connect. -/
def connectSpan : OptionRule where
  name := "connect-timeout"
  kind := .single "CONNECT_TIMEOUT" .anything
  about := "TCP connect timeout per candidate (e.g. 5s, 500ms)"
  standard := some "5s"

/-- The method of a request. -/
def method : OptionRule where
  name := "method"
  kind := .single "METHOD" (.checked fun text => problem (readMethod text))
  about := "Request method (GET or SEND)"
  standard := some "GET"

/-- A part of a request. -/
def part : OptionRule where
  name := "part"
  kind := .list "PARTS" none
  about := "Payload parts sent after the header (repeatable)"

/-- The time for the response. -/
def span : OptionRule where
  name := "timeout"
  kind := .single "TIMEOUT" .anything
  about := "Request deadline (e.g. 10s, 500ms)"
  standard := some "10s"

/-- A wish to take a status that reports a failure for one. -/
def failOnStatus : OptionRule where
  name := "fail-on-status"
  kind := .flag
  about := "Exit non-zero when the response status is 400 or above"

/-- The number of pushes to wait for. -/
def count : OptionRule where
  name := "count"
  kind := .single "COUNT" (.checked fun text => problem (readCount text))
  about := "Exit after receiving N pushes"

/-- A wish to know more than the version. -/
def extended : OptionRule where
  name := "extended"
  kind := .flag
  about := "Show extended build provenance"

/-- The options that choose access points. -/
def access : List OptionRule := [accessPoints, noFallback]

/-- The options that open a session. -/
def link : List OptionRule := access ++ [sendKey, receiveKey, connectSpan]

end OptionRule

/-- The name of the program. -/
def programName : String := "spotwire"

/-- The command that shows access points. -/
def resolveRule : CommandRule where
  name := "resolve"
  about := "Print access-point candidates in connect order"
  options := OptionRule.access

/-- The command that sends a request. -/
def getRule : CommandRule where
  name := "get"
  about := "Send one Mercury request and print the response"
  options := OptionRule.link ++ [.method, .part, .span, .failOnStatus]
  operand := some ⟨"URI", "Mercury URI to request"⟩

/-- The command that shows pushes. -/
def subscribeRule : CommandRule where
  name := "subscribe"
  about := "Subscribe to a URI prefix and print pushes until interrupted"
  options := OptionRule.link ++ [.count]
  operand := some ⟨"PREFIX", "URI prefix to subscribe to"⟩

/-- The command that shows the version. -/
def versionRule : CommandRule where
  name := "version"
  about := "Show version information"
  options := [.extended]

/-- The program. -/
def program : ProgramRule where
  name := programName
  about := "Access-point and Mercury client CLI"
  options := [.format, .logFormat, .logLevel]
  commands := [resolveRule, getRule, subscribeRule, versionRule]

/-! ### From arguments to commands -/

namespace Given

/-- The choice of access points. -/
def access (g : Given) : AccessChoice :=
  ⟨g.values OptionRule.accessPoints.name, !g.has OptionRule.noFallback.name⟩

/-- The text of an option, or the one that stands for it when it is not given. -/
def textOf (g : Given) (o : OptionRule) : String :=
  (g.value? o.name).getD (o.standard.getD "")

/-- How a session is opened. -/
def link (g : Given) : LinkChoice where
  access := g.access
  sendKey := g.textOf .sendKey
  receiveKey := g.textOf .receiveKey
  connectSpan := g.textOf .connectSpan

/-- The method of a request. -/
def method (g : Given) : Method := (readMethod (g.textOf .method)).toOption.getD .get

/-- The number of pushes to wait for. -/
def count (g : Given) : Option Nat :=
  (g.value? OptionRule.count.name).bind fun text => (readCount text).toOption

/-- The request that is asked for. -/
def request (g : Given) : Request :=
  { Request.plain g.method (g.operand.getD "") with
    payload := (g.values OptionRule.part.name).map Utf8.encode }

end Given

namespace Invocation

/-- The command of arguments that were read. -/
def commandOf (a : Arguments) : Command :=
  let g := a.own
  if a.command = resolveRule.name then .resolve g.access
  else if a.command = getRule.name then
    .get g.link g.request (g.textOf .span) (g.has OptionRule.failOnStatus.name)
  else if a.command = subscribeRule.name then .subscribe g.link (g.operand.getD "") g.count
  else .version (g.has OptionRule.extended.name)

/-- Read a command line. -/
def read (environment : String → Option String) (arguments : List String) :
    Except UsageError Invocation := do
  let a ← program.read environment arguments
  return ⟨(a.value? OptionRule.format.name).bind Format.ofName?, commandOf a⟩

/-- Without arguments there is no command, and help is due. -/
theorem read_nil (environment : String → Option String) :
    read environment [] = .error .nothingGiven := by
  have h : program.read environment [] = .error .nothingGiven :=
    program.read_nil environment (by
      simp [program, OptionRule.format, OptionRule.logFormat, OptionRule.logLevel])
  rw [read, h]
  rfl

end Invocation

end MercuryLink.Console
