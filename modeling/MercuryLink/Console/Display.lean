import MercuryLink.Mercury.Message
import MercuryLink.Text.Grid
import MercuryLink.Text.Hex
import MercuryLink.Text.Json
import MercuryLink.Text.Outline

/-!
# What the command line shows

Messages and lists of access points are shown in one of four formats. Each is given as the bytes
that are written; the raw format of a message is its parts and nothing else.
-/

namespace MercuryLink.Console

open Text

/-- How a result is shown. -/
inductive Format where
  | json | table | pretty | raw
  deriving DecidableEq, Repr

namespace Format

/-- The name of a format. -/
def name : Format → String
  | json => "json"
  | table => "table"
  | pretty => "pretty"
  | raw => "raw"

/-- Every format. -/
def all : List Format := [json, table, pretty, raw]

/-- The format of a name. -/
def ofName? (text : String) : Option Format := all.find? (·.name = text)

/-- The format in force unless another is chosen. -/
def standard (terminal : Bool) : Format := if terminal then table else json

/-- A name reads back. -/
@[simp] theorem ofName?_name (f : Format) : ofName? f.name = some f := by cases f <;> decide

end Format

namespace Display

/-- Lines, each with its line feed. -/
def written (lines : List String) : Bytes :=
  Utf8.encode (String.join (lines.map (· ++ "\n")))

/-- What is shown of a part: its text, or its size if it has none. -/
def preview (part : Bytes) : String :=
  match Utf8.decode? part with
  | some text => text
  | none => "<binary " ++ Outline.nat part.length ++ " bytes>"

/-- The fields of a message, in order. A message of no content type has no such field. -/
def messageFields (kind timestamp : String) (m : Message) : List (String × String) :=
  [("kind", Json.text kind), ("uri", Json.text m.uri),
    ("status_code", Outline.int m.status.toInt)] ++
  (m.contentType.map fun t => ("content_type", Json.text t)).toList ++
  [("sequence_id", Json.text (Hex.encode m.sequence)),
    ("part_sizes", Json.array (m.payload.map fun p => Outline.nat p.length)),
    ("parts", Json.array (m.payload.map fun p => Json.text (preview p))),
    ("timestamp", Json.text timestamp)]

/-- A message as a table of one row. -/
def messageGrid (kind : String) (m : Message) : Grid where
  header := ["KIND", "URI", "STATUS", "PARTS", "FIRST PART"]
  rows :=
    [[kind, m.uri, Outline.int m.status.toInt, Outline.nat m.payload.length,
      (m.body?.map preview).getD ""]]

/-- A message on one line, and one line for each of its parts. -/
def messageLines (kind : String) (m : Message) : List String :=
  (kind ++ " uri=" ++ m.uri ++ " status=" ++ Outline.int m.status.toInt
      ++ " seq=" ++ Hex.encode m.sequence ++ " parts=" ++ Outline.nat m.payload.length) ::
    m.payload.mapIdx fun i part => "  [" ++ Outline.nat i ++ "] " ++ preview part

/-- Show a message of the given kind that was printed at the given time. -/
def message (kind timestamp : String) (m : Message) : Format → Bytes
  | .json => written [Json.object (messageFields kind timestamp m)]
  | .table => written [(messageGrid kind m).draw]
  | .pretty => written (messageLines kind m)
  | .raw => m.payload.flatten

/-- The table of a list of access points. -/
def candidatesGrid (candidates : List String) : Grid where
  header := ["#", "ACCESS POINT"]
  rows := candidates.mapIdx fun i address => [Outline.nat i, address]

/-- Show a list of access points. -/
def candidates (candidates : List String) : Format → Bytes
  | .json => written [Json.object [("candidates", Json.array (candidates.map Json.text))]]
  | .table => written [(candidatesGrid candidates).draw]
  | .pretty | .raw => written candidates

end Display

end MercuryLink.Console
