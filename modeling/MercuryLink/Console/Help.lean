import MercuryLink.Console.Arguments

/-!
# Help

What help says about a program or about one of its commands: what it is for, how it is
called, and a list of everything that it can be given. A list has two columns; where the second
one would be too narrow, every entry takes two lines instead.
-/

namespace MercuryLink.Console

namespace Help

/-- An entry of a list. -/
structure Entry where
  /-- What it is about. -/
  head : String
  /-- What is said about it. -/
  about : String
  /-- What is said in brackets behind that. -/
  notes : String
  deriving DecidableEq, Repr

/-- A number of blanks. -/
def blanks (n : Nat) : String := String.ofList (List.replicate n ' ')

namespace Entry

/-- Everything that is said in an entry; further lines are indented. -/
def text (indent : Nat) (e : Entry) : String :=
  let all := if e.notes.isEmpty then e.about else e.about ++ " " ++ e.notes
  ("\n" ++ blanks indent).intercalate (all.splitOn "\n")

/-- The columns of a help text. -/
def lineWidth : Nat := 100

/-- Whether an entry asks for two lines: the first column takes more than two fifths of the
text, and the second one does not fit beside it. -/
def asksForTwoLines (longest : Nat) (e : Entry) : Bool :=
  let taken := longest + 12
  2 * lineWidth < 5 * taken && taken ≤ lineWidth
    && lineWidth - taken < e.about.length + e.notes.length

/-- An entry in two columns. -/
def inColumns (longest : Nat) (e : Entry) : String :=
  "  " ++ e.head ++ blanks (longest - e.head.length) ++ "  " ++ e.text (longest + 4)

/-- An entry in two lines. -/
def inLines (e : Entry) : String := "  " ++ e.head ++ "\n" ++ blanks 10 ++ e.text 10

end Entry

/-- A list below its title. -/
def list (title : String) (entries : List Entry) : String :=
  let longest := (entries.map (·.head.length)).foldl max 2
  let drawn :=
    if entries.any (·.asksForTwoLines longest) then entries.map (·.inLines)
    else entries.map (·.inColumns longest)
  "\n".intercalate ((title ++ ":") :: drawn)

/-- A help text; a list without entries is left out. -/
def sheet (about usage : String) (lists : List (String × List Entry)) : String :=
  let lists := lists.filter fun (_, entries) => !entries.isEmpty
  "\n\n".intercalate
    (about :: ("Usage: " ++ usage) :: lists.map fun (title, entries) => list title entries)

/-- The entry of an option for help. -/
def helpEntry : Entry := ⟨"-h, --help", "Print help", ""⟩

/-- The entry of the option for the version. -/
def versionEntry : Entry := ⟨"-V, --version", "Print version", ""⟩

/-- What help says about the command for help. -/
def commandAbout : String := "Print this message or the help of the given subcommand(s)"

end Help

namespace OptionRule

/-- What is said about an option in brackets: the variable that stands in for it, its standard
value, and the words that it can be. -/
def notes (environment : String → Option String) (o : OptionRule) : List String :=
  let value (v : Variable) : String :=
    if v.shown then "=" ++ (environment v.name).getD "" else ""
  (o.standIn.map fun v => "[env: " ++ v.name ++ value v ++ "]").toList
    ++ (o.standard.map fun text => "[default: " ++ text ++ "]").toList
    ++ match o.kind with
      | .single _ (.oneOf words) => ["[possible values: " ++ ", ".intercalate words ++ "]"]
      | _ => []

/-- The entry of an option. -/
def entry (environment : String → Option String) (o : OptionRule) : Help.Entry :=
  ⟨"    " ++ o.shown, o.about, " ".intercalate (o.notes environment)⟩

/-- The options of a command and of its program in one list: by their places in the lists that they
come from, and by their names where these agree. -/
def inOrder (own general : List OptionRule) : List OptionRule :=
  ((own.zipIdx ++ general.zipIdx).mergeSort fun a b =>
    a.2 < b.2 || a.2 = b.2 && !(b.1.name < a.1.name)).map (·.1)

/-- No option is lost or made up when options are put in order. -/
theorem inOrder_perm (own general : List OptionRule) :
    (inOrder own general).Perm (own ++ general) := by
  have h := (List.mergeSort_perm (own.zipIdx ++ general.zipIdx) fun a b =>
    decide (a.2 < b.2) || decide (a.2 = b.2) && !(decide (b.1.name < a.1.name))).map (·.1)
  simpa [inOrder] using h

/-- How the options of a list are asked for. -/
def usage (options : List OptionRule) : List String :=
  (if options.any (!·.required) then ["[OPTIONS]"] else [])
    ++ (options.filter (·.required)).map (·.shown)

end OptionRule

/-- How an operand is shown. -/
def Operand.shown (o : Operand) : String := "<" ++ o.label ++ ">"

namespace ProgramRule

/-- The help text of a command. -/
def commandHelp (p : ProgramRule) (environment : String → Option String) (c : CommandRule) :
    String :=
  let options := OptionRule.inOrder c.options p.options
  let usage := [p.name, c.name] ++ OptionRule.usage (c.options ++ p.options)
    ++ (c.operand.map (·.shown)).toList
  Help.sheet c.about (" ".intercalate usage)
    [("Arguments", (c.operand.map fun o => ⟨o.shown, o.about, ""⟩).toList),
      ("Options", options.map (·.entry environment) ++ [Help.helpEntry])]

/-- The help text of the command for help. -/
def helpHelp (p : ProgramRule) : String :=
  let operand := "[COMMAND]..."
  Help.sheet Help.commandAbout (" ".intercalate [p.name, helpName, operand])
    [("Arguments", [⟨operand, "Print help for the subcommand(s)", ""⟩])]

/-- The help text of a program. -/
def programHelp (p : ProgramRule) (environment : String → Option String) : String :=
  let usage := p.name :: OptionRule.usage p.options ++ ["<COMMAND>"]
  let commands := p.commands.map fun c => (⟨c.name, c.about, ""⟩ : Help.Entry)
  Help.sheet p.about (" ".intercalate usage)
    [("Commands", commands ++ [⟨helpName, Help.commandAbout, ""⟩]),
      ("Options", p.options.map (·.entry environment) ++ [Help.helpEntry, Help.versionEntry])]

/-- The help text about a command or about the program. -/
def helpText (p : ProgramRule) (environment : String → Option String) :
    Option String → String
  | none => p.programHelp environment
  | some name =>
    match p.commands.find? (·.name = name) with
    | some c => p.commandHelp environment c
    | none => p.helpHelp

end ProgramRule

end MercuryLink.Console
