import MercuryLink.Text.Unstyled

/-!
# Uses of the command line that are not carried out

Why a list of arguments is no command: it asks for help or for the version, or it breaks a rule.
Every such use has a code and, unless a help text is shown instead, a report. What the arguments
bring into a report stands out in it, which is for terminals only: the report is written without
control sequences, those of the arguments included.
-/

namespace MercuryLink.Console

/-- Why arguments are no command to carry out. -/
inductive UsageError where
  /-- Help is asked for, about a command or about the program. -/
  | help (command : Option String)
  /-- The version is asked for. -/
  | version
  /-- There is no argument at all, so that help is due. -/
  | nothingGiven
  /-- There are options, but no command. -/
  | noCommand (program : String)
  /-- A word stands where only a command can. -/
  | unknownCommand (word : String)
  /-- An argument that is not expected. -/
  | unknownArgument (argument : String)
  /-- Something that has to be given is not. -/
  | missing
  /-- An option that is given at most once is given again. -/
  | repeated (option : String)
  /-- The value of an option is none of those it can have, or there is no value. -/
  | invalidValue (option value : String)
  /-- The value of an option is refused for a reason. -/
  | refusedValue (option value reason : String)
  /-- An option without a value is given one. -/
  | unexpectedValue (option value : String)
  deriving DecidableEq, Repr

namespace UsageError

/-- The name of a kind of use. -/
def name : UsageError → String
  | help _ => "DisplayHelp"
  | version => "DisplayVersion"
  | nothingGiven => "DisplayHelpOnMissingArgumentOrSubcommand"
  | noCommand _ => "MissingSubcommand"
  | unknownCommand _ => "InvalidSubcommand"
  | unknownArgument _ => "UnknownArgument"
  | missing => "MissingRequiredArgument"
  | repeated _ => "ArgumentConflict"
  | invalidValue _ _ => "InvalidValue"
  | refusedValue _ _ _ => "ValueValidation"
  | unexpectedValue _ _ => "TooManyValues"

/-- The code returned: what is asked for is no failure. -/
def code : UsageError → Nat
  | help _ | version => 0
  | _ => 2

/-- A text in single quotes, as it is. -/
def quoted (s : String) : String := "'" ++ s ++ "'"

/-- A text that stands out. -/
def marked (s : String) : String := "\x1b[33m" ++ s ++ "\x1b[0m"

/-- The message of a report, where no help text is shown instead. -/
def message? : UsageError → Option String
  | help _ | version | nothingGiven => none
  | noCommand program =>
    some (quoted program ++ " requires a subcommand but one was not provided")
  | unknownCommand word => some ("unrecognized subcommand " ++ quoted (marked word))
  | unknownArgument argument =>
    some ("unexpected argument " ++ quoted (marked argument) ++ " found")
  | missing => some "the following required arguments were not provided:"
  | repeated option =>
    some ("the argument " ++ quoted option ++ " cannot be used multiple times")
  | invalidValue option "" =>
    some ("a value is required for " ++ quoted option ++ " but none was supplied")
  | invalidValue option value =>
    some ("invalid value " ++ quoted (marked value) ++ " for " ++ quoted option)
  | refusedValue option value reason =>
    some ("invalid value " ++ quoted (marked value) ++ " for " ++ quoted option ++ ": " ++ reason)
  | unexpectedValue option value =>
    some ("unexpected value " ++ quoted (marked value) ++ " for " ++ quoted option
      ++ " found; no more were expected")

/-- Where more is said about the use of the program. -/
def advice : String := "For more information, try " ++ quoted (marked "--help") ++ "."

/-- The report of a use. -/
def report? (e : UsageError) : Option String :=
  e.message?.map fun message => Text.unstyled ("error: " ++ message ++ "\n\n" ++ advice)

/-- A use is reported or asks for help or the version; only a report comes with a failure. -/
theorem code_eq_two_of_report {e : UsageError} {text : String} (h : e.report? = some text) :
    e.code = 2 := by
  cases e <;> simp_all [report?, message?, code]

end UsageError

end MercuryLink.Console
