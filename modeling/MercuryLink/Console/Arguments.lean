import MercuryLink.Console.Usage

/-!
# Reading arguments

A program has options and commands, and a command has options of its own, perhaps an operand, and
all options of the program. Arguments are read from left to right, first those of the program and,
from the name of a command on, those of the command. An option with a value waits for the
next argument, and its value is only judged when the next option, an operand or the end shows that
it is complete. After `--` everything is an operand. The main statement says that nothing is
given by no arguments but what the environment gives.
-/

namespace MercuryLink.Console

/-- What the value of an option has to be. -/
inductive ValueRule where
  /-- Any text. -/
  | anything
  /-- One of some words. -/
  | oneOf (words : List String)
  /-- A text in which no problem is found. -/
  | checked (problem? : String → Option String)

/-- How an option is given. -/
inductive OptionKind where
  /-- By its name alone, once. -/
  | flag
  /-- With a value, once. -/
  | single (label : String) (rule : ValueRule)
  /-- With a value, any number of times; a value is cut at the separator, if there is one. -/
  | list (label : String) (separator : Option Char)

/-- A variable of the environment that stands in for an option. -/
structure Variable where
  /-- Its name. -/
  name : String
  /-- Whether its value may be shown. -/
  shown : Bool

/-- An option. -/
structure OptionRule where
  /-- The name, without the dashes in front of it. -/
  name : String
  /-- How it is given. -/
  kind : OptionKind
  /-- What help says about it. -/
  about : String
  /-- The variable of the environment that stands in for it. -/
  standIn : Option Variable := none
  /-- The value that stands for it when it is not given. -/
  standard : Option String := none
  /-- Whether it has to be given. -/
  required : Bool := false

namespace OptionRule

/-- An option as it is shown, with the label of its value. -/
def shown (o : OptionRule) : String :=
  match o.kind with
  | .flag => "--" ++ o.name
  | .single label _ | .list label _ => "--" ++ o.name ++ " <" ++ label ++ ">"

end OptionRule

/-- What arguments have given. -/
structure Given where
  /-- Every option given, with the values of that occurrence, in order. -/
  options : List (String × List String)
  /-- The operand. -/
  operand : Option String
  deriving DecidableEq, Repr

namespace Given

/-- Nothing. -/
def nothing : Given := ⟨[], none⟩

/-- Whether an option is given. -/
def has (g : Given) (name : String) : Bool := g.options.any (·.1 = name)

/-- All values of an option, in order. -/
def values (g : Given) (name : String) : List String :=
  g.options.flatMap fun (given, values) => if given = name then values else []

/-- The value of an option. -/
def value? (g : Given) (name : String) : Option String := (g.values name).head?

/-- Note an occurrence of an option. -/
def add (g : Given) (o : OptionRule) (values : List String) : Given :=
  { g with options := g.options ++ [(o.name, values)] }

/-- Judge a value. -/
def judge (o : OptionRule) (rule : ValueRule) (value : String) : Except UsageError Unit :=
  match rule with
  | .anything => .ok ()
  | .oneOf words => if words.contains value then .ok () else .error (.invalidValue o.shown value)
  | .checked problem? =>
    match problem? value with
    | none => .ok ()
    | some reason => .error (.refusedValue o.shown value reason)

/-- The values written in one text. -/
def cut (separator : Option Char) (value : String) : List String :=
  match separator with
  | none => [value]
  | some c => value.splitOn c.toString

/-- Take an occurrence of an option, with its value if one has come. -/
def record (g : Given) (o : OptionRule) (value : Option String) : Except UsageError Given :=
  match o.kind, value with
  | .flag, _ => if g.has o.name then .error (.repeated o.shown) else .ok (g.add o [])
  | _, none => .error (.invalidValue o.shown "")
  | .single _ rule, some value => do
    if g.has o.name then throw (.repeated o.shown)
    judge o rule value
    return g.add o [value]
  | .list _ separator, some value => .ok (g.add o (cut separator value))

/-- Let the environment stand in for an option that is not given. -/
def addVariable (environment : String → Option String) (g : Given) (o : OptionRule) :
    Except UsageError Given :=
  if g.has o.name then .ok g
  else
    match o.standIn.bind fun v => environment v.name with
    | none => .ok g
    | some value => g.record o (some value)

end Given

/-- What is expected at one level of a command line. -/
structure Level where
  /-- The command whose level it is, if it is not that of the program. -/
  command : Option String
  /-- The options. -/
  options : List OptionRule
  /-- Whether there has to be an operand. -/
  operand : Bool
  /-- The commands that end the level. -/
  commands : List String
  /-- Whether the version can be asked for. -/
  version : Bool

/-- How an argument looks. -/
inductive Shape where
  /-- The end of the options. -/
  | terminator
  /-- A name behind two dashes, perhaps with a value. -/
  | long (name : String) (value : Option String)
  /-- A letter behind one dash. -/
  | short (letter : Char)
  /-- Anything else. -/
  | word
  deriving DecidableEq, Repr

/-- A name and what stands behind the first equals sign. -/
def splitValue (cs : List Char) : Shape :=
  .long (String.ofList (cs.takeWhile (· != '=')))
    (match cs.dropWhile (· != '=') with
      | [] => none
      | _ :: value => some (String.ofList value))

/-- The shape of an argument. -/
def Shape.ofText (token : String) : Shape :=
  match token.toList with
  | ['-', '-'] => .terminator
  | '-' :: '-' :: cs => splitValue cs
  | '-' :: letter :: _ => .short letter
  | _ => .word

/-- The state of reading one level. -/
structure Reading where
  /-- What was given so far. -/
  given : Given
  /-- The last option, with its value if one has come, until it is judged. -/
  pending : Option (OptionRule × Option String)
  /-- Whether the options have ended. -/
  trailing : Bool

namespace Reading

/-- The state before the first argument. -/
def start : Reading := ⟨.nothing, none, false⟩

/-- Whether the next argument is the value of an option. -/
def isAwaiting (r : Reading) : Bool :=
  match r.pending with
  | some (_, none) => true
  | _ => false

/-- Judge the last option. -/
def settled (r : Reading) : Except UsageError Given :=
  match r.pending with
  | none => .ok r.given
  | some (o, value) => r.given.record o value

/-- Go on behind an option that is complete. -/
def withOption (r : Reading) (o : OptionRule) (value : Option String) :
    Except UsageError Reading := do
  let given ← r.settled
  let given ← given.record o value
  return { r with given, pending := none }

/-- Stop for a use that is not carried out, once the last option is judged. -/
def stop (r : Reading) (e : UsageError) : Except UsageError Reading := do
  let _ ← r.settled
  throw e

/-- Take an argument with a name. -/
def takeLong (level : Level) (r : Reading) (name : String) (value : Option String) :
    Except UsageError Reading :=
  let asked : Option UsageError :=
    if name = "help" then some (.help level.command)
    else if name = "version" && level.version then some .version
    else none
  match asked, level.options.find? (·.name = name), value with
  | some _, _, some value => .error (.unexpectedValue ("--" ++ name) value)
  | some e, _, none => r.stop e
  | none, none, _ => .error (.unknownArgument ("--" ++ name))
  | none, some o, value =>
    match o.kind, value with
    | .flag, some value => .error (.unexpectedValue o.shown value)
    | .flag, none => r.withOption o none
    | _, some value => r.withOption o (some value)
    | _, none => do
      let given ← r.settled
      return { r with given, pending := some (o, none) }

/-- Take an argument with a letter. -/
def takeShort (level : Level) (r : Reading) (letter : Char) : Except UsageError Reading :=
  if letter = 'h' then r.stop (.help level.command)
  else if letter = 'V' && level.version then r.stop .version
  else .error (.unknownArgument ("-" ++ letter.toString))

/-- Take an argument that is no option. -/
def takeOperand (level : Level) (r : Reading) (token : String) : Except UsageError Reading :=
  if level.operand && r.given.operand.isNone then do
    let given ← r.settled
    return { r with given := { given with operand := some token }, pending := none }
  else if level.commands.isEmpty || (r.trailing && level.commands.contains token) then
    .error (.unknownArgument token)
  else .error (.unknownCommand token)

/-- Take an argument. -/
def take (level : Level) (r : Reading) (token : String) : Except UsageError Reading :=
  if r.trailing then r.takeOperand level token
  else
    match Shape.ofText token, r.pending with
    | .terminator, _ => .ok { r with trailing := true }
    | .long name value, _ => r.takeLong level name value
    | .short letter, _ => r.takeShort level letter
    | .word, some (o, none) => .ok { r with pending := some (o, some token) }
    | .word, _ => r.takeOperand level token

/-- Read a level up to its end or to the name of a command, which is given with what follows. -/
def run (level : Level) (r : Reading) :
    List String → Except UsageError (Reading × Option (String × List String))
  | [] => .ok (r, none)
  | token :: rest =>
    if !r.trailing && !r.isAwaiting && level.commands.contains token then
      .ok (r, some (token, rest))
    else do
      let r ← r.take level token
      run level r rest

/-- What a level has given in the end. -/
def finish (environment : String → Option String) (level : Level) (r : Reading) :
    Except UsageError Given := do
  let given ← r.settled
  let given ← level.options.foldlM (Given.addVariable environment) given
  if level.operand && given.operand.isNone then throw .missing
  if level.options.any fun o => o.required && !given.has o.name then throw .missing
  return given

end Reading

/-- What a command is about. -/
structure Operand where
  /-- What it is called. -/
  label : String
  /-- What help says about it. -/
  about : String

/-- A command. -/
structure CommandRule where
  /-- Its name. -/
  name : String
  /-- What help says about it. -/
  about : String
  /-- Its options. -/
  options : List OptionRule
  /-- Its operand, if it has one. -/
  operand : Option Operand := none

/-- A program with commands. -/
structure ProgramRule where
  /-- Its name. -/
  name : String
  /-- What help says about it. -/
  about : String
  /-- The options of the program and of every command. -/
  options : List OptionRule
  /-- The commands, besides the one for help. -/
  commands : List CommandRule

/-- The arguments of a command. -/
structure Arguments where
  /-- What was given before the name of the command. -/
  general : Given
  /-- The name of the command. -/
  command : String
  /-- What was given behind the name of the command. -/
  own : Given
  deriving DecidableEq, Repr

/-- The value of an option of the program; one behind the name of the command comes first. -/
def Arguments.value? (a : Arguments) (name : String) : Option String :=
  (a.own.value? name).or (a.general.value? name)

namespace ProgramRule

/-- The command for help. -/
def helpName : String := "help"

/-- Every name of a command. -/
def commandNames (p : ProgramRule) : List String := p.commands.map (·.name) ++ [helpName]

/-- The level in front of the name of a command. -/
def level (p : ProgramRule) : Level := ⟨none, p.options, false, p.commandNames, true⟩

/-- The level behind the name of a command. -/
def commandLevel (p : ProgramRule) (c : CommandRule) : Level :=
  ⟨some c.name, c.options ++ p.options, c.operand.isSome, [], false⟩

/-- What comes of asking for help about something. -/
def help (p : ProgramRule) : List String → UsageError
  | [] => .help none
  | name :: rest =>
    if !p.commandNames.contains name then .unknownCommand name
    else
      match rest with
      | [] => .help (some name)
      | word :: _ => .unknownCommand word

/-- Read the arguments of a program. -/
def read (p : ProgramRule) (environment : String → Option String) (arguments : List String) :
    Except UsageError Arguments := do
  let (reading, found) ← Reading.run p.level .start arguments
  match found with
  | none =>
    let given ← reading.finish environment p.level
    throw (if given = .nothing then .nothingGiven else .noCommand p.name)
  | some (name, rest) =>
    match p.commands.find? (·.name = name) with
    | none => throw (p.help rest)
    | some c =>
      let (behind, _) ← Reading.run (p.commandLevel c) .start rest
      let own ← behind.finish environment (p.commandLevel c)
      let general ← reading.finish environment p.level
      return ⟨general, name, own⟩

/-- Without arguments a program whose options have no variables gets none, and shows help. -/
theorem read_nil (p : ProgramRule) (environment : String → Option String)
    (h : ∀ o ∈ p.options, o.standIn = none ∧ o.required = false) :
    p.read environment [] = .error .nothingGiven := by
  have none_added : ∀ os : List OptionRule, (∀ o ∈ os, o.standIn = none) →
      os.foldlM (Given.addVariable environment) Given.nothing = .ok Given.nothing := by
    intro os hos
    induction os with
    | nil => rfl
    | cons o os ih =>
      have ho := hos o (List.mem_cons_self ..)
      have step : Given.addVariable environment Given.nothing o = .ok Given.nothing := by
        simp [Given.addVariable, Given.nothing, Given.has, ho]
      rw [List.foldlM_cons, step]
      exact ih fun o' h' => hos o' (List.mem_cons_of_mem _ h')
  have none_missing : p.options.any
      (fun o => o.required && !Given.nothing.has o.name) = false := by
    simp only [List.any_eq_false, Bool.and_eq_true, not_and]
    intro o ho hr
    simp [(h o ho).2] at hr
  have added := none_added p.options fun o ho => (h o ho).1
  simp only [read, Reading.run, Reading.finish, Reading.settled, Reading.start, level, added,
    bind, Except.bind, none_missing, Bool.false_and, throw, throwThe,
    MonadExceptOf.throw]
  rfl

end ProgramRule

end MercuryLink.Console
