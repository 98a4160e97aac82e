import MercuryLink.Text.Quoted

/-!
# One-line outlines of values

Diagnostics show a value on one line: a record by its name and its fields in order, a
variant by its name and its arguments, a list in brackets, a text in quotes.
-/

namespace MercuryLink.Text.Outline

/-- A record: `Name { field: value, … }`, or the bare name when it has no field. -/
def record (name : String) (fields : List (String × String)) : String :=
  if fields.isEmpty then name
  else
    name ++ " \x7b " ++ ", ".intercalate (fields.map fun (field, value) => field ++ ": " ++ value)
      ++ " \x7d"

/-- A variant: `Name(argument, …)`, or the bare name when it has no argument. -/
def variant (name : String) (arguments : List String) : String :=
  if arguments.isEmpty then name else name ++ "(" ++ ", ".intercalate arguments ++ ")"

/-- A list: `[item, …]`. -/
def list (items : List String) : String := "[" ++ ", ".intercalate items ++ "]"

/-- A value that may be absent. -/
def option (value : Option String) : String :=
  match value with
  | none => "None"
  | some value => variant "Some" [value]

/-- A text in quotes. -/
def text (s : String) : String := Quoted.text s

/-- A natural number. -/
def nat (n : Nat) : String := Nat.repr n

/-- An integer. -/
def int (n : Int) : String := if n < 0 then "-" ++ Nat.repr n.natAbs else Nat.repr n.natAbs

/-- A truth value. -/
def bool (b : Bool) : String := if b then "true" else "false"

/-- A byte string as a list of numbers. -/
def bytes (bs : List UInt8) : String := list (bs.map fun b => nat b.toNat)

end MercuryLink.Text.Outline
