/-!
# Text without control sequences

A report is styled with control sequences for a terminal. Where none shows it, they are left out,
together with every control character that is no white space. The main statement says that a text
of visible characters and blanks stays as it is.
-/

namespace MercuryLink.Text

/-- The part of a control sequence that comes next. -/
inductive Scan where
  /-- No control sequence is open. -/
  | ground
  /-- An escape character has come. -/
  | escape
  /-- An escape sequence has intermediate characters. -/
  | escapeIntermediate
  /-- The introducer of a control sequence has come. -/
  | controlEntry
  /-- A control sequence has parameters. -/
  | controlParameter
  /-- A control sequence has intermediate characters. -/
  | controlIntermediate
  /-- A control sequence is malformed. -/
  | controlIgnored
  /-- The introducer of a device control string has come. -/
  | deviceEntry
  /-- A device control string has parameters. -/
  | deviceParameter
  /-- A device control string has intermediate characters. -/
  | deviceIntermediate
  /-- The text of a device control string, or of another string without a meaning. -/
  | string
  /-- The text of an operating system command. -/
  | command
  deriving DecidableEq, Repr

/-- Whether a control character is white space. -/
def isBlankControl (c : Char) : Bool := c = '\t' || c = '\n' || c = '\x0c' || c = '\r'

/-- Whether a byte of the encoding of a character above ASCII is the terminator of a string. -/
def holdsTerminator (c : Char) : Bool :=
  let n := c.toNat
  n % 64 = 0x1c || 0x800 ≤ n && n / 64 % 64 = 0x1c || 0x10000 ≤ n && n / 4096 % 64 = 0x1c

namespace Scan

/-- Where the character behind an escape character leads. -/
def afterEscape (c : Char) : Scan :=
  if c.toNat < 0x20 || 0x7e < c.toNat then .escape
  else if c.toNat < 0x30 then .escapeIntermediate
  else if c = '[' then .controlEntry
  else if c = ']' then .command
  else if c = 'P' then .deviceEntry
  else if c = 'X' || c = '^' || c = '_' then .string
  else .ground

/-- Where a character of a control sequence leads; the sequence goes on as `parameter` when a
parameter comes. -/
def afterControl (here parameter : Scan) (c : Char) : Scan :=
  let n := c.toNat
  if n < 0x20 || 0x7e < n then here
  else if n < 0x30 then .controlIntermediate
  else if n < 0x40 then parameter
  else .ground

/-- Where a character in front of the text of a device control string leads. -/
def afterDevice (here parameter : Scan) (c : Char) : Scan :=
  let n := c.toNat
  if n < 0x20 || 0x7e < n then here
  else if n < 0x30 then .deviceIntermediate
  else if n < 0x40 then parameter
  else .string

/-- Whether a character stands between the marks of private parameters. -/
def isPrivateMark (c : Char) : Bool := '<' ≤ c && c ≤ '?'

/-- What comes next behind a character. -/
def next (m : Scan) (c : Char) : Scan :=
  let n := c.toNat
  if c = '\x18' || c = '\x1a' then .ground
  else if c = '\x1b' then .escape
  else
    match m with
    | ground => .ground
    | escape => afterEscape c
    | escapeIntermediate => if 0x30 ≤ n && n ≤ 0x7e then .ground else m
    | controlEntry => afterControl m .controlParameter c
    | controlParameter =>
      afterControl m (if isPrivateMark c then .controlIgnored else m) c
    | controlIntermediate => afterControl m .controlIgnored c
    | controlIgnored => if 0x40 ≤ n && n ≤ 0x7e then .ground else m
    | deviceEntry => afterDevice m .deviceParameter c
    | deviceParameter => afterDevice m (if isPrivateMark c then .string else m) c
    | deviceIntermediate => afterDevice m .string c
    | string => if 0x80 ≤ n && holdsTerminator c then .ground else m
    | command => if c = '\x07' then .ground else m

/-- Whether a character is shown. White space is shown even where it interrupts a control
sequence. -/
def shows (m : Scan) (c : Char) : Bool :=
  match m with
  | ground => isBlankControl c || 0x20 ≤ c.toNat && c.toNat ≠ 0x7f
  | escape | escapeIntermediate | controlEntry | controlParameter | controlIntermediate
  | controlIgnored => isBlankControl c
  | _ => false

end Scan

/-- Leave the control sequences of a text out. While characters are shown, an interrupted sequence
stays open, but goes on only behind a character that is not shown. -/
def unstyledFrom : Scan → Bool → List Char → List Char
  | _, _, [] => []
  | m, showing, c :: cs =>
    if showing && Scan.ground.shows c then
      c :: unstyledFrom (if 0x80 ≤ c.toNat then .ground else m) true cs
    else if m.shows c then c :: unstyledFrom (m.next c) true cs
    else unstyledFrom (m.next c) false cs

/-- A text without its control sequences. -/
def unstyled (s : String) : String := String.ofList (unstyledFrom .ground false s.toList)

/-- A text without anything to leave out stays as it is. -/
theorem unstyledFrom_eq_self {cs : List Char} (h : ∀ c ∈ cs, Scan.ground.shows c = true)
    (showing : Bool) : unstyledFrom .ground showing cs = cs := by
  induction cs generalizing showing with
  | nil => rfl
  | cons c cs ih =>
    have hc := h c (List.mem_cons_self ..)
    have hcs := fun b hb => h b (List.mem_cons_of_mem _ hb)
    have stays : Scan.ground.next c = .ground := by
      have hn : c ≠ '\x1b' := by
        rintro rfl
        exact absurd hc (by decide)
      simp [Scan.next, hn]
    simp only [unstyledFrom, hc, Bool.and_true, if_true, ite_self, stays, ih hcs]

/-- White space and visible characters are all that a text can keep. -/
theorem unstyled_eq_self {s : String} (h : ∀ c ∈ s.toList, Scan.ground.shows c = true) :
    unstyled s = s := by
  rw [unstyled, unstyledFrom_eq_self h, String.ofList_toList]

end MercuryLink.Text
