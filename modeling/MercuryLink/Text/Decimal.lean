/-!
# Reading natural numbers

A number is written in decimal digits, after one optional plus sign. It is read up to a largest
value, and the first character at which it can no longer be read decides the error. The main
statements say that a number within the limit reads back, and that no other number is read.
-/

namespace MercuryLink.Text.Decimal

/-- Why a text is no number. -/
inductive Error where
  /-- There is no character. -/
  | empty
  /-- A character is no digit, or there is no digit. -/
  | badDigit
  /-- The number is above the largest value. -/
  | tooLarge
  deriving DecidableEq, Repr

/-- What is reported about a text that is no number. -/
def Error.message : Error → String
  | .empty => "cannot parse integer from empty string"
  | .badDigit => "invalid digit found in string"
  | .tooLarge => "number too large to fit in target type"

/-- The value of a digit. -/
def digit? (c : Char) : Option Nat := if c.isDigit then some (c.toNat - 48) else none

/-- Read digits behind a value already read. -/
def readFrom (largest value : Nat) : List Char → Except Error Nat
  | [] => .ok value
  | c :: cs =>
    match digit? c with
    | none => .error .badDigit
    | some d =>
      let value := 10 * value + d
      if value > largest then .error .tooLarge else readFrom largest value cs

/-- Read the digits of a number, of which there is at least one. -/
def readDigits (largest : Nat) : List Char → Except Error Nat
  | [] => .error .badDigit
  | cs => readFrom largest 0 cs

/-- Read a number. -/
def read (largest : Nat) (s : String) : Except Error Nat :=
  match s.toList with
  | [] => .error .empty
  | '+' :: cs => readDigits largest cs
  | cs => readDigits largest cs

/-- A number that is read from digits is within the limit. -/
theorem readFrom_le {largest value n : Nat} {cs : List Char} (hv : value ≤ largest)
    (h : readFrom largest value cs = .ok n) : n ≤ largest := by
  induction cs generalizing value with
  | nil => simp only [readFrom, Except.ok.injEq] at h; omega
  | cons c cs ih =>
    simp only [readFrom] at h
    split at h
    · simp at h
    · split at h
      · simp at h
      · next hle => exact ih (by omega) h

/-- A number that is read is within the limit. -/
theorem read_le {largest n : Nat} {s : String} (h : read largest s = .ok n) : n ≤ largest := by
  have digits : ∀ cs, readDigits largest cs = .ok n → n ≤ largest := by
    intro cs hc
    cases cs with
    | nil => simp [readDigits] at hc
    | cons c cs => exact readFrom_le (Nat.zero_le _) hc
  unfold read at h
  split at h
  · simp at h
  · exact digits _ h
  · exact digits _ h

/-- The digit that is written for a number below ten is read as that number. -/
theorem digit?_digitChar {d : Nat} (h : d < 10) : digit? d.digitChar = some d := by
  rw [digit?, Nat.isDigit_digitChar, if_pos (decide_eq_true h), Nat.toNat_digitChar_of_lt_ten h,
    Nat.add_sub_cancel_left]

/-- A digit below the limit is read on behind what was read. -/
theorem readFrom_digitChar {largest value d : Nat} (hd : d < 10) (h : 10 * value + d ≤ largest)
    (cs : List Char) :
    readFrom largest value (d.digitChar :: cs) = readFrom largest (10 * value + d) cs := by
  simp only [readFrom, digit?_digitChar hd]
  exact if_neg (Nat.not_lt.2 h)

/-- The digits of a number within the limit are read as that number. -/
theorem readFrom_toDigits {largest n : Nat} (h : n ≤ largest) (cs : List Char) :
    readFrom largest 0 (Nat.toDigits 10 n ++ cs) = readFrom largest n cs := by
  induction n using Nat.strongRecOn generalizing cs with
  | ind n ih =>
    by_cases hn : n < 10
    · rw [Nat.toDigits_of_lt_base hn, List.singleton_append, readFrom_digitChar hn (by omega),
        Nat.mul_zero, Nat.zero_add]
    · have hsplit : 10 * (n / 10) + n % 10 = n := Nat.div_add_mod n 10
      rw [Nat.toDigits_eq_if (by decide), if_neg hn, List.append_assoc, List.singleton_append,
        ih (n / 10) (by omega) (by omega), readFrom_digitChar (by omega) (by omega), hsplit]

/-- A number within the limit reads back. -/
theorem read_repr {largest n : Nat} (h : n ≤ largest) : read largest (Nat.repr n) = .ok n := by
  have hdigits : readFrom largest 0 (Nat.toDigits 10 n) = .ok n := by
    simpa [readFrom] using readFrom_toDigits h []
  cases hcs : Nat.toDigits 10 n with
  | nil => exact absurd hcs Nat.toDigits_ne_nil
  | cons c cs =>
    have hdigit : c.isDigit = true :=
      Nat.isDigit_of_mem_toDigits (by decide) (Nat.le_refl 10) (hcs ▸ List.mem_cons_self)
    have hplus : c ≠ '+' := by
      rintro rfl
      cases hdigit
    rw [hcs] at hdigits
    rw [read, Nat.toList_repr, hcs]
    split
    · next hnil => cases hnil
    · next hsign => exact absurd (List.cons.inj hsign).1 hplus
    · exact hdigits

end MercuryLink.Text.Decimal
