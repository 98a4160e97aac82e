import MercuryLink.Console.Exit
import MercuryLink.Text.Blank
import MercuryLink.Text.Decimal
import MercuryLink.Text.Hex
import MercuryLink.Timespan

/-!
# Settings written as text

Spans of time are written as a number of seconds or, with `ms`, of milliseconds; keys are
written in hexadecimal. Blanks around either do not count. The main statement says which spans can
be written.
-/

namespace MercuryLink.Console

open Text

/-- The largest number that a span can be written with. -/
def largestCount : Nat := UInt64.size - 1

/-- A text without the given ending, if it has it. -/
def stripEnding? (ending text : String) : Option String :=
  if ending.toList.isSuffixOf text.toList then
    some (String.ofList (text.toList.take (text.toList.length - ending.toList.length)))
  else none

/-- The number in a written span, and the span of one unit of it. -/
def splitUnit (text : String) : String × Timespan :=
  match stripEnding? "ms" text with
  | some number => (number, .ofMillis 1)
  | none =>
    match stripEnding? "s" text with
    | some number => (number, .ofSeconds 1)
    | none => (text, .ofSeconds 1)

/-- Read a span of time, which is never empty. -/
def readSpan (text : String) : Except Failure Timespan :=
  let text := trimmed text
  if text.isEmpty then .error (.usage "duration must not be empty")
  else
    let (number, unit) := splitUnit text
    match Decimal.read largestCount number with
    | .error _ => .error (.usage ("invalid duration value: " ++ text))
    | .ok 0 => .error (.usage "duration must be greater than zero")
    | .ok count => .ok ⟨count * unit.nanos⟩

/-- Read a key, which has at least one byte. The option that gives it is named in errors. -/
def readKey (option text : String) : Except Failure Bytes :=
  match Hex.decode (trimmed text) with
  | .error e => .error (.usage (option ++ " is not valid hex: " ++ e.message))
  | .ok [] => .error (.usage (option ++ " must not be empty"))
  | .ok key => .ok key

/-- An ending that is there is left out. -/
theorem stripEnding?_append (ending text : String) :
    stripEnding? ending (text ++ ending) = some text := by
  have hending : ending.toList.isSuffixOf (text ++ ending).toList = true := by
    rw [String.toList_append, List.isSuffixOf_iff_suffix]
    exact List.suffix_append _ _
  rw [stripEnding?, if_pos hending, String.toList_append, List.length_append, Nat.add_sub_cancel,
    List.take_left', String.ofList_toList]
  rfl

/-- A number of milliseconds. -/
theorem splitUnit_millis (number : String) :
    splitUnit (number ++ "ms") = (number, .ofMillis 1) := by
  rw [splitUnit, stripEnding?_append]

/-- A number of seconds; the number does not end in the letter that would make them milliseconds. -/
theorem splitUnit_seconds {number : String} (h : 'm' ∉ number.toList) :
    splitUnit (number ++ "s") = (number, .ofSeconds 1) := by
  have hmillis : stripEnding? "ms" (number ++ "s") = none := by
    rw [stripEnding?, if_neg]
    rw [List.isSuffixOf_iff_suffix, String.toList_append]
    rintro ⟨front, hfront⟩
    have hend : (front ++ ['m']) ++ ['s'] = number.toList ++ ['s'] := by
      rw [List.append_assoc]
      exact hfront
    rw [← (List.append_inj' hend rfl).1] at h
    exact h (by simp)
  rw [splitUnit, hmillis, stripEnding?_append]

/-- A span that can be written is a positive count of its unit. -/
theorem readSpan_eq_ok_iff {text : String} {span : Timespan} :
    readSpan text = .ok span ↔ ∃ count, 0 < count ∧
      Decimal.read largestCount (splitUnit (trimmed text)).1 = .ok count ∧
      span = ⟨count * (splitUnit (trimmed text)).2.nanos⟩ := by
  have hnothing : Decimal.read largestCount (splitUnit "").1 = .error .empty := by cbv
  rw [readSpan]
  dsimp only
  split
  · next hempty =>
    rw [String.isEmpty_iff.1 hempty, hnothing]
    simp
  · cases Decimal.read largestCount (splitUnit (trimmed text)).1 with
    | error e => simp
    | ok n =>
      cases n with
      | zero =>
        refine iff_of_false (by simp) ?_
        rintro ⟨count, hpos, hzero, -⟩
        cases hzero
        exact absurd hpos (Nat.lt_irrefl 0)
      | succ n =>
        simp only [Except.ok.injEq]
        constructor
        · rintro rfl
          exact ⟨n + 1, Nat.succ_pos n, rfl, rfl⟩
        · rintro ⟨count, -, rfl, rfl⟩
          rfl

/-- Every unit is a millisecond or a second. -/
theorem splitUnit_cases (text : String) :
    (splitUnit text).2 = .ofMillis 1 ∨ (splitUnit text).2 = .ofSeconds 1 := by
  unfold splitUnit
  split
  · exact Or.inl rfl
  · split
    · exact Or.inr rfl
    · exact Or.inr rfl

/-- The digits of a count with a unit behind them have no blanks. -/
theorem trimmed_repr_append {ending : String} (h : ∀ c ∈ ending.toList, isBlank c = false)
    (n : Nat) : trimmed (Nat.repr n ++ ending) = Nat.repr n ++ ending := by
  refine trimmed_eq_self fun c hc => ?_
  rw [String.toList_append, List.mem_append, Nat.toList_repr] at hc
  obtain hdigit | hending := hc
  · exact isBlank_of_isDigit (Nat.isDigit_of_mem_toDigits (by decide) (Nat.le_refl 10) hdigit)
  · exact h c hending

/-- Every count within the limit can be written in milliseconds. -/
theorem readSpan_millis {count : Nat} (hpos : 0 < count) (hcount : count ≤ largestCount) :
    readSpan (Nat.repr count ++ "ms") = .ok (.ofMillis count) := by
  rw [readSpan_eq_ok_iff, trimmed_repr_append (by simp [isBlank]), splitUnit_millis]
  exact ⟨count, hpos, Decimal.read_repr hcount, by simp [Timespan.ofMillis]⟩

/-- Every count within the limit can be written in seconds. -/
theorem readSpan_seconds {count : Nat} (hpos : 0 < count) (hcount : count ≤ largestCount) :
    readSpan (Nat.repr count ++ "s") = .ok (.ofSeconds count) := by
  have hdigits : 'm' ∉ (Nat.repr count).toList := by
    rw [Nat.toList_repr]
    intro hletter
    cases Nat.isDigit_of_mem_toDigits (by decide) (Nat.le_refl 10) hletter
  rw [readSpan_eq_ok_iff, trimmed_repr_append (by simp [isBlank]), splitUnit_seconds hdigits]
  exact ⟨count, hpos, Decimal.read_repr hcount, by simp [Timespan.ofSeconds]⟩

/-- The spans that can be written are the positive counts within the limit, of milliseconds or of
seconds. -/
theorem exists_readSpan_iff {span : Timespan} :
    (∃ text, readSpan text = .ok span) ↔
      ∃ count, 0 < count ∧ count ≤ largestCount ∧
        (span = .ofMillis count ∨ span = .ofSeconds count) := by
  constructor
  · rintro ⟨text, hread⟩
    obtain ⟨count, hpos, hcount, rfl⟩ := readSpan_eq_ok_iff.1 hread
    refine ⟨count, hpos, Decimal.read_le hcount, ?_⟩
    obtain hunit | hunit := splitUnit_cases (trimmed text)
    · exact Or.inl (by simp [hunit, Timespan.ofMillis])
    · exact Or.inr (by simp [hunit, Timespan.ofSeconds])
  · rintro ⟨count, hpos, hcount, rfl | rfl⟩
    · exact ⟨_, readSpan_millis hpos hcount⟩
    · exact ⟨_, readSpan_seconds hpos hcount⟩

end MercuryLink.Console
