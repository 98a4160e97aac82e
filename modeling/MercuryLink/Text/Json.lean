import MercuryLink.Text.Hex

/-!
# JSON text

The compact written form of JSON values, without any blanks between them. In a text, the quote
and the backslash follow a backslash, every control is written by its letter or its number, and
any other character stands for itself. The main statement says that no raw control is written.
-/

namespace MercuryLink.Text.Json

/-- The controls that have a letter, with that letter. -/
def controlLetters : List (Char × Char) :=
  [('\x08', 'b'), ('\t', 't'), ('\n', 'n'), ('\x0c', 'f'), ('\r', 'r')]

/-- One character of a text. -/
def escape (c : Char) : List Char :=
  if c = '"' ∨ c = '\\' then ['\\', c]
  else if c.toNat < 32 then
    match controlLetters.lookup c with
    | some letter => ['\\', letter]
    | none => ['\\', 'u', '0', '0'] ++ Hex.byteDigits (UInt8.ofNat c.toNat)
  else [c]

/-- A text in quotes. -/
def text (s : String) : String := "\"" ++ String.ofList (s.toList.flatMap escape) ++ "\""

/-- An array of values already written. -/
def array (values : List String) : String := "[" ++ ",".intercalate values ++ "]"

/-- An object of fields, in order, whose values are already written. -/
def object (fields : List (String × String)) : String :=
  "\x7b" ++ ",".intercalate (fields.map fun (name, value) => text name ++ ":" ++ value) ++ "\x7d"

/-- A digit is no control. -/
theorem le_toNat_digit (n : Nat) (h : n < 16) : 32 ≤ (Hex.digit n).toNat := by
  have all : ∀ m : Fin 16, 32 ≤ (Hex.digit m).toNat := by decide
  exact all ⟨n, h⟩

/-- What is written for a character has no raw control. -/
theorem le_toNat_of_mem_escape {c d : Char} (h : d ∈ escape c) : 32 ≤ d.toNat := by
  have named : ∀ p ∈ controlLetters, 32 ≤ p.2.toNat := by decide
  have high := (UInt8.ofNat c.toNat).toNat_lt
  unfold escape at h
  split at h
  · next hc =>
    simp only [List.mem_cons, List.not_mem_nil, or_false] at h
    rcases h with rfl | rfl
    · decide
    · rcases hc with rfl | rfl <;> decide
  · split at h
    · split at h
      · next letter hletter =>
        obtain ⟨before, after, hsplit, _⟩ := List.lookup_eq_some_iff.1 hletter
        simp only [List.mem_cons, List.not_mem_nil, or_false] at h
        rcases h with rfl | rfl
        · decide
        · exact named (c, d) (by simp [hsplit])
      · simp only [Hex.byteDigits, List.cons_append, List.nil_append, List.mem_cons,
          List.not_mem_nil, or_false] at h
        rcases h with rfl | rfl | rfl | rfl | rfl | rfl
        · decide
        · decide
        · decide
        · decide
        · exact le_toNat_digit _ (by omega)
        · exact le_toNat_digit _ (by omega)
    · next hlarge =>
      simp only [List.mem_singleton] at h
      subst h
      omega

end MercuryLink.Text.Json
