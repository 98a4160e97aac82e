/-!
# Byte strings

Byte strings are lists of octets. This module reads and writes numbers with the
most significant byte first, cuts a byte string at an exact length, and groups
bytes into little-endian words. The main statements are that a fixed-width
number reads back, that `split?` succeeds exactly on a decomposition, and that
a word and its four bytes determine each other.
-/

namespace MercuryLink

/-- A byte string, first byte first. -/
abbrev Bytes := List UInt8

namespace Bytes

/-- The number written by a byte string, most significant byte first. -/
def toNat (bs : Bytes) : Nat :=
  bs.foldl (fun n b => 256 * n + b.toNat) 0

/-- The low `width` bytes of a number, most significant byte first. -/
def ofNat : Nat → Nat → Bytes
  | 0, _ => []
  | width + 1, n => ofNat width (n / 256) ++ [UInt8.ofNat n]

/-- Appending one byte shifts the number by one byte. -/
theorem toNat_concat (bs : Bytes) (b : UInt8) : toNat (bs ++ [b]) = 256 * toNat bs + b.toNat := by
  simp [toNat]

@[simp] theorem length_ofNat (width n : Nat) : (ofNat width n).length = width := by
  induction width generalizing n with
  | zero => rfl
  | succ width ih => simp [ofNat, ih]

/-- A number that fits its width reads back. -/
theorem toNat_ofNat {width n : Nat} (h : n < Nat.pow 256 width) :
    toNat (ofNat width n) = n := by
  induction width generalizing n with
  | zero =>
    have hn : n = 0 := Nat.lt_one_iff.1 h
    rw [hn]
    rfl
  | succ width ih =>
    have hpow : Nat.pow 256 (width + 1) = Nat.pow 256 width * 256 := rfl
    have hn : n / 256 < Nat.pow 256 width := by rw [hpow] at h; omega
    rw [ofNat, toNat_concat, ih hn, UInt8.toNat_ofNat']
    omega

/-- The number of a byte string fits the width of the string. -/
theorem toNat_lt (bs : Bytes) : toNat bs < Nat.pow 256 bs.length := by
  obtain ⟨rs, rfl⟩ : ∃ rs : Bytes, bs = rs.reverse := ⟨bs.reverse, by simp⟩
  induction rs with
  | nil => exact Nat.one_pos
  | cons b rs ih =>
    have hpow : Nat.pow 256 (rs.reverse ++ [b]).length = Nat.pow 256 rs.reverse.length * 256 := by
      rw [List.length_append]
      rfl
    have hb : b.toNat < 256 := b.toNat_lt
    rw [List.reverse_cons, toNat_concat, hpow]
    omega

/-- A byte string is the only one of its width with its number. -/
theorem ofNat_toNat (bs : Bytes) : ofNat bs.length (toNat bs) = bs := by
  obtain ⟨rs, rfl⟩ : ∃ rs : Bytes, bs = rs.reverse := ⟨bs.reverse, by simp⟩
  induction rs with
  | nil => rfl
  | cons b rs ih =>
    have hb : b.toNat < 256 := b.toNat_lt
    have hhigh : (256 * toNat rs.reverse + b.toNat) / 256 = toNat rs.reverse := by omega
    have hlow : UInt8.ofNat (256 * toNat rs.reverse + b.toNat) = b := by
      apply UInt8.toNat_inj.1
      rw [UInt8.toNat_ofNat']
      omega
    rw [List.reverse_cons, toNat_concat, List.length_append, List.length_singleton, ofNat, hhigh,
      hlow, ih]

/-- Cut off exactly `n` bytes; fails when fewer are left. -/
def split? (n : Nat) (bs : Bytes) : Option (Bytes × Bytes) :=
  let front := bs.take n
  if front.length = n then some (front, bs.drop n) else none

/-- Cutting succeeds exactly on a decomposition with a front of the given length. -/
theorem split?_eq_some_iff {n : Nat} {bs front rest : Bytes} :
    split? n bs = some (front, rest) ↔ bs = front ++ rest ∧ front.length = n := by
  simp only [split?]
  constructor
  · intro h
    split at h
    · next hl =>
      simp only [Option.some.injEq, Prod.mk.injEq] at h
      exact ⟨by rw [← h.1, ← h.2, List.take_append_drop], h.1 ▸ hl⟩
    · simp at h
  · rintro ⟨rfl, rfl⟩
    simp

/-- Cutting fails exactly when too few bytes are left. -/
theorem split?_eq_none_iff {n : Nat} {bs : Bytes} : split? n bs = none ↔ bs.length < n := by
  simp only [split?, List.length_take]
  split
  · simp; omega
  · simp; omega

/-- Cut at the given positions, which ascend. -/
def cutAt (positions : List Nat) (bs : Bytes) : List Bytes :=
  ((0 :: positions).zip (positions ++ [bs.length])).map fun (first, last) =>
    (bs.take last).drop first

/-- The four bytes of a word, least significant first. -/
def ofWord (w : UInt32) : Bytes :=
  [w.toUInt8, (w >>> 8).toUInt8, (w >>> 16).toUInt8, (w >>> 24).toUInt8]

/-- The word with the given bytes, least significant first. -/
def word (a b c d : UInt8) : UInt32 :=
  a.toUInt32 ||| b.toUInt32 <<< 8 ||| c.toUInt32 <<< 16 ||| d.toUInt32 <<< 24

/-- The little-endian words of a byte string, the last one padded with zero bytes. -/
def toWords : Bytes → List UInt32
  | [] => []
  | [a] => [word a 0 0 0]
  | [a, b] => [word a b 0 0]
  | [a, b, c] => [word a b c 0]
  | a :: b :: c :: d :: rest => word a b c d :: toWords rest

@[simp] theorem length_ofWord (w : UInt32) : (ofWord w).length = 4 := rfl

/-! ### Words and their bytes -/

/-- The bits of a word are those of its four bytes. -/
theorem getLsbD_word (a b c d : UInt8) {i : Nat} (hi : i < 32) :
    (word a b c d).toBitVec.getLsbD i =
      if i < 8 then a.toBitVec.getLsbD i
      else if i < 16 then b.toBitVec.getLsbD (i - 8)
      else if i < 24 then c.toBitVec.getLsbD (i - 16)
      else d.toBitVec.getLsbD (i - 24) := by
  have hbyte : ∀ (e : UInt8) {n : Nat}, 8 ≤ n → e.toBitVec.getLsbD n = false :=
    fun e n hn => BitVec.getLsbD_of_ge e.toBitVec n hn
  have h8 : (UInt32.toBitVec 8 % 32 : BitVec 32) = 8#32 := rfl
  have h16 : (UInt32.toBitVec 16 % 32 : BitVec 32) = 16#32 := rfl
  have h24 : (UInt32.toBitVec 24 % 32 : BitVec 32) = 24#32 := rfl
  simp only [word, UInt32.toBitVec_or, UInt32.toBitVec_shiftLeft, BitVec.getLsbD_or,
    UInt8.toBitVec_toUInt32, h8, h16, h24]
  simp [hi]
  grind

/-- The bits of a byte of a word are bits of the word. -/
theorem getLsbD_toUInt8_shiftRight (w n : UInt32) {i : Nat} (hi : i < 8) :
    (w >>> n).toUInt8.toBitVec.getLsbD i = w.toBitVec.getLsbD ((n % 32).toNat + i) := by
  simp [hi]

/-- The bytes of a word are the bytes that it was made of. -/
theorem ofWord_word (a b c d : UInt8) : ofWord (word a b c d) = [a, b, c, d] := by
  have hbyte : ∀ {n : UInt32} {e : UInt8},
      (∀ i < 8, (word a b c d).toBitVec.getLsbD ((n % 32).toNat + i) = e.toBitVec.getLsbD i) →
        (word a b c d >>> n).toUInt8 = e := by
    intro n e h
    apply UInt8.toBitVec_inj.1
    apply BitVec.eq_of_getLsbD_eq
    intro i hi
    rw [getLsbD_toUInt8_shiftRight _ _ hi, h i hi]
  have ha : (word a b c d >>> 0).toUInt8 = a := by
    refine hbyte fun i hi => ?_
    have hn : ((0 : UInt32) % 32).toNat = 0 := rfl
    rw [hn, Nat.zero_add, getLsbD_word _ _ _ _ (by omega), if_pos hi]
  have hb : (word a b c d >>> 8).toUInt8 = b := by
    refine hbyte fun i hi => ?_
    have hn : ((8 : UInt32) % 32).toNat = 8 := rfl
    rw [hn, getLsbD_word _ _ _ _ (by omega), if_neg (by omega), if_pos (by omega),
      Nat.add_sub_cancel_left]
  have hc : (word a b c d >>> 16).toUInt8 = c := by
    refine hbyte fun i hi => ?_
    have hn : ((16 : UInt32) % 32).toNat = 16 := rfl
    rw [hn, getLsbD_word _ _ _ _ (by omega), if_neg (by omega), if_neg (by omega),
      if_pos (by omega), Nat.add_sub_cancel_left]
  have hd : (word a b c d >>> 24).toUInt8 = d := by
    refine hbyte fun i hi => ?_
    have hn : ((24 : UInt32) % 32).toNat = 24 := rfl
    rw [hn, getLsbD_word _ _ _ _ (by omega), if_neg (by omega), if_neg (by omega),
      if_neg (by omega), Nat.add_sub_cancel_left]
  rw [UInt32.shiftRight_zero] at ha
  rw [ofWord, ha, hb, hc, hd]

/-- The word of the bytes of a word is the word. -/
theorem word_toUInt8 (w : UInt32) :
    word w.toUInt8 (w >>> 8).toUInt8 (w >>> 16).toUInt8 (w >>> 24).toUInt8 = w := by
  apply UInt32.toBitVec_inj.1
  apply BitVec.eq_of_getLsbD_eq
  intro i hi
  have hlow : w.toUInt8 = (w >>> 0).toUInt8 := by rw [UInt32.shiftRight_zero]
  rw [getLsbD_word _ _ _ _ hi, hlow]
  have hbyte : ∀ {n : UInt32} {k : Nat}, (n % 32).toNat = k → k ≤ i → i < k + 8 →
      (w >>> n).toUInt8.toBitVec.getLsbD (i - k) = w.toBitVec.getLsbD i := by
    intro n k hn hk hik
    rw [getLsbD_toUInt8_shiftRight _ _ (by omega), hn, Nat.add_sub_cancel' hk]
  split
  · exact hbyte rfl (Nat.zero_le i) (by omega)
  · split
    · exact hbyte rfl (by omega) (by omega)
    · split
      · exact hbyte rfl (by omega) (by omega)
      · exact hbyte rfl (by omega) (by omega)

/-- The bytes of a sum of words are the sums of their bytes. -/
theorem ofWord_xor (u v : UInt32) :
    ofWord (u ^^^ v) = List.zipWith (· ^^^ ·) (ofWord u) (ofWord v) := by
  have hbyte : ∀ n : UInt32,
      ((u ^^^ v) >>> n).toUInt8 = (u >>> n).toUInt8 ^^^ (v >>> n).toUInt8 := by
    intro n
    apply UInt8.toBitVec_inj.1
    ext i hi
    simp
  have hlow := hbyte 0
  simp only [UInt32.shiftRight_zero] at hlow
  simp only [ofWord, hlow, hbyte, List.zipWith_cons_cons, List.zipWith_nil_left]

end Bytes

end MercuryLink
