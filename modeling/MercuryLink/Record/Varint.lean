import MercuryLink.Bytes

/-!
# Variable-length numbers

A number is written in groups of seven bits, least significant first; every byte but the
last has its top bit set. A number takes at most ten bytes and 64 bits. The main statements
are that a 64-bit number reads back in front of any bytes, and that reading consumes.
-/

namespace MercuryLink.Record.Varint

/-- The bytes of a number. -/
def encode (n : Nat) : Bytes :=
  if n < 128 then [UInt8.ofNat n] else UInt8.ofNat (n % 128 + 128) :: encode (n / 128)
termination_by n

/-- Read a number of at most the given number of bytes; in the last byte allowed, only the
64th bit of the number fits. -/
def decodeWithin? : Nat → Bytes → Option (Nat × Bytes)
  | 0, _ => none
  | _, [] => none
  | 1, b :: rest => if b < 2 then some (b.toNat, rest) else none
  | allowed + 2, b :: rest =>
    if b < 128 then some (b.toNat, rest)
    else (decodeWithin? (allowed + 1) rest).map fun (n, r) => (b.toNat % 128 + 128 * n, r)

/-- Read a number from the front of a byte string. -/
def decode? (bs : Bytes) : Option (Nat × Bytes) := decodeWithin? 10 bs

/-- Reading a number consumes at least one byte. -/
theorem length_lt_of_decodeWithin? {allowed : Nat} {bs rest : Bytes} {n : Nat}
    (h : decodeWithin? allowed bs = some (n, rest)) : rest.length < bs.length := by
  induction allowed, bs using decodeWithin?.induct generalizing n rest with
  | case1 => simp [decodeWithin?] at h
  | case2 => simp [decodeWithin?] at h
  | case3 b tail hb => simp [decodeWithin?, hb] at h; simp [← h.2]
  | case4 b tail hb => simp [decodeWithin?, hb] at h
  | case5 allowed b tail hb => simp [decodeWithin?, hb] at h; simp [← h.2]
  | case6 allowed b tail hb ih =>
    simp only [decodeWithin?, hb, if_false, Option.map_eq_some_iff, Prod.mk.injEq] at h
    obtain ⟨⟨m, r⟩, hm, -, rfl⟩ := h
    have := ih hm
    simp only [List.length_cons]
    omega

/-- Reading a number consumes at least one byte. -/
theorem length_lt_of_decode? {bs rest : Bytes} {n : Nat} (h : decode? bs = some (n, rest)) :
    rest.length < bs.length := length_lt_of_decodeWithin? h

/-- A number that fits into the bytes allowed reads back. -/
theorem decodeWithin?_encode {allowed n : Nat} (rest : Bytes) (h : n < 2 * Nat.pow 128 allowed) :
    decodeWithin? (allowed + 1) (encode n ++ rest) = some (n, rest) := by
  induction allowed generalizing n with
  | zero =>
    have hn : n < 2 := h
    have h128 : n < 128 := by omega
    have hb : UInt8.ofNat n < 2 := by
      rw [UInt8.lt_iff_toNat_lt, UInt8.toNat_ofNat']; simp; omega
    rw [encode, if_pos h128]
    simp [decodeWithin?, hb]
    omega
  | succ allowed ih =>
    by_cases h128 : n < 128
    · have hb : UInt8.ofNat n < 128 := by
        rw [UInt8.lt_iff_toNat_lt, UInt8.toNat_ofNat']; simp; omega
      rw [encode, if_pos h128]
      simp [decodeWithin?, hb]
      omega
    · have hb : ¬ UInt8.ofNat (n % 128 + 128) < 128 := by
        rw [UInt8.lt_iff_toNat_lt, UInt8.toNat_ofNat']; simp; omega
      have hpow : Nat.pow 128 (allowed + 1) = Nat.pow 128 allowed * 128 := rfl
      have hd : n / 128 < 2 * Nat.pow 128 allowed := by rw [hpow] at h; omega
      rw [encode, if_neg h128]
      simp only [List.cons_append, decodeWithin?, hb, if_false, ih hd, Option.map_some,
        Option.some.injEq, Prod.mk.injEq, and_true, UInt8.toNat_ofNat']
      omega

/-- A 64-bit number reads back. -/
theorem decode?_encode {n : Nat} (rest : Bytes) (h : n < UInt64.size) :
    decode? (encode n ++ rest) = some (n, rest) :=
  decodeWithin?_encode rest (Nat.lt_of_lt_of_eq h (by decide))

end MercuryLink.Record.Varint
