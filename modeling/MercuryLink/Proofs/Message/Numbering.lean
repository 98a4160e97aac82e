import MercuryLink.Mercury.Packet

/-!
# Sequence ids as numbers

A sequence id is the shortest big-endian form of a number: the fixed-width form without the zeros in
front of it. A byte string is the shortest of its number exactly if it has a byte, and does not begin
with zero unless it is the single byte zero. Such a byte string shows by its length alone how large
its number is at least, so the numbers are ordered as the ids are: the shorter before the longer,
those of one length as in a dictionary. In particular no number has two ids, and no id two numbers.
-/

namespace MercuryLink

namespace Bytes

/-! ### Numbers from the front -/

/-- A byte in front counts once for every number that the bytes behind it can write. -/
theorem toNat_cons (b : UInt8) (bs : Bytes) :
    toNat (b :: bs) = b.toNat * Nat.pow 256 bs.length + toNat bs := by
  obtain ⟨rs, rfl⟩ : ∃ rs : Bytes, bs = rs.reverse := ⟨bs.reverse, by simp⟩
  induction rs with
  | nil => simp [toNat]
  | cons c rs ih =>
    have hshift : b.toNat * Nat.pow 256 (rs.reverse ++ [c]).length =
        256 * (b.toNat * Nat.pow 256 rs.reverse.length) := by
      have hpow : Nat.pow 256 (rs.reverse ++ [c]).length = Nat.pow 256 rs.reverse.length * 256 := by
        rw [List.length_append]
        rfl
      rw [hpow, ← Nat.mul_assoc, Nat.mul_comm]
    rw [List.reverse_cons, hshift, ← List.cons_append, toNat_concat, toNat_concat, ih]
    omega

/-- Among byte strings of one length the order of the numbers is that of a dictionary. -/
theorem toNat_lt_toNat_iff {bs cs : Bytes} (h : bs.length = cs.length) :
    toNat bs < toNat cs ↔ bs < cs := by
  induction bs generalizing cs with
  | nil =>
    obtain rfl := List.length_eq_zero_iff.1 h.symm
    simp
  | cons b bs ih =>
    cases cs with
    | nil => cases h
    | cons c cs =>
      have hlength : bs.length = cs.length := Nat.succ.inj h
      have hb : toNat bs < Nat.pow 256 cs.length := hlength ▸ toNat_lt bs
      have hc : toNat cs < Nat.pow 256 cs.length := toNat_lt cs
      -- A larger first byte outweighs whatever stands behind it.
      have hroom : ∀ {u v : Nat}, u < v →
          u * Nat.pow 256 cs.length + Nat.pow 256 cs.length ≤ v * Nat.pow 256 cs.length := by
        intro u v huv
        rw [← Nat.succ_mul]
        exact Nat.mul_le_mul_right _ huv
      rw [toNat_cons, toNat_cons, hlength, List.cons_lt_cons_iff, ← ih hlength,
        UInt8.lt_iff_toNat_lt, ← UInt8.toNat_inj]
      obtain hlt | heq | hgt := Nat.lt_trichotomy b.toNat c.toNat
      · have hless := hroom hlt
        omega
      · rw [heq]
        omega
      · have hmore := hroom hgt
        omega

/-- The number of a byte string is at least what its first byte counts for. -/
theorem le_toNat_cons {b : UInt8} (h : b ≠ 0) (bs : Bytes) :
    Nat.pow 256 bs.length ≤ toNat (b :: bs) := by
  have hpos : 1 ≤ b.toNat := Nat.pos_of_ne_zero fun hzero => h (UInt8.toNat_inj.1 hzero)
  rw [toNat_cons]
  exact Nat.le_trans (Nat.le_mul_of_pos_left _ hpos) (Nat.le_add_right _ _)

/-- Zeros in front of a byte string do not count. -/
theorem toNat_zero_cons (bs : Bytes) : toNat (0 :: bs) = toNat bs := by
  rw [toNat_cons]
  simp

/-! ### Shortest forms -/

/-- Whether a byte string is the shortest that writes its number. -/
structure IsShortest (bs : Bytes) : Prop where
  /-- There is a byte. -/
  ne_nil : bs ≠ []
  /-- It does not begin with zero, unless it is zero. -/
  eq_zero : bs.head? = some 0 → bs = [0]

/-- A shortest form has no more bytes than its number needs. -/
theorem IsShortest.length_le_iff {bs : Bytes} (h : bs.IsShortest) {k : Nat} :
    bs.length ≤ k + 1 ↔ toNat bs < Nat.pow 256 (k + 1) := by
  constructor
  · intro hlength
    exact Nat.lt_of_lt_of_le (toNat_lt bs) (Nat.pow_le_pow_right (by decide) hlength)
  · intro hlt
    refine Nat.le_of_not_lt fun hlong => ?_
    cases bs with
    | nil => exact h.ne_nil rfl
    | cons b rest =>
      have hrest : k + 1 ≤ rest.length := Nat.le_of_lt_succ hlong
      have hb : b ≠ 0 := by
        rintro rfl
        cases h.eq_zero rfl
        cases hrest
      have hlow := Nat.le_trans (Nat.pow_le_pow_right (by decide) hrest) (le_toNat_cons hb rest)
      exact absurd hlt (Nat.not_lt.2 hlow)

/-- Shortest forms are ordered by their length first, and then as in a dictionary. -/
theorem IsShortest.toNat_lt_iff {bs cs : Bytes} (hb : bs.IsShortest) (hc : cs.IsShortest) :
    toNat bs < toNat cs ↔ bs.length < cs.length ∨ bs.length = cs.length ∧ bs < cs := by
  have lt_of_shorter : ∀ {bs cs : Bytes}, bs.IsShortest → cs.IsShortest →
      bs.length < cs.length → toNat bs < toNat cs := by
    intro bs cs hb hc hlength
    obtain ⟨k, hk⟩ := Nat.exists_eq_succ_of_ne_zero fun h => hb.ne_nil (List.length_eq_zero_iff.1 h)
    have hlow := hb.length_le_iff.1 (Nat.le_of_eq hk)
    have hhigh := (not_congr (hc.length_le_iff (k := k))).1 (by omega)
    exact Nat.lt_of_lt_of_le hlow (Nat.not_lt.1 hhigh)
  obtain hshort | hequal | hlong := Nat.lt_trichotomy bs.length cs.length
  · exact iff_of_true (lt_of_shorter hb hc hshort) (Or.inl hshort)
  · rw [toNat_lt_toNat_iff hequal]
    simp [hequal]
  · have hgt := lt_of_shorter hc hb hlong
    exact iff_of_false (by omega) (by omega)

/-- A number has one shortest form. -/
theorem IsShortest.eq_of_toNat_eq {bs cs : Bytes} (hb : bs.IsShortest) (hc : cs.IsShortest)
    (h : toNat bs = toNat cs) : bs = cs := by
  have hlength : bs.length = cs.length := by
    have hnot := (not_congr (hb.toNat_lt_iff hc)).1 (Nat.not_lt.2 (Nat.le_of_eq h.symm))
    have hnot' := (not_congr (hc.toNat_lt_iff hb)).1 (Nat.not_lt.2 (Nat.le_of_eq h))
    omega
  rw [← ofNat_toNat bs, ← ofNat_toNat cs, h, hlength]

/-- A byte string from its first byte that is not zero on; of nothing but zeros, the last. -/
def significant (bs : Bytes) : Bytes :=
  bs.drop ((bs.findIdx? (· != 0)).getD (bs.length - 1))

/-- Of a single byte nothing is left out. -/
theorem significant_singleton (b : UInt8) : significant [b] = [b] := by
  by_cases hb : b = 0 <;> simp [significant, hb]

/-- A byte that is not zero is the first to be kept. -/
theorem significant_cons_of_ne {b : UInt8} (h : b ≠ 0) (bs : Bytes) :
    significant (b :: bs) = b :: bs := by
  simp [significant, List.findIdx?_cons, h]

/-- A zero in front of another byte is left out. -/
theorem significant_zero_cons {bs : Bytes} (h : bs ≠ []) :
    significant (0 :: bs) = significant bs := by
  have hlength : 0 < bs.length := List.length_pos_iff.2 h
  have hzero : ((0 : UInt8) != 0) = false := rfl
  rw [significant, significant, List.findIdx?_cons, hzero]
  cases bs.findIdx? (· != 0) with
  | none =>
    obtain ⟨k, hk⟩ := Nat.exists_eq_succ_of_ne_zero (Nat.ne_of_gt hlength)
    simp [hk]
  | some i => simp

/-- What is left is the shortest form of the same number. -/
theorem significant_spec {bs : Bytes} (h : bs ≠ []) :
    (significant bs).IsShortest ∧ toNat (significant bs) = toNat bs := by
  induction bs with
  | nil => exact absurd rfl h
  | cons b bs ih =>
    by_cases hb : b = 0
    · subst hb
      cases bs with
      | nil =>
        rw [significant_singleton]
        exact ⟨⟨List.cons_ne_nil 0 [], fun _ => rfl⟩, rfl⟩
      | cons c bs =>
        have hrest : c :: bs ≠ [] := List.cons_ne_nil c bs
        rw [significant_zero_cons hrest, toNat_zero_cons]
        exact ih hrest
    · rw [significant_cons_of_ne hb]
      refine ⟨⟨List.cons_ne_nil b bs, fun hhead => ?_⟩, rfl⟩
      exact absurd (Option.some.inj hhead) hb

end Bytes

namespace SequenceId

/-- A sequence id is the shortest form of its number. -/
theorem isShortest_ofNat (n : Nat) : Bytes.IsShortest (ofNat n) := by
  induction n using ofNat.induct with
  | case1 n h =>
    rw [ofNat, if_pos h]
    exact ⟨List.cons_ne_nil _ _, fun hhead => by rw [Option.some.inj hhead]⟩
  | case2 n h ih =>
    rw [ofNat, if_neg h]
    refine ⟨by simp, fun hhead => ?_⟩
    -- The bytes in front would be the single byte zero, and the number below 256.
    have hfront : (ofNat (n / 256)).head? = some 0 := by
      rwa [List.head?_append, List.head?_eq_some_head ih.ne_nil, Option.some_or,
        ← List.head?_eq_some_head ih.ne_nil] at hhead
    have hzero := congrArg Bytes.toNat (ih.eq_zero hfront)
    rw [toNat_ofNat, show Bytes.toNat [0] = 0 from rfl] at hzero
    omega

/-- The byte strings that are ids are the shortest forms. -/
theorem ofNat_toNat {id : SequenceId} (h : Bytes.IsShortest id) : ofNat (Bytes.toNat id) = id :=
  (isShortest_ofNat _).eq_of_toNat_eq h (toNat_ofNat _)

/-- The id of a number that fits some bytes is made of these. -/
theorem ofNat_eq_significant {n width : Nat} (h : n < Nat.pow 256 (width + 1)) :
    ofNat n = (Bytes.ofNat (width + 1) n).significant := by
  have hne : Bytes.ofNat (width + 1) n ≠ [] := by simp [Bytes.ofNat]
  obtain ⟨hshortest, hnumber⟩ := Bytes.significant_spec hne
  rw [Bytes.toNat_ofNat h] at hnumber
  exact (isShortest_ofNat n).eq_of_toNat_eq hshortest ((toNat_ofNat n).trans hnumber.symm)

/-- An id has no more bytes than its number needs. -/
theorem length_ofNat_le_iff {n k : Nat} :
    (ofNat n).length ≤ k + 1 ↔ n < Nat.pow 256 (k + 1) := by
  rw [(isShortest_ofNat n).length_le_iff, toNat_ofNat]

/-- The id of zero is one byte. -/
theorem ofNat_zero : ofNat 0 = [0] := by
  rw [ofNat, if_pos (by decide)]
  rfl

/-- Only the id of zero begins with zero. -/
theorem head?_ofNat_eq_zero_iff {n : Nat} : (ofNat n).head? = some 0 ↔ n = 0 := by
  constructor
  · intro hhead
    rw [← toNat_ofNat n, (isShortest_ofNat n).eq_zero hhead]
    rfl
  · rintro rfl
    rw [ofNat_zero]
    rfl

/-- **Every number has one id, and the ids are ordered as the numbers are.** The id of a 64-bit number
is made of its eight bytes, most significant first, from the first that is not zero on. Any id reads
back as its number and has a byte; it has at most eight exactly if the number fits 64 bits, and begins
with zero only if the number is zero, whose id is the single byte zero. A byte string that is not
empty and begins with zero only if it is that byte is the id of some number. No two numbers have the
same id, and of two numbers the smaller has the shorter id, or one of the same length that comes
first in a dictionary. -/
theorem ids_are_shortest_and_ordered :
    (∀ n : UInt64, ofNat n.toNat = (Bytes.ofNat 8 n.toNat).significant) ∧
    (∀ n, Bytes.toNat (ofNat n) = n ∧ 1 ≤ (ofNat n).length ∧
      ((ofNat n).length ≤ 8 ↔ n < UInt64.size) ∧ ((ofNat n).head? = some 0 ↔ n = 0)) ∧
    ofNat 0 = [0] ∧
    (∀ id, (∃ n, ofNat n = id) ↔ Bytes.IsShortest id) ∧
    (∀ a b, ofNat a = ofNat b ↔ a = b) ∧
    ∀ a b, a < b ↔ (ofNat a).length < (ofNat b).length ∨
      (ofNat a).length = (ofNat b).length ∧ ofNat a < ofNat b := by
  refine ⟨fun n => ofNat_eq_significant n.toNat_lt, fun n => ⟨toNat_ofNat n, ?_, ?_, ?_⟩,
    ofNat_zero, fun id => ⟨?_, ?_⟩, fun a b => ⟨ofNat_injective, congrArg ofNat⟩, fun a b => ?_⟩
  · exact List.length_pos_iff.2 (isShortest_ofNat n).ne_nil
  · exact length_ofNat_le_iff
  · exact head?_ofNat_eq_zero_iff
  · rintro ⟨n, rfl⟩
    exact isShortest_ofNat n
  · intro hid
    exact ⟨Bytes.toNat id, ofNat_toNat hid⟩
  · rw [← (isShortest_ofNat a).toNat_lt_iff (isShortest_ofNat b), toNat_ofNat, toNat_ofNat]

end SequenceId

end MercuryLink
