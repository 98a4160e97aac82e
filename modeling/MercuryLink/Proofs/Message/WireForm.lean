import MercuryLink.Mercury.Error

/-!
# The wire form of a packet

A packet has a wire form exactly if its sequence id, the number of its parts and every part fit
their length fields, and reading takes nothing else: whatever bytes a reader accepts for a piece
are the bytes that the piece is written as. Each reader is described once, by the bytes it accepts,
and both directions of the main statement are read off that.
-/

namespace MercuryLink.Packet

/-- Every length in a packet fits its field. -/
structure Fits (p : Packet) : Prop where
  sequence : p.sequence.length ≤ maxLength
  partCount : p.parts.length ≤ maxLength
  parts : ∀ part ∈ p.parts, part.length ≤ maxLength

/-- The bytes that a packet is written as, where its lengths fit their fields. -/
def wire (p : Packet) : Bytes :=
  counted p.sequence ++ p.flags :: Bytes.ofNat 2 p.parts.length ++ p.parts.flatMap counted

/-- A packet is written exactly if it fits, and then in its wire form. -/
theorem encode_eq_ok_iff {p : Packet} {bytes : Bytes} :
    p.encode = .ok bytes ↔ p.Fits ∧ bytes = p.wire := by
  rw [encode]
  split
  · next hsequence =>
    refine ⟨nofun, ?_⟩
    rintro ⟨hfits, -⟩
    exact absurd hfits.sequence (Nat.not_le.2 hsequence)
  · next hsequence =>
    split
    · next hcount =>
      refine ⟨nofun, ?_⟩
      rintro ⟨hfits, -⟩
      exact absurd hfits.partCount (Nat.not_le.2 hcount)
    · next hcount =>
      split
      · next part hpart =>
        refine ⟨nofun, ?_⟩
        rintro ⟨hfits, -⟩
        have hlong : part.length > maxLength := by simpa using List.find?_some hpart
        exact absurd (hfits.parts part (List.mem_of_find?_eq_some hpart)) (Nat.not_le.2 hlong)
      · next hparts =>
        have hfits : p.Fits := by
          refine ⟨Nat.not_lt.1 hsequence, Nat.not_lt.1 hcount, ?_⟩
          intro part hmem
          simpa using List.find?_eq_none.1 hparts part hmem
        constructor
        · intro h
          exact ⟨hfits, (Except.ok.inj h).symm⟩
        · rintro ⟨-, rfl⟩
          rfl

/-- Why a packet is not written: the first of its pieces that does not fit, with its length. -/
inductive Overlong (p : Packet) : EncodeError → Prop where
  | sequence (long : p.sequence.length > maxLength) : Overlong p (.sequence p.sequence.length)
  | partCount (fits : p.sequence.length ≤ maxLength) (long : p.parts.length > maxLength) :
    Overlong p (.partCount p.parts.length)
  | part {part : Bytes} (fits : p.sequence.length ≤ maxLength)
    (count : p.parts.length ≤ maxLength) (mem : part ∈ p.parts) (long : part.length > maxLength) :
    Overlong p (.part part.length)

/-- A failure to write names a piece that does not fit. -/
theorem overlong_of_encode {p : Packet} {e : EncodeError} (h : p.encode = .error e) :
    p.Overlong e := by
  rw [encode] at h
  split at h
  · next hsequence =>
    cases h
    exact .sequence hsequence
  · next hsequence =>
    split at h
    · next hcount =>
      cases h
      exact .partCount (Nat.not_lt.1 hsequence) hcount
    · next hcount =>
      split at h
      · next part hpart =>
        cases h
        have hlong : part.length > maxLength := by simpa using List.find?_some hpart
        exact .part (Nat.not_lt.1 hsequence) (Nat.not_lt.1 hcount)
          (List.mem_of_find?_eq_some hpart) hlong
      · cases h

/-! ### What each reader accepts -/

theorem takeBytes_eq_ok_iff {piece : Piece} {n : Nat} {bs front rest : Bytes} :
    takeBytes piece n bs = .ok (front, rest) ↔ bs = front ++ rest ∧ front.length = n := by
  rw [← Bytes.split?_eq_some_iff, takeBytes]
  cases Bytes.split? n bs with
  | none => simp
  | some parts => simp

/-- A length is read from its two bytes, which can hold no more than the largest one. -/
theorem takeLength_eq_ok_iff {piece : Piece} {n : Nat} {bs rest : Bytes} :
    takeLength piece bs = .ok (n, rest) ↔ n ≤ maxLength ∧ bs = Bytes.ofNat 2 n ++ rest := by
  have room : Nat.pow 256 2 = maxLength + 1 := rfl
  constructor
  · intro h
    cases hfield : takeBytes piece 2 bs with
    | error e => simp [takeLength, hfield, bind, Except.bind] at h
    | ok parts =>
      obtain ⟨field, rest'⟩ := parts
      obtain ⟨rfl, hwidth⟩ := takeBytes_eq_ok_iff.1 hfield
      simp only [takeLength, hfield, bind, Except.bind, pure, Except.pure, Except.ok.injEq,
        Prod.mk.injEq] at h
      obtain ⟨rfl, rfl⟩ := h
      have hlt := Bytes.toNat_lt field
      rw [hwidth, room] at hlt
      exact ⟨Nat.le_of_lt_succ hlt, by rw [← hwidth, Bytes.ofNat_toNat]⟩
  · rintro ⟨hn, rfl⟩
    have hfield : takeBytes piece 2 (Bytes.ofNat 2 n ++ rest) = .ok (Bytes.ofNat 2 n, rest) :=
      takeBytes_eq_ok_iff.2 ⟨rfl, Bytes.length_ofNat 2 n⟩
    have hback : Bytes.toNat (Bytes.ofNat 2 n) = n := Bytes.toNat_ofNat (by omega)
    simp [takeLength, hfield, hback, bind, Except.bind, pure, Except.pure]

/-- What is read behind its length is what is written behind its length. -/
theorem takeCounted_eq_ok_iff (lengthPiece piece : Piece) {bs part rest : Bytes} :
    (∃ length bs', takeLength lengthPiece bs = .ok (length, bs') ∧
      takeBytes piece length bs' = .ok (part, rest)) ↔
      part.length ≤ maxLength ∧ bs = counted part ++ rest := by
  simp only [takeLength_eq_ok_iff, takeBytes_eq_ok_iff, counted]
  constructor
  · rintro ⟨length, bs', ⟨hlength, rfl⟩, rfl, rfl⟩
    exact ⟨hlength, by rw [List.append_assoc]⟩
  · rintro ⟨hlength, rfl⟩
    exact ⟨part.length, part ++ rest, ⟨hlength, by rw [List.append_assoc]⟩, rfl, rfl⟩

/-- The parts read are those written, behind the parts read before. -/
theorem takeParts_eq_ok_iff {count : Nat} {read parts : List Bytes} {bs rest : Bytes} :
    takeParts count read bs = .ok (parts, rest) ↔
      ∃ new, parts = read.reverse ++ new ∧ new.length = count ∧
        (∀ part ∈ new, part.length ≤ maxLength) ∧ bs = new.flatMap counted ++ rest := by
  -- The reader collects parts in front of those it has, hence the statement for any of these.
  induction count generalizing read bs with
  | zero =>
    rw [takeParts]
    constructor
    · intro h
      cases h
      exact ⟨[], by simp⟩
    · rintro ⟨new, rfl, hlength, -, rfl⟩
      rw [List.length_eq_zero_iff] at hlength
      subst hlength
      simp
  | succ count ih =>
    constructor
    · intro h
      cases hlength : takeLength .partLength bs with
      | error e => simp [takeParts, hlength, bind, Except.bind] at h
      | ok field =>
        obtain ⟨length, bs'⟩ := field
        cases hpart : takeBytes .part length bs' with
        | error e => simp [takeParts, hlength, hpart, bind, Except.bind] at h
        | ok taken =>
          obtain ⟨part, bs''⟩ := taken
          obtain ⟨hfits, rfl⟩ :=
            (takeCounted_eq_ok_iff .partLength .part).1 ⟨length, bs', hlength, hpart⟩
          simp only [takeParts, hlength, hpart, bind, Except.bind] at h
          obtain ⟨new, rfl, rfl, hnew, rfl⟩ := ih.1 h
          refine ⟨part :: new, by simp, rfl, ?_, by simp⟩
          simpa using ⟨hfits, hnew⟩
    · rintro ⟨new, rfl, hcount, hnew, rfl⟩
      obtain ⟨part, later, rfl⟩ := List.exists_cons_of_length_eq_add_one hcount
      obtain ⟨hfits, hlater⟩ := List.forall_mem_cons.1 hnew
      obtain ⟨length, bs', hlength, hpart⟩ :=
        (takeCounted_eq_ok_iff .partLength .part).2
          ⟨hfits, (rfl : counted part ++ (later.flatMap counted ++ rest) = _)⟩
      have hrest : takeParts count (part :: read) (later.flatMap counted ++ rest) =
          .ok (read.reverse ++ part :: later, rest) :=
        ih.2 ⟨later, by simp, by simpa using hcount, hlater, rfl⟩
      rw [List.flatMap_cons, List.append_assoc]
      simpa only [takeParts, hlength, hpart, bind, Except.bind] using hrest

/-! ### What reading makes of any bytes -/

theorem takeBytes_eq_error {piece : Piece} {n : Nat} {bs : Bytes} {e : DecodeError}
    (h : takeBytes piece n bs = .error e) : e = .truncated piece := by
  rw [takeBytes] at h
  split at h <;> cases h
  rfl

theorem takeLength_eq_error {piece : Piece} {bs : Bytes} {e : DecodeError}
    (h : takeLength piece bs = .error e) : e = .truncated piece := by
  cases hfield : takeBytes piece 2 bs with
  | error e' =>
    simp only [takeLength, hfield, bind, Except.bind] at h
    cases h
    exact takeBytes_eq_error hfield
  | ok field => simp [takeLength, hfield, bind, Except.bind, pure, Except.pure] at h

theorem takeParts_eq_error {count : Nat} {read : List Bytes} {bs : Bytes} {e : DecodeError}
    (h : takeParts count read bs = .error e) : ∃ piece, e = .truncated piece := by
  induction count generalizing read bs with
  | zero => cases h
  | succ count ih =>
    cases hlength : takeLength .partLength bs with
    | error e' =>
      simp only [takeParts, hlength, bind, Except.bind] at h
      cases h
      exact ⟨_, takeLength_eq_error hlength⟩
    | ok field =>
      cases hpart : takeBytes .part field.1 field.2 with
      | error e' =>
        simp only [takeParts, hlength, hpart, bind, Except.bind] at h
        cases h
        exact ⟨_, takeBytes_eq_error hpart⟩
      | ok taken =>
        simp only [takeParts, hlength, hpart, bind, Except.bind] at h
        exact ih h

/-- In front of any rest, a wire form is read to its end, and the rest is counted. -/
theorem decode_wire_append {p : Packet} (hfits : p.Fits) (rest : Bytes) :
    decode (p.wire ++ rest) =
      if rest.isEmpty then .ok p else .error (.trailing rest.length p.parts.length) := by
  obtain ⟨length, bs, hlength, hsequence⟩ :=
    (takeCounted_eq_ok_iff .sequenceLength .sequence).2 ⟨hfits.sequence,
      (rfl : counted p.sequence ++
        (p.flags :: (Bytes.ofNat 2 p.parts.length ++ (p.parts.flatMap counted ++ rest))) = _)⟩
  have hcount :
      takeLength .partCount
          (Bytes.ofNat 2 p.parts.length ++ (p.parts.flatMap counted ++ rest)) =
        .ok (p.parts.length, p.parts.flatMap counted ++ rest) :=
    takeLength_eq_ok_iff.2 ⟨hfits.partCount, rfl⟩
  have hparts :
      takeParts p.parts.length [] (p.parts.flatMap counted ++ rest) = .ok (p.parts, rest) :=
    takeParts_eq_ok_iff.2 ⟨p.parts, by simp, rfl, hfits.parts, rfl⟩
  have hwire : p.wire ++ rest = counted p.sequence ++
      (p.flags :: (Bytes.ofNat 2 p.parts.length ++ (p.parts.flatMap counted ++ rest))) := by
    simp [wire]
  rw [hwire]
  simp only [decode, hlength, hsequence, hcount, hparts, bind, Except.bind]

/-- Bytes that are not read as truncated start with the wire form of a packet. -/
theorem truncated_or_wire_append (bytes : Bytes) :
    (∃ piece, decode bytes = .error (.truncated piece)) ∨
      ∃ p : Packet, p.Fits ∧ ∃ rest, bytes = p.wire ++ rest := by
  cases hlength : takeLength .sequenceLength bytes with
  | error e =>
    obtain rfl := takeLength_eq_error hlength
    exact .inl ⟨.sequenceLength, by simp only [decode, hlength, bind, Except.bind]⟩
  | ok field =>
    obtain ⟨length, bs⟩ := field
    cases hsequence : takeBytes .sequence length bs with
    | error e =>
      obtain rfl := takeBytes_eq_error hsequence
      exact .inl ⟨.sequence, by simp only [decode, hlength, hsequence, bind, Except.bind]⟩
    | ok taken =>
      obtain ⟨sequence, bs'⟩ := taken
      obtain ⟨hfits, rfl⟩ :=
        (takeCounted_eq_ok_iff .sequenceLength .sequence).1 ⟨length, bs, hlength, hsequence⟩
      cases bs' with
      | nil => exact .inl ⟨.flags, by simp only [decode, hlength, hsequence, bind, Except.bind]⟩
      | cons flags bs' =>
        cases hcount : takeLength .partCount bs' with
        | error e =>
          obtain rfl := takeLength_eq_error hcount
          exact .inl ⟨.partCount, by
            simp only [decode, hlength, hsequence, hcount, bind, Except.bind]⟩
        | ok field =>
          obtain ⟨count, bs''⟩ := field
          cases hparts : takeParts count [] bs'' with
          | error e =>
            obtain ⟨piece, rfl⟩ := takeParts_eq_error hparts
            exact .inl ⟨piece, by
              simp only [decode, hlength, hsequence, hcount, hparts, bind, Except.bind]⟩
          | ok taken =>
            obtain ⟨parts, rest⟩ := taken
            obtain ⟨hcountFits, rfl⟩ := takeLength_eq_ok_iff.1 hcount
            obtain ⟨_, rfl, rfl, hnew, rfl⟩ := takeParts_eq_ok_iff.1 hparts
            exact .inr ⟨⟨sequence, flags, parts⟩, ⟨hfits, hcountFits, hnew⟩, rest, by simp [wire]⟩

/-- A packet is read exactly from its wire form, if it fits. -/
theorem decode_eq_ok_iff {p : Packet} {bytes : Bytes} :
    decode bytes = .ok p ↔ p.Fits ∧ bytes = p.wire := by
  constructor
  · intro h
    obtain ⟨piece, htruncated⟩ | ⟨q, hfits, rest, rfl⟩ := truncated_or_wire_append bytes
    · rw [htruncated] at h
      cases h
    · rw [decode_wire_append hfits] at h
      split at h
      · next hrest =>
        cases h
        rw [List.isEmpty_iff] at hrest
        exact ⟨hfits, by rw [hrest, List.append_nil]⟩
      · cases h
  · rintro ⟨hfits, rfl⟩
    simpa using decode_wire_append hfits []

/-- **A packet has one wire form.** A packet can be written exactly if its sequence id has at most
65535 bytes, there are at most 65535 parts and no part is longer than 65535 bytes; otherwise the
failure names a piece that is too long, and means for a request that it cannot be encoded. Reading
and writing undo each other in both directions: bytes are read as a packet exactly if that packet is
written as those bytes. So reading accepts exactly what writing produces, and each packet is read
from one byte string only. -/
theorem encode_decode_bijective (p : Packet) (bytes : Bytes) :
    ((∃ w, p.encode = .ok w) ↔ p.sequence.length ≤ 65535 ∧ p.parts.length ≤ 65535 ∧
      ∀ part ∈ p.parts, part.length ≤ 65535) ∧
    (∀ e, p.encode = .error e →
      p.Overlong e ∧ LinkError.ofEncode e = .unencodable e.message) ∧
    (∀ w, p.encode = .ok w → decode w = .ok p) ∧
    (decode bytes = .ok p → p.encode = .ok bytes) ∧
    ((∃ q, decode bytes = .ok q) ↔ ∃ q, encode q = .ok bytes) ∧
    ∀ other, decode bytes = .ok p → decode other = .ok p → bytes = other := by
  have inverse : ∀ (q : Packet) (w : Bytes), decode w = .ok q ↔ q.encode = .ok w := by
    intro q w
    rw [decode_eq_ok_iff, encode_eq_ok_iff]
  refine ⟨?_, ?_, fun w => (inverse p w).2, (inverse p bytes).1, ?_, ?_⟩
  · constructor
    · rintro ⟨w, hw⟩
      have hfits := (encode_eq_ok_iff.1 hw).1
      exact ⟨hfits.sequence, hfits.partCount, hfits.parts⟩
    · rintro ⟨hsequence, hcount, hparts⟩
      exact ⟨p.wire, encode_eq_ok_iff.2 ⟨⟨hsequence, hcount, hparts⟩, rfl⟩⟩
  · intro e he
    exact ⟨overlong_of_encode he, rfl⟩
  · exact exists_congr fun q => inverse q bytes
  · intro other hbytes hother
    rw [(decode_eq_ok_iff.1 hbytes).2, (decode_eq_ok_iff.1 hother).2]

/-- Empty pieces have a form of their own: no sequence id, and one part without bytes. -/
example : decode [0, 0, 1, 0, 1, 0, 0] = .ok ⟨[], 1, [[]]⟩ ∧
    (⟨[], 1, [[]]⟩ : Packet).encode = .ok [0, 0, 1, 0, 1, 0, 0] := ⟨rfl, rfl⟩

end MercuryLink.Packet
