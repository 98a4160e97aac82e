import MercuryLink.Proofs.Message.WireForm

/-!
# The end of a packet

A packet shows its own end: no wire form is the start of another one. So a reader never takes a
packet that is cut short, or one with bytes behind it, for some other packet. The sequence id alone
is read from the front, from whatever starts with it, and it is the id that reading all of the bytes
finds. A packet that is broken further on is therefore held against its own message.
-/

namespace MercuryLink.Packet

/-- The wire form of one packet starts with that of another only if they are the same. -/
theorem wire_prefix_free {p q : Packet} (hp : p.Fits) (hq : q.Fits) {rest : Bytes}
    (h : p.wire = q.wire ++ rest) : rest = [] := by
  have hread : decode (q.wire ++ rest) = .ok p := h ▸ decode_eq_ok_iff.2 ⟨hp, rfl⟩
  rw [decode_wire_append hq] at hread
  split at hread
  · next hrest => exact List.isEmpty_iff.1 hrest
  · cases hread

/-- A packet that is cut short is read as truncated. -/
theorem truncated_of_cut {p : Packet} (hfits : p.Fits) {front more : Bytes}
    (hmore : more ≠ []) (h : p.wire = front ++ more) :
    ∃ piece, decode front = .error (.truncated piece) := by
  obtain htruncated | ⟨q, hq, rest, rfl⟩ := truncated_or_wire_append front
  · exact htruncated
  · rw [List.append_assoc] at h
    have hnil := wire_prefix_free hfits hq h
    exact absurd (List.append_eq_nil_iff.1 hnil).2 hmore

/-! ### The sequence id at the front -/

/-- The id read from the front is what stands there behind its length. -/
theorem peekSequence?_eq_some_iff {bytes : Bytes} {id : SequenceId} :
    peekSequence? bytes = some id ↔ id.length ≤ maxLength ∧ ∃ rest, bytes = counted id ++ rest := by
  have room : Nat.pow 256 2 = maxLength + 1 := rfl
  constructor
  · intro h
    simp only [peekSequence?, Option.bind_eq_bind, Option.bind_eq_some_iff, Option.pure_def,
      Option.some.injEq, Prod.exists] at h
    obtain ⟨field, bs, hfield, sequence, rest, hsequence, rfl⟩ := h
    obtain ⟨rfl, hwidth⟩ := Bytes.split?_eq_some_iff.1 hfield
    obtain ⟨rfl, hlength⟩ := Bytes.split?_eq_some_iff.1 hsequence
    have hlt := Bytes.toNat_lt field
    rw [hwidth, room] at hlt
    refine ⟨hlength ▸ Nat.le_of_lt_succ hlt, rest, ?_⟩
    rw [counted, hlength, ← hwidth, Bytes.ofNat_toNat, List.append_assoc]
  · rintro ⟨hid, rest, rfl⟩
    have hfield : Bytes.split? 2 (counted id ++ rest) =
        some (Bytes.ofNat 2 id.length, id ++ rest) :=
      Bytes.split?_eq_some_iff.2 ⟨by rw [counted, List.append_assoc], Bytes.length_ofNat 2 _⟩
    have hlength : Bytes.toNat (Bytes.ofNat 2 id.length) = id.length :=
      Bytes.toNat_ofNat (by omega)
    have hsequence : Bytes.split? id.length (id ++ rest) = some (id, rest) :=
      Bytes.split?_eq_some_iff.2 ⟨rfl, rfl⟩
    simp [peekSequence?, hfield, hlength, hsequence]

/-- The id of a packet is read from its wire form, whatever follows. -/
theorem peekSequence?_wire_append {p : Packet} (hfits : p.Fits) (rest : Bytes) :
    peekSequence? (p.wire ++ rest) = some p.sequence := by
  refine peekSequence?_eq_some_iff.2 ⟨hfits.sequence,
    p.flags :: (Bytes.ofNat 2 p.parts.length ++ (p.parts.flatMap counted ++ rest)), ?_⟩
  simp [wire]

/-- The front of a packet yields the id once it reaches the end of the id, and nothing before. -/
theorem peekSequence?_of_front {p : Packet} (hfits : p.Fits) {front more : Bytes}
    (h : p.wire = front ++ more) :
    peekSequence? front =
      if 2 + p.sequence.length ≤ front.length then some p.sequence else none := by
  have hcounted : p.wire = counted p.sequence ++
      (p.flags :: (Bytes.ofNat 2 p.parts.length ++ p.parts.flatMap counted)) := by
    simp [wire]
  have hwidth : (counted p.sequence).length = 2 + p.sequence.length := by simp [counted]
  split
  · next hlong =>
    rw [hcounted] at h
    obtain ⟨rest, rfl⟩ : counted p.sequence <+: front :=
      List.prefix_of_prefix_length_le ⟨_, rfl⟩ ⟨more, h.symm⟩ (by rw [hwidth]; exact hlong)
    exact peekSequence?_eq_some_iff.2 ⟨hfits.sequence, rest, rfl⟩
  · next hshort =>
    cases hpeek : peekSequence? front with
    | none => rfl
    | some id =>
      -- An id that the front yields is the id of the whole, which the front cannot hold.
      obtain ⟨hid, rest, rfl⟩ := peekSequence?_eq_some_iff.1 hpeek
      have hwhole : peekSequence? (p.wire ++ []) = some id := by
        rw [List.append_nil, h, List.append_assoc]
        exact peekSequence?_eq_some_iff.2 ⟨hid, _, rfl⟩
      rw [peekSequence?_wire_append hfits, Option.some.injEq] at hwhole
      subst hwhole
      rw [List.length_append, hwidth] at hshort
      omega

/-- **A packet ends where its wire form ends.** Cut anywhere before its end, what was written is
read as truncated; with anything behind it, the bytes behind it are counted and refused. Both are
failures of one message. The sequence id is read from the front of what was written as soon as the
front holds it, also with anything behind the packet, and from no shorter front; and of any bytes
that are read as a packet, the id read from the front is the id of that packet. -/
theorem written_packet_delimits_itself {p : Packet} {written : Bytes}
    (hwritten : p.encode = .ok written) :
    (∀ front, front <+: written → front ≠ written →
      ∃ piece, decode front = .error (.truncated piece) ∧
        LinkError.ofPacket (.truncated piece) =
          .badMessage ("mercury payload truncated in " ++ piece.name)) ∧
    (∀ more, more ≠ [] →
      decode (written ++ more) = .error (.trailing more.length p.parts.length) ∧
        LinkError.ofPacket (.trailing more.length p.parts.length) =
          .badMessage (Nat.repr more.length ++ " trailing bytes after " ++
            Nat.repr p.parts.length ++ " parts")) ∧
    (∀ more, peekSequence? (written ++ more) = some p.sequence) ∧
    (∀ front, front <+: written → peekSequence? front =
      if 2 + p.sequence.length ≤ front.length then some p.sequence else none) ∧
    ∀ bytes q, decode bytes = .ok q → peekSequence? bytes = some q.sequence := by
  obtain ⟨hfits, rfl⟩ := encode_eq_ok_iff.1 hwritten
  refine ⟨?_, ?_, peekSequence?_wire_append hfits, ?_, ?_⟩
  · rintro front ⟨more, hmore⟩ hcut
    have hrest : more ≠ [] := by
      rintro rfl
      rw [List.append_nil] at hmore
      exact hcut hmore
    obtain ⟨piece, hpiece⟩ := truncated_of_cut hfits hrest hmore.symm
    exact ⟨piece, hpiece, rfl⟩
  · intro more hmore
    have hfull : more.isEmpty = false := by simpa using hmore
    refine ⟨?_, rfl⟩
    rw [decode_wire_append hfits, hfull, if_neg Bool.false_ne_true]
  · rintro front ⟨more, hmore⟩
    exact peekSequence?_of_front hfits hmore.symm
  · intro bytes q hread
    obtain ⟨hq, rfl⟩ := decode_eq_ok_iff.1 hread
    simpa using peekSequence?_wire_append hq []

/-- A request with one part, written and cut within that part: its id is known all the same. -/
theorem written_packet_delimits_itself_cut :
    (⟨[0, 7], 1, [[104, 105]]⟩ : Packet).encode =
        .ok [0, 2, 0, 7, 1, 0, 1, 0, 2, 104, 105] ∧
      (∃ piece, decode [0, 2, 0, 7, 1, 0, 1, 0, 2, 104] = .error (.truncated piece)) ∧
      peekSequence? [0, 2, 0, 7, 1, 0, 1, 0, 2, 104] = some [0, 7] := by
  have hwritten : (⟨[0, 7], 1, [[104, 105]]⟩ : Packet).encode =
      .ok [0, 2, 0, 7, 1, 0, 1, 0, 2, 104, 105] := rfl
  have hcut : [0, 2, 0, 7, 1, 0, 1, 0, 2, 104] <+: ([0, 2, 0, 7, 1, 0, 1, 0, 2, 104, 105] : Bytes) :=
    ⟨[105], rfl⟩
  obtain ⟨htruncated, -, -, hpeek, -⟩ := written_packet_delimits_itself hwritten
  obtain ⟨piece, hpiece, -⟩ := htruncated _ hcut (by decide)
  exact ⟨hwritten, ⟨piece, hpiece⟩, hpeek _ hcut⟩

end MercuryLink.Packet
