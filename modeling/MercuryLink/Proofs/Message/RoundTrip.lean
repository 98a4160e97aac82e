import MercuryLink.Proofs.Message.WireForm
import MercuryLink.Proofs.Record.Reading
import MercuryLink.Mercury.Message

/-!
# What a message says after its way over the wire

A header reads back field by field, each absent field staying absent and the user fields in their
order. A request that can be written is therefore read as it was meant: its packet is read with one
flag, its header names its method, and the message that its parts make up holds what the request
held. The only bound is that a header has fewer than 2^64 bytes, as every byte string in memory has.
-/

namespace MercuryLink

open Record

/-- A user field reads back into an empty one, absent key or value included. -/
theorem UserField.reads_encode (depth : Nat) {f : UserField} (h : f.encode.length < UInt64.size) :
    Reads UserField.take depth UserField.blank f.encode f := by
  obtain ⟨key, value⟩ := f
  simp only [UserField.encode, List.length_append] at h
  have hkey : Reads UserField.take depth ⟨none, none⟩ (optional (textField 1) key)
      ⟨key, none⟩ :=
    .optionalText (fun key => UserField.mk key none) (by decide) (by decide) (by omega)
      fun _ => rfl
  have hvalue : Reads UserField.take depth ⟨key, none⟩ (optional (blobField 2) value)
      ⟨key, value⟩ := by
    refine .optional (n := UInt64.size) (by omega) (by rintro rfl; rfl) ?_
    rintro bs rfl hbs
    exact .blob (fun bs => UserField.mk key (some bs)) (by decide) (by decide) hbs fun _ => rfl
  exact hkey.append hvalue

namespace Header

/-- The user fields written for a header are read behind those it has, in their order. -/
theorem reads_userFields (depth : Nat) {h : Header} {fs : List UserField}
    (hlength : (fs.flatMap fun f => blobField 6 f.encode).length < UInt64.size) :
    Reads Header.take (depth + 1) h (fs.flatMap fun f => blobField 6 f.encode)
      { h with userFields := h.userFields ++ fs } := by
  induction fs generalizing h with
  | nil =>
    rw [List.append_nil]
    exact .nil h
  | cons f fs ih =>
    rw [List.flatMap_cons, List.length_append] at hlength
    have hfield : (blobField 6 f.encode).length < UInt64.size := by omega
    have hf : f.encode.length < UInt64.size := length_lt_of_blobField hfield
    have hhead : Reads Header.take (depth + 1) h (blobField 6 f.encode)
        { h with userFields := h.userFields ++ [f] } := by
      refine .field (by decide) (by decide) ?_
      intro source rest hsource
      obtain ⟨hrest, hread⟩ := (f.reads_encode depth hf).nested hf hsource
      exact ⟨hrest, by simp only [Header.take, hread, ne_eq, not_true_eq_false, if_false]⟩
    have htail := @ih { h with userFields := h.userFields ++ [f] } (by omega)
    rw [List.append_assoc] at htail
    exact hhead.append htail

/-- A header reads back into an empty one. -/
theorem reads_encode {h : Header} (hlength : h.encode.length < UInt64.size) :
    Reads Header.take depthLimit Header.blank h.encode h := by
  obtain ⟨uri, contentType, method, status, userFields⟩ := h
  simp only [Header.encode, List.length_append] at hlength
  have huri : Reads Header.take depthLimit ⟨none, none, none, none, []⟩
      (optional (textField 1) uri) ⟨uri, none, none, none, []⟩ :=
    .optionalText (fun uri => Header.mk uri none none none [])
      (by decide) (by decide) (by omega) fun _ => rfl
  have hcontentType : Reads Header.take depthLimit ⟨uri, none, none, none, []⟩
      (optional (textField 2) contentType) ⟨uri, contentType, none, none, []⟩ :=
    .optionalText (fun contentType => Header.mk uri contentType none none [])
      (by decide) (by decide) (by omega) fun _ => rfl
  have hmethod : Reads Header.take depthLimit ⟨uri, contentType, none, none, []⟩
      (optional (textField 3) method) ⟨uri, contentType, method, none, []⟩ :=
    .optionalText (fun method => Header.mk uri contentType method none [])
      (by decide) (by decide) (by omega) fun _ => rfl
  have hstatus : Reads Header.take depthLimit ⟨uri, contentType, method, none, []⟩
      (optional (fun status => numberField 4 (zigzag status)) status)
      ⟨uri, contentType, method, status, []⟩ := by
    refine .optional (n := UInt64.size) (by omega) (by rintro rfl; rfl) ?_
    rintro i rfl -
    have hi : zigzag i < UInt64.size := Nat.lt_trans (zigzag_lt i) (by decide)
    have hread : Reads Header.take depthLimit ⟨uri, contentType, method, none, []⟩
        (numberField 4 (zigzag i)) ⟨uri, contentType, method, some (ofZigzag (zigzag i)), []⟩ :=
      .number (fun n => Header.mk uri contentType method (some (ofZigzag n)) [])
        (by decide) (by decide) hi fun _ => rfl
    rwa [ofZigzag_zigzag] at hread
  have huserFields : Reads Header.take depthLimit ⟨uri, contentType, method, status, []⟩
      (userFields.flatMap fun f => blobField 6 f.encode)
      ⟨uri, contentType, method, status, userFields⟩ := reads_userFields (depthLimit - 1) (by omega)
  exact (((huri.append hcontentType).append hmethod).append hstatus).append huserFields

/-- A header is decoded from its own bytes. -/
theorem decode_encode {h : Header} (hlength : h.encode.length < UInt64.size) :
    Header.decode h.encode = .ok h :=
  (reads_encode hlength).decode

end Header

namespace Message

/-- The parts behind a written header make up the message of that header. -/
theorem ofParts_encode {h : Header} (sequence : SequenceId) (payload : List Bytes)
    (hlength : h.encode.length < UInt64.size) :
    ofParts sequence (h.encode :: payload) = .ok (ofHeader sequence h payload) := by
  rw [ofParts, Header.decode_encode hlength]

/-- The message of a request's own header says what the request says. -/
theorem ofHeader_request (r : Request) (sequence : SequenceId) :
    ofHeader sequence r.header r.payload =
      ⟨sequence, r.uri, 0, r.contentType, r.userFields, r.payload⟩ := by
  simp [ofHeader, Request.header, Function.comp_def]

/-- **A message is read as it was written.** A request that can be written is read from its bytes
as a packet with its sequence id and the final flag alone. The first part of the packet is a header
that names the request's method, and the parts make up the message with the request's location, kind
of content, user fields and parts, and status zero. And whatever a header holds or lacks, the
message that its bytes, of which no memory holds 2^64, make up with any further parts holds the
same, where what is absent is the empty text, status zero or no bytes, while an absent kind of
content stays absent. -/
theorem read_as_written (r : Request) (h : Header) (sequence : SequenceId)
    (payload : List Bytes) :
    (∀ bytes, (r.toPacket sequence).encode = .ok bytes →
      ∃ header, Packet.decode bytes = .ok ⟨sequence, Packet.finalFlag, header :: r.payload⟩ ∧
        (∃ head, Header.decode header = .ok head ∧ head.method = some r.method.name) ∧
        ofParts sequence (header :: r.payload) =
          .ok ⟨sequence, r.uri, 0, r.contentType, r.userFields, r.payload⟩) ∧
    (h.encode.length < UInt64.size →
      ofParts sequence (h.encode :: payload) =
        .ok ⟨sequence, h.uri.getD "", h.status.getD 0, h.contentType,
          h.userFields.map fun f => (f.key.getD "", f.value.getD []), payload⟩) := by
  refine ⟨?_, ofParts_encode sequence payload⟩
  intro bytes hbytes
  obtain ⟨hfits, rfl⟩ := Packet.encode_eq_ok_iff.1 hbytes
  have hpart : r.header.encode.length ≤ Packet.maxLength :=
    hfits.parts r.header.encode List.mem_cons_self
  have hlength : r.header.encode.length < UInt64.size := Nat.lt_of_le_of_lt hpart (by decide)
  refine ⟨r.header.encode, Packet.decode_eq_ok_iff.2 ⟨hfits, rfl⟩, ?_, ?_⟩
  · exact ⟨r.header, Header.decode_encode hlength, rfl⟩
  · rw [ofParts_encode sequence r.payload hlength, ofHeader_request]

/-- A request with an empty user field key twice, and a header with a negative status, an empty
location and user fields that lack their key or their value. -/
theorem read_as_written_repeated :
    (∃ bytes header,
      ((⟨.send, "hm://a", none, [("", [1]), ("", [])], [[], [2]]⟩ : Request).toPacket [7]).encode =
        .ok bytes ∧
      Packet.decode bytes = .ok ⟨[7], Packet.finalFlag, [header, [], [2]]⟩ ∧
      ofParts [7] [header, [], [2]] =
        .ok ⟨[7], "hm://a", 0, none, [("", [1]), ("", [])], [[], [2]]⟩) ∧
    ofParts [7] [(⟨some "", none, none, some (-1), [⟨none, some [3]⟩, ⟨some "k", none⟩]⟩ :
        Header).encode] =
      .ok ⟨[7], "", -1, none, [("", [3]), ("k", [])], []⟩ := by
  obtain ⟨hrequest, hheader⟩ := read_as_written
    ⟨.send, "hm://a", none, [("", [1]), ("", [])], [[], [2]]⟩
    ⟨some "", none, none, some (-1), [⟨none, some [3]⟩, ⟨some "k", none⟩]⟩ [7] []
  refine ⟨?_, hheader (by decide +kernel)⟩
  have hfits : Packet.Fits (Request.toPacket
      ⟨.send, "hm://a", none, [("", [1]), ("", [])], [[], [2]]⟩ [7]) :=
    ⟨by decide +kernel, by decide +kernel, by decide +kernel⟩
  obtain ⟨header, hdecode, -, hparts⟩ := hrequest _ (Packet.encode_eq_ok_iff.2 ⟨hfits, rfl⟩)
  exact ⟨_, header, Packet.encode_eq_ok_iff.2 ⟨hfits, rfl⟩, hdecode, hparts⟩

end Message

end MercuryLink
