import Mathlib.Data.List.Basic
import MercuryLink.Frame.Seal

/-!
# The wire form of a sealed frame

The sealer encrypts header and payload in one run, the opener decrypts the header alone and goes
on with the payload later. The wire form therefore falls into a header part and a body part, and
the cipher state between them is the same on both sides although it stands inside a word. The
main statements say that an opener finds the frame at the front of exactly those byte strings
that begin with its body part, and that every three bytes are the header part of some frame.
-/

namespace MercuryLink

namespace Sealer

/-- The state of the cipher behind the header of a frame. -/
def headed (key : Shannon.Key) (nonce : UInt32) (f : Frame) : Shannon.State :=
  ((key.start nonce).encrypt f.header).1

/-- The part of the wire form that carries the header. -/
def wireHeader (key : Shannon.Key) (nonce : UInt32) (f : Frame) : Bytes :=
  ((key.start nonce).encrypt f.header).2

/-- The part of the wire form that carries payload and tag, from the state behind the header. -/
def wireBody (cipher : Shannon.State) (payload : Bytes) : Bytes :=
  (cipher.encrypt payload).2 ++ (cipher.encrypt payload).1.tag

/-- The wire form is its header part followed by its body part. -/
theorem wire_eq (key : Shannon.Key) (nonce : UInt32) (f : Frame) :
    wire key nonce (f.header ++ f.payload) =
      wireHeader key nonce f ++ wireBody (headed key nonce f) f.payload := by
  have hcut : f.header.length % 4 = 0 ∨ f.header.length % 4 = 3 := by
    rw [Frame.length_header]
    exact Or.inr rfl
  have happend :=
    Shannon.State.encrypt_append (key.unfinished_start nonce) f.header f.payload hcut
  simp only [wire, wireHeader, wireBody, headed, happend, List.append_assoc]

@[simp] theorem length_wireHeader (key : Shannon.Key) (nonce : UInt32) (f : Frame) :
    (wireHeader key nonce f).length = Frame.headerSize := by
  rw [wireHeader, Shannon.State.length_encrypt, Frame.length_header]

theorem wireHeader_ne_nil (key : Shannon.Key) (nonce : UInt32) (f : Frame) :
    wireHeader key nonce f ≠ [] :=
  List.ne_nil_of_length_pos (by rw [length_wireHeader]; decide)

@[simp] theorem length_wireBody (cipher : Shannon.State) (payload : Bytes) :
    (wireBody cipher payload).length = payload.length + Frame.tagSize := by
  rw [wireBody, List.length_append, Shannon.State.length_encrypt, Shannon.State.length_tag]
  rfl

/-- A count below the number of nonces is the nonce of the next frame. -/
theorem ofCount?_eq_some_iff {count : Nat} {nonce : UInt32} :
    Nonce.ofCount? count = some nonce ↔ count < UInt32.size ∧ UInt32.ofNat count = nonce := by
  rw [Nonce.ofCount?]
  split
  · next h => simp [h]
  · next h => simp [h]

/-- A frame is sealed if its payload fits and a nonce is left; it uses that nonce alone. -/
theorem sealFrame_eq_ok_iff {s s' : Sealer} {f : Frame} {bytes : Bytes} :
    s.sealFrame f = .ok (s', bytes) ↔
      f.payload.length ≤ Frame.maxPayload ∧ s.count < UInt32.size ∧
        s' = ⟨s.key, s.count + 1⟩ ∧
          bytes = wire s.key (UInt32.ofNat s.count) (f.header ++ f.payload) := by
  rw [sealFrame, Frame.encode]
  by_cases hfit : f.payload.length > Frame.maxPayload
  · rw [if_pos hfit]
    constructor
    · intro h
      exact absurd h (by simp [bind, Except.bind])
    · rintro ⟨hle, -⟩
      omega
  · rw [if_neg hfit]
    cases hnonce : Nonce.ofCount? s.count with
    | none =>
      have hfull : ¬ s.count < UInt32.size := by
        intro hlt
        simp [Nonce.ofCount?, hlt] at hnonce
      simp [bind, Except.bind, hfull]
    | some nonce =>
      obtain ⟨hroom, rfl⟩ := ofCount?_eq_some_iff.1 hnonce
      simp only [bind, Except.bind, Except.ok.injEq, Prod.mk.injEq]
      constructor
      · rintro ⟨rfl, rfl⟩
        exact ⟨by omega, hroom, rfl, rfl⟩
      · rintro ⟨-, -, rfl, rfl⟩
        exact ⟨rfl, rfl⟩

end Sealer

namespace Opener

open Sealer

/-- A body that is not complete is waited for; nothing of it is consumed. -/
theorem openBody_of_short (o : Opener) (command : Command) {length : Nat} (nonce : UInt32)
    (cipher : Shannon.State) {source : Bytes} (h : source.length < length + Frame.tagSize) :
    o.openBody command length nonce cipher source =
      ⟨{ o with phase := .body command length nonce cipher }, source, .ok none⟩ := by
  rw [openBody, Bytes.split?_eq_none_iff.2 h]

/-- A body part at the front of the source opens to its payload and is consumed. -/
theorem openBody_wireBody (o : Opener) (command : Command) (nonce : UInt32)
    (cipher : Shannon.State) (payload rest : Bytes) :
    o.openBody command payload.length nonce cipher (wireBody cipher payload ++ rest) =
      ⟨{ o with phase := .header }, rest, .ok (some ⟨command, payload⟩)⟩ := by
  have hcut : Bytes.split? (payload.length + Frame.tagSize) (wireBody cipher payload ++ rest) =
      some (wireBody cipher payload, rest) :=
    Bytes.split?_eq_some_iff.2 ⟨rfl, length_wireBody cipher payload⟩
  have htake : (wireBody cipher payload).take payload.length = (cipher.encrypt payload).2 := by
    rw [wireBody, List.take_left' (Shannon.State.length_encrypt cipher payload)]
  have hdrop : (wireBody cipher payload).drop payload.length = (cipher.encrypt payload).1.tag := by
    rw [wireBody, List.drop_left' (Shannon.State.length_encrypt cipher payload)]
  simp only [openBody, hcut, htake, hdrop, Shannon.State.decrypt_encrypt, if_true]

/-- Only a body part opens: what was consumed is the body part of the frame that came out. -/
theorem eq_wireBody_of_openBody {o : Opener} {command : Command} {length : Nat} {nonce : UInt32}
    {cipher : Shannon.State} {source : Bytes} {f : Frame}
    (h : (o.openBody command length nonce cipher source).outcome = .ok (some f)) :
    f.command = command ∧ f.payload.length = length ∧
      source = wireBody cipher f.payload ++
        (o.openBody command length nonce cipher source).rest := by
  unfold openBody at h ⊢
  cases hcut : Bytes.split? (length + Frame.tagSize) source with
  | none => simp [hcut] at h
  | some parts =>
    obtain ⟨body, rest⟩ := parts
    obtain ⟨rfl, hlength⟩ := Bytes.split?_eq_some_iff.1 hcut
    simp only [hcut] at h ⊢
    split at h
    · next htag =>
      simp only [Except.ok.injEq, Option.some.injEq] at h
      subst h
      have hpayload : (body.take length).length = length := by
        rw [List.length_take, hlength]
        omega
      refine ⟨rfl, by rw [Shannon.State.length_decrypt, hpayload], ?_⟩
      rw [if_pos htag, wireBody, Shannon.State.encrypt_decrypt, htag, List.take_append_drop]
    · simp [fail] at h

/-- Frames of one command and one payload length have the same header. -/
theorem header_congr {f g : Frame} (hc : f.command = g.command)
    (hl : f.payload.length = g.payload.length) : f.header = g.header := by
  rw [Frame.header, Frame.header, hc, hl]

/-- Every three bytes are the header part of the frames of some command and some length. -/
theorem exists_wireHeader (key : Shannon.Key) (nonce : UInt32) (a b c : UInt8) :
    ∃ f : Frame, f.payload.length ≤ Frame.maxPayload ∧ wireHeader key nonce f = [a, b, c] := by
  let clear := ((key.start nonce).decrypt [a, b, c]).2
  have hclear : clear.length = Frame.headerSize := Shannon.State.length_decrypt _ _
  let f : Frame := ⟨(Frame.parseHeader clear).1, List.replicate (Frame.parseHeader clear).2 0⟩
  have hlength : f.payload.length = (Frame.parseHeader clear).2 := List.length_replicate
  refine ⟨f, hlength ▸ Frame.parseHeader_le hclear, ?_⟩
  have hheader : f.header = clear := Frame.header_parseHeader hclear hlength
  rw [wireHeader, hheader, Shannon.State.encrypt_decrypt]

/-- A header that is not complete is waited for; nothing of it is consumed. -/
theorem openHeader_of_short (o : Opener) {source : Bytes}
    (h : source.length < Frame.headerSize) : o.openHeader source = ⟨o, source, .ok none⟩ := by
  match source with
  | [] | [_] | [_, _] => rfl
  | a :: b :: c :: rest =>
    simp only [List.length_cons, Frame.headerSize] at h
    omega

/-- A header part is deciphered as soon as it is there. A length above the limit is refused, any
other leads on to the body. -/
theorem openHeader_wireHeader {o : Opener} {nonce : UInt32} {f : Frame} (rest : Bytes)
    (hnonce : Nonce.ofCount? o.count = some nonce)
    (hfit : f.payload.length ≤ Frame.maxPayload) :
    o.openHeader (wireHeader o.key nonce f ++ rest) =
      if f.payload.length > o.limit then
        fail { o with count := o.count + 1 } rest (.payloadTooLarge f.payload.length o.limit)
      else
        openBody { o with count := o.count + 1 } f.command f.payload.length nonce
          (headed o.key nonce f) rest := by
  have hlength := length_wireHeader o.key nonce f
  obtain ⟨a, b, c, habc⟩ : ∃ a b c, wireHeader o.key nonce f = [a, b, c] :=
    List.length_eq_three.1 hlength
  have hopen : (o.key.start nonce).decrypt [a, b, c] = (headed o.key nonce f, f.header) := by
    rw [← habc, wireHeader, Shannon.State.decrypt_encrypt, headed]
  rw [habc]
  simp only [List.cons_append, List.nil_append, openHeader, hnonce, hopen,
    Frame.parseHeader_header hfit]

/-- The wire form of a frame within the limit opens to the frame and is consumed. -/
theorem openHeader_wire {o : Opener} {nonce : UInt32} {f : Frame} (rest : Bytes)
    (hnonce : Nonce.ofCount? o.count = some nonce)
    (hfit : f.payload.length ≤ Frame.maxPayload) (hlimit : f.payload.length ≤ o.limit) :
    o.openHeader (wire o.key nonce (f.header ++ f.payload) ++ rest) =
      ⟨{ o with count := o.count + 1, phase := .header }, rest, .ok (some f)⟩ := by
  rw [wire_eq, List.append_assoc, openHeader_wireHeader _ hnonce hfit, if_neg (by omega),
    openBody_wireBody]

/-- Only wire forms open: what was consumed is the wire form of the frame that came out, under the
next nonce. -/
theorem eq_wire_of_openHeader {o : Opener} {source : Bytes} {f : Frame}
    (h : (o.openHeader source).outcome = .ok (some f)) :
    o.count < UInt32.size ∧ f.payload.length ≤ Frame.maxPayload ∧ f.payload.length ≤ o.limit ∧
      source = wire o.key (UInt32.ofNat o.count) (f.header ++ f.payload) ++
        (o.openHeader source).rest := by
  match source with
  | [] | [_] | [_, _] => simp [openHeader] at h
  | a :: b :: c :: rest =>
    cases hnonce : Nonce.ofCount? o.count with
    | none => simp [openHeader, hnonce, fail] at h
    | some nonce =>
      obtain ⟨hroom, rfl⟩ := ofCount?_eq_some_iff.1 hnonce
      obtain ⟨g, hfit, habc⟩ := exists_wireHeader o.key (UInt32.ofNat o.count) a b c
      have hsource : a :: b :: c :: rest = wireHeader o.key (UInt32.ofNat o.count) g ++ rest := by
        rw [habc]
        rfl
      rw [hsource, openHeader_wireHeader rest hnonce hfit] at h ⊢
      split at h
      · simp [fail] at h
      · next hlimit =>
        rw [if_neg hlimit]
        obtain ⟨hcommand, hlength, hrest⟩ := eq_wireBody_of_openBody h
        have hheader : g.header = f.header := header_congr hcommand.symm hlength.symm
        refine ⟨hroom, by omega, by omega, ?_⟩
        have hpart : wireHeader o.key (UInt32.ofNat o.count) g =
            wireHeader o.key (UInt32.ofNat o.count) f := by rw [wireHeader, wireHeader, hheader]
        have hstate : headed o.key (UInt32.ofNat o.count) g =
            headed o.key (UInt32.ofNat o.count) f := by rw [headed, headed, hheader]
        rw [wire_eq, ← hpart, ← hstate, List.append_assoc]
        exact congrArg (wireHeader o.key (UInt32.ofNat o.count) g ++ ·) hrest

end Opener

end MercuryLink
