import MercuryLink.Proofs.Sealing.Wire

/-!
# A sealer and an opener in lockstep

A pipe joins a sealer to an opener of the same key. Frames are sealed onto the wire, bytes move
from the wire into a buffer in pieces of any size, and the opener tries the buffer at any time, so
it may stop before a header, inside one, or behind one with the cipher in the middle of a word.
The relation `Awaits` says where an opener stands and which bytes are still to come for the frames
not opened yet; every step of a pipe keeps it. The main statement is that what was opened is always
a prefix of what was sealed, and that nothing is missing once all bytes have been moved and opened.
-/

namespace MercuryLink

open Sealer

/-- The wire forms of frames under consecutive nonces. -/
def wires (key : Shannon.Key) : Nat → List Frame → Bytes
  | _, [] => []
  | n, f :: later => wire key (UInt32.ofNat n) (f.header ++ f.payload) ++ wires key (n + 1) later

/-- One more frame is written behind the others. -/
theorem wires_concat (key : Shannon.Key) (n : Nat) (frames : List Frame) (f : Frame) :
    wires key n (frames ++ [f]) =
      wires key n frames ++
        wire key (UInt32.ofNat (n + frames.length)) (f.header ++ f.payload) := by
  induction frames generalizing n with
  | nil => simp [wires]
  | cons g frames ih =>
    have hcount : n + 1 + frames.length = n + (frames.length + 1) := by omega
    rw [List.cons_append, wires, wires, ih, List.append_assoc, List.length_cons, hcount]

/-- Wire forms are at least as long as the header of their first frame. -/
theorem headerSize_le_wires (key : Shannon.Key) (n : Nat) (f : Frame) (later : List Frame) :
    Frame.headerSize ≤ (wires key n (f :: later)).length := by
  rw [wires, wire_eq, List.length_append, List.length_append, length_wireHeader]
  omega

namespace Opener

/-- An opener of a key, with `n` frames behind it, awaits frames whose wire forms still lack the
given bytes: it stands before the header of the first one, or behind it. -/
inductive Awaits (key : Shannon.Key) (n : Nat) : Opener → List Frame → Bytes → Prop where
  /-- Nothing of the first frame was consumed. -/
  | header (frames : List Frame) :
    Awaits key n ⟨key, n, .header, Frame.maxPayload, false⟩ frames (wires key n frames)
  /-- The header of the first frame was consumed, and the cipher stands behind it. -/
  | body (f : Frame) (later : List Frame) :
    Awaits key n
      ⟨key, n + 1,
        .body f.command f.payload.length (UInt32.ofNat n) (headed key (UInt32.ofNat n) f),
        Frame.maxPayload, false⟩
      (f :: later)
      (wireBody (headed key (UInt32.ofNat n) f) f.payload ++ wires key (n + 1) later)

/-- A frame sealed behind the awaited ones is awaited too. -/
theorem Awaits.concat {key : Shannon.Key} {n : Nat} {o : Opener} {frames : List Frame}
    {bytes : Bytes} (h : Awaits key n o frames bytes) (f : Frame) :
    Awaits key n o (frames ++ [f])
      (bytes ++ wire key (UInt32.ofNat (n + frames.length)) (f.header ++ f.payload)) := by
  cases h with
  | header =>
    rw [← wires_concat]
    exact .header _
  | body g later =>
    have hcount : n + (g :: later).length = n + 1 + later.length := by
      rw [List.length_cons]
      omega
    rw [hcount, List.append_assoc, ← wires_concat]
    exact .body g _

/-- What an attempt does for an opener that awaits frames while the given bytes are not there yet:
it waits, unless nothing is wanting, or it opens the first frame. -/
inductive Advances (key : Shannon.Key) (n : Nat) (frames : List Frame) (absent : Bytes) :
    Attempt → Prop where
  /-- Bytes are wanting. -/
  | waits {o : Opener} {rest : Bytes} (awaits : Awaits key n o frames (rest ++ absent))
    (wanting : frames = [] ∨ absent ≠ []) : Advances key n frames absent ⟨o, rest, .ok none⟩
  /-- The first frame opens. -/
  | opens {o : Opener} {rest : Bytes} {f : Frame} {later : List Frame} (first : frames = f :: later)
    (awaits : Awaits key (n + 1) o later (rest ++ absent)) :
    Advances key n frames absent ⟨o, rest, .ok (some f)⟩

private theorem exists_rest {front tail source absent : Bytes} (h : front ++ tail = source ++ absent)
    (hl : front.length ≤ source.length) :
    ∃ rest, source = front ++ rest ∧ tail = rest ++ absent := by
  have hfront : front <+: source ++ absent := h ▸ List.prefix_append front tail
  obtain ⟨rest, rfl⟩ := List.prefix_of_prefix_length_le hfront (List.prefix_append source absent) hl
  refine ⟨rest, rfl, ?_⟩
  rw [List.append_assoc] at h
  exact List.append_cancel_left h

/-- Behind a header the opener waits for the whole body, or opens the frame. -/
theorem advances_openBody {key : Shannon.Key} {n : Nat} {o : Opener} (f : Frame)
    {later : List Frame} {source absent : Bytes} (hkey : o.key = key) (hcount : o.count = n + 1)
    (hlimit : o.limit = Frame.maxPayload) (hsound : o.poisoned = false)
    (h : wireBody (headed key (UInt32.ofNat n) f) f.payload ++ wires key (n + 1) later =
      source ++ absent) :
    Advances key n (f :: later) absent
      (o.openBody f.command f.payload.length (UInt32.ofNat n) (headed key (UInt32.ofNat n) f)
        source) := by
  obtain ⟨_, _, phase, _, _⟩ := o
  simp only at hkey hcount hlimit hsound
  subst hkey hcount hlimit hsound
  by_cases hshort : source.length < f.payload.length + Frame.tagSize
  · rw [openBody_of_short _ _ _ _ hshort]
    refine .waits (h ▸ .body f later) (Or.inr ?_)
    rintro rfl
    have hlength := congrArg List.length h
    rw [List.length_append, length_wireBody, List.append_nil] at hlength
    omega
  · obtain ⟨rest, rfl, htail⟩ := exists_rest h (by rw [length_wireBody]; omega)
    rw [openBody_wireBody]
    exact .opens rfl (htail ▸ .header later)

/-- An opener that awaits frames never fails: it waits or opens the first of them. -/
theorem Awaits.next {key : Shannon.Key} {n : Nat} {o : Opener} {frames : List Frame}
    {source absent : Bytes} (h : Awaits key n o frames (source ++ absent))
    (hfit : ∀ f ∈ frames, f.payload.length ≤ Frame.maxPayload)
    (hroom : n + frames.length ≤ UInt32.size) : Advances key n frames absent (o.next source) := by
  generalize hbytes : source ++ absent = bytes at h
  cases h with
  | body f later => exact advances_openBody f rfl rfl rfl rfl hbytes.symm
  | header =>
    change Advances key n frames absent (openHeader _ source)
    by_cases hshort : source.length < Frame.headerSize
    · rw [openHeader_of_short _ hshort]
      refine .waits (hbytes ▸ .header frames) ?_
      cases frames with
      | nil => exact Or.inl rfl
      | cons f later =>
        refine Or.inr ?_
        rintro rfl
        have hlong := headerSize_le_wires key n f later
        rw [← hbytes, List.append_nil] at hlong
        omega
    · cases frames with
      | nil =>
        have hnil : source = [] := (List.append_eq_nil_iff.1 hbytes).1
        rw [hnil] at hshort
        exact absurd (by decide) hshort
      | cons f later =>
        rw [wires, wire_eq, List.append_assoc] at hbytes
        obtain ⟨rest, rfl, htail⟩ := exists_rest hbytes.symm (by rw [length_wireHeader]; omega)
        have hnonce : Nonce.ofCount? n = some (UInt32.ofNat n) :=
          ofCount?_eq_some_iff.2 ⟨by rw [List.length_cons] at hroom; omega, rfl⟩
        have hf : f.payload.length ≤ Frame.maxPayload := hfit f (List.mem_cons_self ..)
        rw [openHeader_wireHeader (o := ⟨key, n, .header, Frame.maxPayload, false⟩) rest hnonce hf,
          if_neg (by simp only; omega)]
        exact advances_openBody f rfl rfl rfl rfl htail

/-- With all bytes there, an opener opens every awaited frame and then stands before a header. -/
theorem Awaits.drain {key : Shannon.Key} {n : Nat} {o : Opener} {frames : List Frame}
    {bytes : Bytes} (h : Awaits key n o frames bytes)
    (hfit : ∀ f ∈ frames, f.payload.length ≤ Frame.maxPayload)
    (hroom : n + frames.length ≤ UInt32.size) :
    o.drain bytes =
      ⟨⟨key, n + frames.length, .header, Frame.maxPayload, false⟩, [], frames, none⟩ := by
  induction frames generalizing n o bytes with
  | nil =>
    cases h with
    | header => exact drain_of_none rfl
  | cons f later ih =>
    have hnext : Advances key n (f :: later) [] (o.next bytes) :=
      Awaits.next (by rwa [List.append_nil]) hfit hroom
    generalize hattempt : o.next bytes = attempt at hnext
    cases hnext with
    | waits awaits wanting => simp at wanting
    | opens first awaits =>
      cases first
      rw [List.append_nil] at awaits
      have hcount : n + 1 + later.length = n + (f :: later).length := by
        rw [List.length_cons]
        omega
      rw [drain_of_some hattempt,
        ih awaits (fun g hg => hfit g (List.mem_cons_of_mem f hg)) (by omega), hcount]

end Opener

/-- A sealer and an opener, and the bytes on the way from one to the other: those sealed onto the
wire and those moved into the buffer. -/
structure Pipe where
  sealer : Sealer
  wire : Bytes
  buffer : Bytes
  opener : Opener
  sent : List Frame
  opened : List Frame
  failures : List FrameError

namespace Pipe

/-- A pipe before the first frame. -/
def ofKey (key : Shannon.Key) : Pipe :=
  ⟨⟨key, 0⟩, [], [], ⟨key, 0, .header, Frame.maxPayload, false⟩, [], [], []⟩

/-- What can happen on a pipe: a frame is sealed onto the wire, bytes move from its front into the
buffer, or the opener tries the buffer. -/
inductive Step where
  | send (f : Frame)
  | move (n : Nat)
  | attempt

/-- Take note of what an attempt gave. -/
def attempted (p : Pipe) (a : Opener.Attempt) : Pipe :=
  match a.outcome with
  | .ok none => { p with opener := a.opener, buffer := a.rest }
  | .ok (some f) => { p with opener := a.opener, buffer := a.rest, opened := p.opened ++ [f] }
  | .error e => { p with opener := a.opener, buffer := a.rest, failures := p.failures ++ [e] }

/-- Carry out a step. A frame that is refused leaves the pipe as it is. -/
def take (p : Pipe) : Step → Pipe
  | .send f =>
    match p.sealer.sealFrame f with
    | .error _ => p
    | .ok (sealer, bytes) =>
      { p with sealer, wire := p.wire ++ bytes, sent := p.sent ++ [f] }
  | .move n => { p with wire := p.wire.drop n, buffer := p.buffer ++ p.wire.take n }
  | .attempt => p.attempted (p.opener.next p.buffer)

/-- Carry out steps one after the other. -/
def run (p : Pipe) (steps : List Step) : Pipe := steps.foldl take p

/-- Both halves of a pipe are in step: the opener awaits exactly the frames it has not opened, and
what they lack is in the buffer and on the wire. -/
structure InStep (key : Shannon.Key) (p : Pipe) : Prop where
  sound : p.failures = []
  sealer : p.sealer = ⟨key, p.sent.length⟩
  room : p.sent.length ≤ UInt32.size
  fit : ∀ f ∈ p.sent, f.payload.length ≤ Frame.maxPayload
  awaits : ∃ frames, p.sent = p.opened ++ frames ∧
    Opener.Awaits key p.opened.length p.opener frames (p.buffer ++ p.wire)

/-- A new pipe is in step. -/
theorem inStep_ofKey (key : Shannon.Key) : InStep key (ofKey key) where
  sound := rfl
  sealer := rfl
  room := Nat.zero_le _
  fit := by simp [ofKey]
  awaits := ⟨[], rfl, .header []⟩

/-- A frame is sent if it fits and a nonce is left, and otherwise nothing happens. -/
theorem take_send (p : Pipe) (f : Frame) :
    (f.payload.length ≤ Frame.maxPayload ∧ p.sealer.count < UInt32.size ∧
      p.take (.send f) =
        { p with
          sealer := ⟨p.sealer.key, p.sealer.count + 1⟩
          wire := p.wire ++
            Sealer.wire p.sealer.key (UInt32.ofNat p.sealer.count) (f.header ++ f.payload)
          sent := p.sent ++ [f] }) ∨
    ((Frame.maxPayload < f.payload.length ∨ UInt32.size ≤ p.sealer.count) ∧
      p.take (.send f) = p) := by
  cases hseal : p.sealer.sealFrame f with
  | ok result =>
    obtain ⟨hfit, hroom, hsealer, hbytes⟩ := sealFrame_eq_ok_iff.1 hseal
    refine Or.inl ⟨hfit, hroom, ?_⟩
    simp only [take, hseal, hsealer, hbytes]
  | error e =>
    refine Or.inr ⟨?_, by simp only [take, hseal]⟩
    by_contra hnot
    obtain ⟨hfit, hroom⟩ := not_or.1 hnot
    have hsealed := sealFrame_eq_ok_iff.2
      ⟨Nat.le_of_not_lt hfit, Nat.lt_of_not_le hroom, rfl, rfl⟩
    rw [hseal] at hsealed
    exact absurd hsealed (by simp)

/-- Every step keeps both halves in step. -/
theorem InStep.take {key : Shannon.Key} {p : Pipe} (h : InStep key p) (s : Step) :
    InStep key (p.take s) := by
  obtain ⟨frames, hsent, hawaits⟩ := h.awaits
  cases s with
  | send f =>
    rcases p.take_send f with ⟨hfit, hroom, htake⟩ | ⟨-, htake⟩
    · rw [h.sealer] at hroom htake
      rw [htake]
      refine ⟨h.sound, by simp, by rwa [List.length_append], ?_, frames ++ [f], by simp [hsent], ?_⟩
      · intro g hg
        rcases List.mem_append.1 hg with hg | hg
        · exact h.fit g hg
        · rwa [List.mem_singleton.1 hg]
      · have hcount : p.opened.length + frames.length = p.sent.length := by
          rw [hsent, List.length_append]
        simpa only [hcount, List.append_assoc] using hawaits.concat f
    · rw [htake]
      exact h
  | move n =>
    refine ⟨h.sound, h.sealer, h.room, h.fit, frames, hsent, ?_⟩
    simpa only [Pipe.take, List.append_assoc, List.take_append_drop] using hawaits
  | attempt =>
    have hfit : ∀ f ∈ frames, f.payload.length ≤ Frame.maxPayload := by
      intro f hf
      exact h.fit f (hsent ▸ List.mem_append_right p.opened hf)
    have hroom : p.opened.length + frames.length ≤ UInt32.size := by
      rw [← List.length_append, ← hsent]
      exact h.room
    have hnext := hawaits.next hfit hroom
    unfold Pipe.take
    generalize p.opener.next p.buffer = attempt at hnext
    cases hnext with
    | waits awaits wanting => exact ⟨h.sound, h.sealer, h.room, h.fit, frames, hsent, awaits⟩
    | @opens o rest f later first awaits =>
      subst first
      refine ⟨h.sound, h.sealer, h.room, h.fit, later, ?_, ?_⟩
      · simpa [attempted] using hsent
      · simpa [attempted] using awaits

/-- Both halves are in step after every run. -/
theorem inStep_run (key : Shannon.Key) (steps : List Step) : InStep key ((ofKey key).run steps) := by
  suffices h : ∀ p, InStep key p → InStep key (p.run steps) from h _ (inStep_ofKey key)
  induction steps with
  | nil => exact fun p h => h
  | cons s steps ih => exact fun p h => ih _ (h.take s)

/-- The nonce shown is the count itself as long as one is left. -/
theorem shown_of_lt {count : Nat} (h : count < UInt32.size) : Nonce.shown count = count := by
  rw [Nonce.shown, Nat.min_eq_left]
  omega

/-- **Lockstep.** However sealing, moving and opening alternate, the opener never fails and has
opened a prefix of the frames that were sealed. Once all bytes have been moved, opening until
nothing more opens gives the frames that were missing and leaves no bytes, and both halves have
counted every frame. A frame that fits is sealed while a nonce is left; one that does not fit
changes nothing now or later. -/
theorem run_in_lockstep (key : Shannon.Key) (steps : List Step) :
    let p := (ofKey key).run steps
    p.failures = [] ∧ p.opened <+: p.sent ∧
    (p.wire = [] →
      let d := p.opener.drain p.buffer
      d.failure = none ∧ p.opened ++ d.frames = p.sent ∧ d.rest = [] ∧
      (p.sent.length < UInt32.size →
        p.sealer.nextNonce = p.sent.length ∧ d.opener.nextNonce = p.sent.length)) ∧
    (∀ f : Frame, f.payload.length ≤ Frame.maxPayload → p.sent.length < UInt32.size →
      (p.take (.send f)).sent = p.sent ++ [f]) ∧
    (∀ f : Frame, Frame.maxPayload < f.payload.length → p.take (.send f) = p ∧
      ∀ later, (ofKey key).run (steps ++ .send f :: later) = (ofKey key).run (steps ++ later)) := by
  intro p
  have h : InStep key p := inStep_run key steps
  obtain ⟨frames, hsent, hawaits⟩ := h.awaits
  refine ⟨h.sound, hsent ▸ List.prefix_append _ _, ?_, ?_, ?_⟩
  · intro hmoved
    rw [hmoved, List.append_nil] at hawaits
    have hlength : p.opened.length + frames.length = p.sent.length := by
      rw [hsent, List.length_append]
    have hdrain := hawaits.drain
      (fun f hf => h.fit f (hsent ▸ List.mem_append_right p.opened hf)) (hlength ▸ h.room)
    rw [hdrain]
    refine ⟨rfl, hsent.symm, rfl, fun hfew => ⟨?_, ?_⟩⟩
    · rw [h.sealer]
      exact shown_of_lt hfew
    · rw [hlength]
      exact shown_of_lt hfew
  · intro f hfit hfew
    rcases p.take_send f with ⟨-, -, htake⟩ | ⟨hrefused, -⟩
    · rw [htake]
    · rw [h.sealer] at hrefused
      simp only at hrefused
      omega
  · intro f hlarge
    have hsame : p.take (.send f) = p := by
      rcases p.take_send f with ⟨hfit, -⟩ | ⟨-, htake⟩
      · omega
      · exact htake
    refine ⟨hsame, fun later => ?_⟩
    have hstep : ∀ s, (ofKey key).run (steps ++ s) = p.run s := fun s => List.foldl_append
    rw [hstep, hstep]
    exact congrArg (run · later) hsame

end Pipe

end MercuryLink
