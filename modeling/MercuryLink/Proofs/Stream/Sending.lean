import MercuryLink.Proofs.Sealing.Wire
import MercuryLink.Stream.Outlet

/-!
# What sending a frame puts on the stream

A stream accepts the bytes of a write from the front, and a write that fails leaves the others
out. So an outlet that sends a frame refuses it for its size and puts nothing on the stream, or
uses a nonce and puts a front part of the wire form there: all of it, unless it fails. The relation
`Sends` says no more than that, whatever the stream answers, and in particular nothing about the
answers that are left.
-/

namespace MercuryLink

namespace Sink

/-- A write puts a front part of its bytes on the stream, and all of them unless it fails. -/
structure Accepts (s : Sink) (bytes : Bytes) (step : Sink × Except FrameError Unit)
    (front rest : Bytes) : Prop where
  split : bytes = front ++ rest
  accepted : step.1.accepted = s.accepted ++ front
  broken : step.1.broken = s.broken
  whole : step.2 = .ok () → rest = []
  failure : ∀ e, step.2 = .error e → e.isTooLarge = false ∧ rest ≠ []

/-- What is accepted before a write counts in front of it. -/
theorem Accepts.after {s : Sink} {bytes : Bytes} {step : Sink × Except FrameError Unit}
    {front rest : Bytes} {first : Bytes} {s₀ : Sink} (h : s.Accepts bytes step front rest)
    (haccepted : s.accepted = s₀.accepted ++ first) (hbroken : s.broken = s₀.broken) :
    s₀.Accepts (first ++ bytes) step (first ++ front) rest where
  split := by rw [h.split, List.append_assoc]
  accepted := by rw [h.accepted, haccepted, List.append_assoc]
  broken := h.broken.trans hbroken
  whole := h.whole
  failure := h.failure

/-- Whatever the stream answers, it accepts a front part. -/
theorem accepts_writeFrom (s : Sink) (answers : List WriteAnswer) (bytes : Bytes) :
    ∃ front rest, s.Accepts bytes (s.writeFrom answers bytes) front rest := by
  fun_induction writeFrom s answers bytes with
  | case1 s answers => exact ⟨[], [], rfl, (List.append_nil _).symm, rfl, fun _ => rfl, nofun⟩
  | case2 s bytes hsome =>
    exact ⟨bytes, [], (List.append_nil _).symm, rfl, rfl, fun _ => rfl, nofun⟩
  | case3 s answers bytes hsome t =>
    refine ⟨[], bytes, rfl, rfl, rfl, nofun, ?_⟩
    rintro e ⟨⟩
    exact ⟨rfl, hsome⟩
  | case4 s n answers bytes hsome t hpositive ih =>
    obtain ⟨front, rest, h⟩ := ih
    have hafter : s.Accepts (bytes.take n ++ bytes.drop n) _ (bytes.take n ++ front) rest :=
      h.after rfl rfl
    rw [List.take_append_drop] at hafter
    exact ⟨_, _, hafter⟩
  | case5 s f answers bytes hsome t htransient ih =>
    obtain ⟨front, rest, h⟩ := ih
    exact ⟨front, rest, h.split, h.accepted, h.broken, h.whole, h.failure⟩
  | case6 s f answers bytes hsome t hhard =>
    refine ⟨[], bytes, rfl, (List.append_nil _).symm, rfl, nofun, ?_⟩
    rintro e ⟨⟩
    exact ⟨rfl, hsome⟩

/-- A write accepts a front part; on a broken stream it fails and accepts nothing. -/
theorem accepts_write (s : Sink) {bytes : Bytes} (hbytes : bytes ≠ []) :
    ∃ front rest, s.Accepts bytes (s.write bytes) front rest ∧
      (s.broken.isSome = true → front = [] ∧ (s.write bytes).2 ≠ .ok ()) := by
  cases hbroken : s.broken with
  | none =>
    simp only [write, hbroken]
    obtain ⟨front, rest, h⟩ := s.accepts_writeFrom s.writes bytes
    exact ⟨front, rest, h, nofun⟩
  | some fault =>
    simp only [write, hbroken]
    refine ⟨[], bytes, ⟨rfl, (List.append_nil _).symm, rfl, nofun, ?_⟩, fun _ => ⟨rfl, nofun⟩⟩
    rintro e ⟨⟩
    exact ⟨rfl, hbytes⟩

/-- Flushing accepts nothing, and fails for the stream if at all. -/
theorem flush_spec (s : Sink) :
    s.flush.1.accepted = s.accepted ∧ s.flush.1.broken = s.broken ∧
      ∀ e, s.flush.2 = .error e → e.isTooLarge = false := by
  rw [flush]
  generalize s.flushes = answers
  induction answers generalizing s with
  | nil => exact ⟨rfl, rfl, nofun⟩
  | cons answer answers ih =>
    cases answer with
    | done => exact ⟨rfl, rfl, nofun⟩
    | fault f =>
      rw [flushFrom]
      dsimp only
      split
      · exact ih { s with flushCalls := s.flushCalls + 1 }
      · refine ⟨rfl, rfl, ?_⟩
        rintro e ⟨⟩
        rfl

end Sink

namespace Outlet

/-- An outlet goes on without putting anything on the stream, which may only break. -/
structure Rests (o o' : Outlet) : Prop where
  limit : o'.limit = o.limit
  sealer : o'.sealer = o.sealer
  accepted : o'.sink.accepted = o.sink.accepted
  broken : o.sink.broken.isSome = true → o'.sink.broken.isSome = true

theorem Rests.refl (o : Outlet) : Rests o o := ⟨rfl, rfl, rfl, id⟩

theorem Rests.trans {o o' o'' : Outlet} (h : Rests o o') (h' : Rests o' o'') : Rests o o'' :=
  ⟨h'.limit.trans h.limit, h'.sealer.trans h.sealer, h'.accepted.trans h.accepted,
    fun hbroken => h'.broken (h.broken hbroken)⟩

/-- The wire form of the next frame. -/
def nextWire (o : Outlet) (f : Frame) : Bytes :=
  Sealer.wire o.sealer.key (UInt32.ofNat o.sealer.count) (f.header ++ f.payload)

theorem nextWire_ne_nil (o : Outlet) (f : Frame) : o.nextWire f ≠ [] := by
  intro hnil
  have hlength := congrArg List.length hnil
  rw [nextWire, Sealer.wire_eq, List.length_append, Sealer.length_wireHeader, List.length_nil]
    at hlength
  exact absurd hlength (by rw [Frame.headerSize]; omega)

/-- An outlet uses a nonce and puts some bytes on the stream. -/
structure Puts (o o' : Outlet) (bytes : Bytes) : Prop where
  room : o.sealer.count < UInt32.size
  limit : o'.limit = o.limit
  sealer : o'.sealer = ⟨o.sealer.key, o.sealer.count + 1⟩
  accepted : o'.sink.accepted = o.sink.accepted ++ bytes
  broken : o.sink.broken.isSome = true → o'.sink.broken.isSome = true

/-- How an outlet sends a frame. -/
inductive Sends (o : Outlet) (f : Frame) (o' : Outlet) : Except FrameError Unit → Prop where
  /-- The frame is refused for its size. -/
  | refused {e : FrameError} (large : o.limit < f.payload.length) (rests : Rests o o')
    (kind : e.isTooLarge = true) : Sends o f o' (.error e)
  /-- No nonce is left for it. -/
  | exhausted {e : FrameError} (fits : f.payload.length ≤ o.limit)
    (full : UInt32.size ≤ o.sealer.count) (rests : Rests o o') (kind : e.isTooLarge = false) :
    Sends o f o' (.error e)
  /-- It breaks off behind a front part of the wire form; a broken stream accepts none of it. -/
  | broken {e : FrameError} {front rest : Bytes} (fits : f.payload.length ≤ o.limit)
    (split : o.nextWire f = front ++ rest) (puts : Puts o o' front)
    (barred : o.sink.broken.isSome = true → front = []) (kind : e.isTooLarge = false) :
    Sends o f o' (.error e)
  /-- It puts the whole wire form on the stream. -/
  | whole (fits : f.payload.length ≤ o.limit) (sound : o.sink.broken = none)
    (puts : Puts o o' (o.nextWire f)) : Sends o f o' (.ok ())

/-- Breaks of the stream before and after do not change how a frame is sent. -/
theorem Sends.congr {o₀ o o' o'' : Outlet} {f : Frame} {result : Except FrameError Unit}
    (h : o.Sends f o' result) (hbefore : Rests o₀ o) (hafter : Rests o' o'') :
    o₀.Sends f o'' result := by
  have hwire : o.nextWire f = o₀.nextWire f := by rw [nextWire, hbefore.sealer, nextWire]
  have hputs : ∀ {bytes}, Puts o o' bytes → Puts o₀ o'' bytes := by
    intro bytes hputs
    refine ⟨hbefore.sealer ▸ hputs.room, ?_, ?_, ?_, ?_⟩
    · rw [hafter.limit, hputs.limit, hbefore.limit]
    · rw [hafter.sealer, hputs.sealer, hbefore.sealer]
    · rw [hafter.accepted, hputs.accepted, hbefore.accepted]
    · exact fun hbroken => hafter.broken (hputs.broken (hbefore.broken hbroken))
  cases h with
  | refused large rests kind =>
    exact .refused (hbefore.limit ▸ large) ((hbefore.trans rests).trans hafter) kind
  | exhausted fits full rests kind =>
    exact .exhausted (hbefore.limit ▸ fits) (hbefore.sealer ▸ full)
      ((hbefore.trans rests).trans hafter) kind
  | broken fits split puts barred kind =>
    exact .broken (hbefore.limit ▸ fits) (hwire ▸ split) (hputs puts)
      (fun hbroken => barred (hbefore.broken hbroken)) kind
  | whole fits sound puts =>
    have hsound : o₀.sink.broken = none := by
      cases hbroken : o₀.sink.broken with
      | none => rfl
      | some fault =>
        have := hbefore.broken (by rw [hbroken]; rfl)
        rw [sound] at this
        cases this
    exact .whole (hbefore.limit ▸ fits) hsound (hwire ▸ hputs puts)

/-- A frame above the limit is refused and changes nothing. -/
theorem send_of_large {o : Outlet} {f : Frame} (h : o.limit < f.payload.length) :
    o.send f = (o, .error (.payloadTooLarge f.payload.length o.limit)) := by
  rw [send, if_pos h]

/-- A frame that fits is sealed unless no nonce is left. -/
theorem sealFrame_error {sealer : Sealer} {f : Frame} {e : FrameError}
    (hfits : f.payload.length ≤ Frame.maxPayload) (h : sealer.sealFrame f = .error e) :
    UInt32.size ≤ sealer.count ∧ e = .nonceExhausted := by
  have hfull : UInt32.size ≤ sealer.count := by
    by_contra hroom
    have hsealed := Sealer.sealFrame_eq_ok_iff.2 ⟨hfits, Nat.lt_of_not_le hroom, rfl, rfl⟩
    rw [h] at hsealed
    cases hsealed
  have hnonce : Nonce.ofCount? sealer.count = none := by
    rw [Nonce.ofCount?, if_neg (Nat.not_lt.2 hfull)]
  rw [Sealer.sealFrame, Frame.encode, if_neg (Nat.not_lt.2 hfits)] at h
  simp only [bind, Except.bind, hnonce] at h
  cases h
  exact ⟨hfull, rfl⟩

/-- An outlet behind one more nonce, with what became of its stream. -/
def advanced (o : Outlet) (sink : Sink) : Outlet :=
  { o with sealer := ⟨o.sealer.key, o.sealer.count + 1⟩, sink }

theorem puts_advanced {o : Outlet} {sink : Sink} {bytes : Bytes}
    (hroom : o.sealer.count < UInt32.size) (haccepted : sink.accepted = o.sink.accepted ++ bytes)
    (hbroken : sink.broken = o.sink.broken) : Puts o (o.advanced sink) bytes :=
  ⟨hroom, rfl, rfl, haccepted, fun h => by rwa [advanced, hbroken]⟩

/-- Whatever the stream answers, a frame is sent in one of these ways. -/
theorem sends_send {o : Outlet} (hlimit : o.limit ≤ Frame.maxPayload) (f : Frame) :
    o.Sends f (o.send f).1 (o.send f).2 := by
  rw [send]
  split
  · next hlarge => exact .refused hlarge (.refl o) rfl
  · next hsmall =>
    have hfits : f.payload.length ≤ o.limit := Nat.le_of_not_lt hsmall
    cases hseal : o.sealer.sealFrame f with
    | error e =>
      obtain ⟨hfull, rfl⟩ := sealFrame_error (Nat.le_trans hfits hlimit) hseal
      exact .exhausted hfits hfull (.refl o) rfl
    | ok sealed =>
      obtain ⟨sealer, wire⟩ := sealed
      obtain ⟨-, hroom, rfl, hwire⟩ := Sealer.sealFrame_eq_ok_iff.1 hseal
      have hwire : wire = o.nextWire f := hwire
      subst hwire
      obtain ⟨front, rest, haccepts, hbarred⟩ := o.sink.accepts_write (o.nextWire_ne_nil f)
      dsimp only
      generalize o.sink.write (o.nextWire f) = step at haccepts hbarred
      obtain ⟨sink, result⟩ := step
      have hputs := puts_advanced hroom haccepts.accepted haccepts.broken
      cases result with
      | error e =>
        exact .broken hfits haccepts.split hputs (fun h => (hbarred h).1) (haccepts.failure e rfl).1
      | ok done =>
        -- The whole wire form was accepted; what is left to fail is the flush.
        have hsound : o.sink.broken = none := by
          cases h : o.sink.broken with
          | none => rfl
          | some fault => exact absurd rfl (hbarred (by rw [h]; rfl)).2
        have hfront : front = o.nextWire f := by
          rw [haccepts.split, haccepts.whole rfl, List.append_nil]
        obtain ⟨hflushed, hstill, hkind⟩ := sink.flush_spec
        have hputs := puts_advanced hroom (hflushed.trans haccepts.accepted)
          (hstill.trans haccepts.broken)
        rw [hfront] at hputs
        change o.Sends f (o.advanced sink.flush.1) sink.flush.2
        cases hresult : sink.flush.2 with
        | error e =>
          have hbarred : o.sink.broken.isSome = true → o.nextWire f = [] := by
            rw [hsound]
            exact nofun
          exact .broken hfits (List.append_nil _).symm hputs hbarred (hkind e hresult)
        | ok _ => exact .whole hfits hsound hputs

end Outlet

end MercuryLink
