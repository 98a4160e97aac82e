import MercuryLink.Proofs.Sealing.Lockstep
import MercuryLink.Proofs.Session.Run

/-!
# What a session puts on its stream

A session submits frames one after the other, and its worker takes them off the queue in that
order. As long as the queue takes frames, the stream has accepted the wire forms of all that were
taken off and fit. From then on it is one of two things that keeps every later frame off the stream:
the queue turns frames away, or the stream is broken; and only a broken stream may have accepted
a part of a wire form. The invariant `Streams` says so, and every effect keeps it.
-/

namespace MercuryLink.Session

/-- The frames within a limit. -/
def fitting (limit : Nat) (frames : List Frame) : List Frame :=
  frames.filter (·.payload.length ≤ limit)

theorem fitting_append (limit : Nat) (first later : List Frame) :
    fitting limit (first ++ later) = fitting limit first ++ fitting limit later :=
  List.filter_append ..

theorem fitting_cons_of_le {limit : Nat} {f : Frame} (h : f.payload.length ≤ limit)
    (later : List Frame) : fitting limit (f :: later) = f :: fitting limit later :=
  List.filter_cons_of_pos (by simpa using h)

theorem fitting_cons_of_lt {limit : Nat} {f : Frame} (h : limit < f.payload.length)
    (later : List Frame) : fitting limit (f :: later) = fitting limit later :=
  List.filter_cons_of_neg (by simpa using h)

/-! ### What no effect undoes -/

/-- What was closed, broken or turned away in a session is so afterwards. -/
structure Keeps (s s' : Session) : Prop where
  board : s.exchange.isClosed = true → s'.exchange.isClosed = true
  queue : s.exchange.outbound.closed = true → s'.exchange.outbound.closed = true
  rejecting : s.exchange.outbound.isRejecting = true → s'.exchange.outbound.isRejecting = true
  stream : s.outlet.sink.broken.isSome = true → s'.outlet.sink.broken.isSome = true

/-- Sending mends no stream. -/
theorem broken_of_sends {o o' : Outlet} {f : Frame} {result : Except FrameError Unit}
    (h : o.Sends f o' result) (hbroken : o.sink.broken.isSome = true) :
    o'.sink.broken.isSome = true := by
  cases h with
  | refused large rests => exact rests.broken hbroken
  | exhausted fits full rests => exact rests.broken hbroken
  | broken fits split puts => exact puts.broken hbroken
  | whole fits sound puts => exact puts.broken hbroken

/-- No effect undoes any of it. -/
theorem Effect.keeps {s s' : Session} {new : List Frame} (h : Effect s s' new) : Keeps s s' := by
  cases h with
  | rests quiet =>
    have hqueue := quiet.queues.outbound
    exact ⟨quiet.queues.closed, hqueue.closed,
      WorkQueue.isRejecting_mono hqueue.policy hqueue.closed, quiet.outlet.broken⟩
  | turnsAway outlet queue closed =>
    exact ⟨closed, queue.closed, WorkQueue.isRejecting_mono queue.policy queue.closed,
      outlet.broken⟩
  | sends outlet queue closed =>
    exact ⟨closed, queue.closed, WorkQueue.isRejecting_mono queue.policy queue.closed,
      broken_of_sends outlet⟩

theorem Ended.keeps {s s' : Session} (h : s.Ended) (hkeeps : Keeps s s') : s'.Ended :=
  ⟨hkeeps.board h.board, hkeeps.queue h.queue, hkeeps.stream h.stream⟩

/-- A broken stream accepts nothing. -/
theorem accepted_of_sends {o o' : Outlet} {f : Frame} {result : Except FrameError Unit}
    (h : o.Sends f o' result) (hbroken : o.sink.broken.isSome = true) :
    o'.sink.accepted = o.sink.accepted := by
  cases h with
  | refused large rests => exact rests.accepted
  | exhausted fits full rests => exact rests.accepted
  | broken fits split puts barred => rw [puts.accepted, barred hbroken, List.append_nil]
  | whole fits sound => simp [sound] at hbroken

/-- Where the link has ended, the stream accepts nothing. -/
theorem Ended.accepted_eq {s s' : Session} {new : List Frame} (h : s.Ended)
    (heffect : Effect s s' new) : s'.outlet.sink.accepted = s.outlet.sink.accepted := by
  cases heffect with
  | rests quiet => exact quiet.outlet.accepted
  | turnsAway outlet => exact outlet.accepted
  | sends outlet => exact accepted_of_sends outlet h.stream

/-! ### The invariant -/

variable {key : Shannon.Key} {limit : Nat} {frames : List Frame} {s s' : Session}

/-- The stream has accepted a part of the wire form of a frame, behind which nothing comes. -/
structure Torn (key : Shannon.Key) (limit : Nat) (done later : List Frame) (part : Bytes)
    (s : Session) : Prop where
  ended : s.Ended
  room : (fitting limit done).length < UInt32.size
  next : ∃ f rest, (fitting limit later).head? = some f ∧ rest ≠ [] ∧
    Sealer.wire key (UInt32.ofNat (fitting limit done).length) (f.header ++ f.payload) =
      part ++ rest

/-- The stream has accepted every frame that fits of those taken off the queue. -/
structure Whole (key : Shannon.Key) (limit : Nat) (gone : List Frame) (s : Session) : Prop where
  room : (fitting limit gone).length ≤ UInt32.size
  sealer : s.outlet.sealer = ⟨key, (fitting limit gone).length⟩
  accepted : s.outlet.sink.accepted = wires key 0 (fitting limit gone)

/-- The stream has accepted some frames and maybe a part of the next one, and accepts nothing any
more. -/
structure Stopped (key : Shannon.Key) (limit : Nat) (done later : List Frame) (part : Bytes)
    (s : Session) : Prop where
  room : (fitting limit done).length ≤ UInt32.size
  closed : s.exchange.outbound.closed = true
  stop : s.outlet.sink.broken.isSome = true ∨ s.exchange.outbound.isRejecting = true
  accepted : s.outlet.sink.accepted = wires key 0 (fitting limit done) ++ part
  torn : part ≠ [] → Torn key limit done later part s

/-- What the stream has accepted of the frames that were submitted. -/
inductive Accepted (key : Shannon.Key) (limit : Nat) (frames : List Frame) (s : Session) :
    Prop where
  | whole {gone : List Frame} (split : frames = gone ++ s.queued) (whole : Whole key limit gone s)
  | stopped {done later : List Frame} {part : Bytes} (split : frames = done ++ later)
    (stopped : Stopped key limit done later part s)

/-- The frames submitted so far, up to those that wait, are what the stream has to do with. -/
structure Streams (key : Shannon.Key) (limit : Nat) (frames : List Frame) (s : Session) :
    Prop where
  bound : s.outlet.limit = limit
  counted : frames.length = s.exchange.outbound.submitted
  queued : s.queued <:+ frames
  accepted : Accepted key limit frames s

/-- A torn frame stays what it is, whatever is submitted. -/
theorem Torn.keeps {done later new : List Frame} {part : Bytes}
    (h : Torn key limit done later part s) (hkeeps : Keeps s s') :
    Torn key limit done (later ++ new) part s' := by
  obtain ⟨f, rest, hhead, hrest, hwire⟩ := h.next
  refine ⟨h.ended.keeps hkeeps, h.room, f, rest, ?_, hrest, hwire⟩
  rw [fitting_append, List.head?_append, hhead]
  rfl

/-- A stream that has stopped stays so, whatever is submitted. -/
theorem Stopped.keeps {done later : List Frame} {part : Bytes}
    (h : Stopped key limit done later part s) (hkeeps : Keeps s s')
    (hsame : s'.outlet.sink.accepted = s.outlet.sink.accepted) (new : List Frame) :
    Stopped key limit done (later ++ new) part s' :=
  ⟨h.room, hkeeps.queue h.closed, h.stop.imp hkeeps.stream hkeeps.rejecting,
    hsame.trans h.accepted, fun hpart => (h.torn hpart).keeps hkeeps⟩

/-- A stream stops behind the frames that it has accepted as a whole. -/
theorem stopped_of_accepted {done later : List Frame}
    (room : (fitting limit done).length ≤ UInt32.size)
    (closed : s.exchange.outbound.closed = true)
    (stop : s.outlet.sink.broken.isSome = true ∨ s.exchange.outbound.isRejecting = true)
    (accepted : s.outlet.sink.accepted = wires key 0 (fitting limit done)) :
    Stopped key limit done later [] s :=
  ⟨room, closed, stop, by rw [accepted, List.append_nil], fun hpart => absurd rfl hpart⟩

/-- Nothing is written. -/
theorem Whole.rests {gone : List Frame} (h : Whole key limit gone s)
    (outlet : s.outlet.Rests s'.outlet) : Whole key limit gone s' :=
  ⟨h.room, outlet.sealer.trans h.sealer, outlet.accepted.trans h.accepted⟩

/-- A frame that does not fit is taken off the queue. -/
theorem Whole.skip {gone : List Frame} (h : Whole key limit gone s) {f : Frame}
    (large : limit < f.payload.length) : Whole key limit (gone ++ [f]) s := by
  have hsame : fitting limit (gone ++ [f]) = fitting limit gone := by
    rw [fitting_append, fitting_cons_of_lt large]
    exact List.append_nil _
  exact ⟨hsame ▸ h.room, hsame ▸ h.sealer, hsame ▸ h.accepted⟩

/-- A frame that fits is written. -/
theorem Whole.put {gone : List Frame} (h : Whole key limit gone s) {f : Frame}
    (fits : f.payload.length ≤ limit) (puts : s.outlet.Puts s'.outlet (s.outlet.nextWire f)) :
    Whole key limit (gone ++ [f]) s' := by
  have hmore : fitting limit (gone ++ [f]) = fitting limit gone ++ [f] := by
    rw [fitting_append, fitting_cons_of_le fits]
    rfl
  have hkey : s.outlet.sealer.key = key := by rw [h.sealer]
  have hcount : s.outlet.sealer.count = (fitting limit gone).length := by rw [h.sealer]
  refine ⟨?_, ?_, ?_⟩
  · rw [hmore, List.length_append, ← hcount]
    exact puts.room
  · rw [hmore, List.length_append, ← hcount, ← hkey]
    exact puts.sealer
  · rw [hmore, puts.accepted, h.accepted, wires_concat, Nat.zero_add, Outlet.nextWire, hkey,
      hcount]

/-- A part of a frame that fits is written. -/
theorem Whole.tear {gone later : List Frame} (h : Whole key limit gone s) {f : Frame}
    (fits : f.payload.length ≤ limit) {front rest : Bytes}
    (wire : s.outlet.nextWire f = front ++ rest) (puts : s.outlet.Puts s'.outlet front)
    (hrest : rest ≠ []) (hended : s'.Ended) :
    Stopped key limit gone (f :: later) front s' := by
  have hcount : s.outlet.sealer.count = (fitting limit gone).length := by rw [h.sealer]
  refine ⟨h.room, hended.queue, Or.inl hended.stream, by rw [puts.accepted, h.accepted], fun _ => ?_⟩
  refine ⟨hended, hcount ▸ puts.room, f, rest, ?_, hrest, ?_⟩
  · rw [fitting_cons_of_le fits]
    rfl
  · rw [← wire, Outlet.nextWire, h.sealer]

/-- The first frame that waits is sent. -/
theorem Accepted.sends (h : Accepted key limit frames s) (hlimit : s.outlet.limit = limit)
    {first : Nat × Outgoing} {result : Except FrameError Unit}
    (outlet : s.outlet.Sends first.2.frame s'.outlet result)
    (hqueued : s.queued = first.2.frame :: s'.queued)
    (running : s.exchange.outbound.isRejecting = false) (hkeeps : Keeps s s')
    (ends : ∀ e, result = .error e → e.isTooLarge = false → s'.Ended) :
    Accepted key limit frames s' := by
  cases h with
  | @stopped done later part split stopped =>
    have hbroken : s.outlet.sink.broken.isSome = true := by
      rcases stopped.stop with hbroken | hrejecting
      · exact hbroken
      · rw [running] at hrejecting
        cases hrejecting
    have hstays := stopped.keeps hkeeps (accepted_of_sends outlet hbroken) []
    rw [List.append_nil] at hstays
    exact .stopped split hstays
  | @whole gone split whole =>
    subst hlimit
    have hnext : frames = gone ++ [first.2.frame] ++ s'.queued := by
      rw [split, hqueued, List.append_assoc]
      rfl
    cases outlet with
    | refused large rests => exact .whole hnext ((whole.skip large).rests rests)
    | exhausted fits full rests kind =>
      have hended := ends _ rfl kind
      exact .stopped split (stopped_of_accepted whole.room hended.queue (Or.inl hended.stream)
        (whole.rests rests).accepted)
    | whole fits sound puts => exact .whole hnext (whole.put fits puts)
    | @broken e front rest fits wire puts barred kind =>
      have hended := ends e rfl kind
      by_cases hrest : rest = []
      · rw [hrest, List.append_nil] at wire
        have hput := whole.put fits (wire ▸ puts)
        exact .stopped hnext (stopped_of_accepted hput.room hended.queue (Or.inl hended.stream)
          hput.accepted)
      · rw [hqueued] at split
        exact .stopped split (whole.tear fits wire puts hrest hended)

/-- The first frame that waits is turned away. -/
theorem Accepted.turnsAway (h : Accepted key limit frames s)
    (outlet : s.outlet.Rests s'.outlet) (rejecting : s.exchange.outbound.isRejecting = true)
    (hkeeps : Keeps s s') : Accepted key limit frames s' := by
  cases h with
  | whole split whole =>
    have hclosed : s.exchange.outbound.closed = true := by
      rw [WorkQueue.isRejecting, Bool.and_eq_true] at rejecting
      exact rejecting.1
    exact .stopped split (stopped_of_accepted whole.room (hkeeps.queue hclosed)
      (Or.inr (hkeeps.rejecting rejecting)) (whole.rests outlet).accepted)
  | @stopped done later part split stopped =>
    have hstays := stopped.keeps hkeeps outlet.accepted []
    rw [List.append_nil] at hstays
    exact .stopped split hstays

/-- Frames are submitted. -/
theorem Accepted.rests (h : Accepted key limit frames s) (outlet : s.outlet.Rests s'.outlet)
    {new : List Frame} (hqueued : s'.queued = s.queued ++ new) (hkeeps : Keeps s s') :
    Accepted key limit (frames ++ new) s' := by
  cases h with
  | whole split whole =>
    refine .whole ?_ (whole.rests outlet)
    rw [hqueued, split, List.append_assoc]
  | stopped split stopped =>
    refine .stopped ?_ (stopped.keeps hkeeps outlet.accepted new)
    rw [split, List.append_assoc]

/-- Every effect keeps to what was submitted. -/
theorem Streams.effect (h : Streams key limit frames s) {new : List Frame}
    (heffect : Effect s s' new) : Streams key limit (frames ++ new) s' := by
  have hkeeps := heffect.keeps
  have hbound : s'.outlet.limit = limit := heffect.limit_eq.trans h.bound
  cases heffect with
  | rests quiet =>
    have hqueued := queued_of_grows quiet.queues.outbound
    refine ⟨hbound, ?_, ?_, h.accepted.rests quiet.outlet hqueued hkeeps⟩
    · rw [List.length_append, List.length_map, h.counted, quiet.queues.outbound.submitted]
    · obtain ⟨gone, hgone⟩ := h.queued
      exact ⟨gone, by rw [hqueued, ← hgone, List.append_assoc]⟩
  | turnsAway outlet queue closed rejecting =>
    have hsuffix := (queued_of_shrinks queue ▸ List.suffix_cons _ _).trans h.queued
    rw [List.append_nil]
    exact ⟨hbound, h.counted.trans queue.submitted.symm, hsuffix,
      h.accepted.turnsAway outlet rejecting hkeeps⟩
  | sends outlet queue closed running ends =>
    have hqueued := queued_of_shrinks queue
    rw [List.append_nil]
    exact ⟨hbound, h.counted.trans queue.submitted.symm,
      (hqueued ▸ List.suffix_cons _ _).trans h.queued,
      h.accepted.sends h.bound outlet hqueued running hkeeps ends⟩

theorem Streams.effects (h : Streams key limit frames s) {new : List Frame}
    (heffects : Effects s s' new) : Streams key limit (frames ++ new) s' := by
  induction heffects with
  | one effect => exact h.effect effect
  | more first effect ih =>
    have hmore := ih.effect effect
    rwa [List.append_nil] at hmore

/-- A run keeps to what was submitted before and in it. -/
theorem Streams.run (h : Streams key limit frames s) (hlimit : limit ≤ Frame.maxPayload)
    (steps : List Step) : Streams key limit (frames ++ s.submissions steps) (s.run steps) := by
  induction steps generalizing frames s with
  | nil =>
    rw [submissions, List.append_nil]
    exact h
  | cons step later ih =>
    rw [submissions, ← List.append_assoc]
    exact ih (h.effects (take_effects (h.bound ▸ hlimit) step))

/-- Where the link has ended, no run puts anything on the stream. -/
theorem Ended.accepted_run (h : s.Ended) (hlimit : s.outlet.limit ≤ Frame.maxPayload)
    (steps : List Step) : (s.run steps).outlet.sink.accepted = s.outlet.sink.accepted := by
  have heffects : ∀ {s s' : Session} {new : List Frame}, s.Ended → Effects s s' new →
      s'.Ended ∧ s'.outlet.sink.accepted = s.outlet.sink.accepted ∧
        s'.outlet.limit = s.outlet.limit := by
    intro s s' new h heffects
    induction heffects with
    | one effect => exact ⟨h.keeps effect.keeps, h.accepted_eq effect, effect.limit_eq⟩
    | more first effect ih =>
      obtain ⟨hended, haccepted, hlimit⟩ := ih
      exact ⟨hended.keeps effect.keeps, (hended.accepted_eq effect).trans haccepted,
        effect.limit_eq.trans hlimit⟩
  induction steps generalizing s with
  | nil => rfl
  | cons step later ih =>
    obtain ⟨hended, haccepted, hbound⟩ := heffects h (take_effects hlimit step)
    exact (ih hended (hbound ▸ hlimit)).trans haccepted

/-- A session that starts has submitted nothing. -/
theorem streams_start {keys : SessionKeys} {settings : SessionSettings} {carrier : Carrier}
    {writes : List WriteAnswer} {flushes : List FlushAnswer}
    (h : start keys settings carrier (.ofAnswers writes flushes) = .ok s) :
    Streams (.ofBytes keys.send) settings.frame.payloadLimit [] s := by
  rw [start] at h
  split at h
  · cases h
  · cases h
    exact ⟨rfl, rfl, List.suffix_refl _,
      .whole (List.nil_append _).symm ⟨Nat.zero_le _, rfl, rfl⟩⟩

/-- **The wire is whole.** Whatever happens in a session, whatever its stream answers, and wherever
an end of the link falls, the stream has accepted the wire forms of the first frames that were
submitted and fit, under the key of the session and consecutive nonces from zero on, and behind them
at most a part of the wire form of the next one. Such a part is there only if the session is closed,
and nothing is accepted behind it. As long as the queue takes frames there is none, and the frames
accepted are those that fit of all that were taken off the queue. -/
theorem wire_is_whole (keys : SessionKeys) (settings : SessionSettings) (carrier : Carrier)
    (writes : List WriteAnswer) (flushes : List FlushAnswer) (s : Session)
    (hstart : start keys settings carrier (.ofAnswers writes flushes) = .ok s)
    (steps : List Step) :
    let key := Shannon.Key.ofBytes keys.send
    let limit := settings.frame.payloadLimit
    let submitted := s.submissions steps
    let sent := fitting limit submitted
    let y := s.run steps
    submitted.length = y.exchange.outbound.submitted ∧ y.queued <:+ submitted ∧
    ∃ k part, y.outlet.sink.accepted = wires key 0 (sent.take k) ++ part ∧
      k ≤ sent.length ∧ k ≤ UInt32.size ∧
      (part ≠ [] → y.isOpen = false ∧ k < UInt32.size ∧
        (∃ f rest, sent[k]? = some f ∧ rest ≠ [] ∧
          Sealer.wire key (UInt32.ofNat k) (f.header ++ f.payload) = part ++ rest) ∧
        ∀ later, (y.run later).outlet.sink.accepted = y.outlet.sink.accepted) ∧
      (y.exchange.outbound.closed = false → part = [] ∧
        ∃ gone, submitted = gone ++ y.queued ∧ sent.take k = fitting limit gone) := by
  intro key limit submitted sent y
  have hlimit : limit ≤ Frame.maxPayload := Nat.min_le_right _ _
  have h : Streams key limit submitted y := (streams_start hstart).run hlimit steps
  have hfirst : ∀ {done later}, submitted = done ++ later →
      sent = fitting limit done ++ fitting limit later := by
    intro done later hsplit
    rw [← fitting_append, ← hsplit]
  refine ⟨h.counted, h.queued, ?_⟩
  cases h.accepted with
  | @whole gone split whole =>
    have hsent := hfirst split
    have htake : sent.take (fitting limit gone).length = fitting limit gone := by
      rw [hsent, List.take_left]
    refine ⟨(fitting limit gone).length, [], ?_, ?_, whole.room, nofun,
      fun _ => ⟨rfl, gone, split, htake⟩⟩
    · rw [htake, whole.accepted, List.append_nil]
    · rw [hsent, List.length_append]
      exact Nat.le_add_right _ _
  | @stopped done later part split stopped =>
    have hsent := hfirst split
    refine ⟨(fitting limit done).length, part, ?_, ?_, stopped.room, ?_, ?_⟩
    · rw [hsent, List.take_left, stopped.accepted]
    · rw [hsent, List.length_append]
      exact Nat.le_add_right _ _
    · intro hpart
      obtain ⟨hended, hroom, f, rest, hhead, hrest, hwire⟩ := stopped.torn hpart
      refine ⟨?_, hroom, ⟨f, rest, ?_, hrest, hwire⟩, hended.accepted_run (h.bound ▸ hlimit)⟩
      · rw [isOpen, hended.board, Bool.not_true]
      · rw [hsent, List.getElem?_append_right (Nat.le_refl _), Nat.sub_self, ← List.head?_eq_getElem?,
          hhead]
    · intro hopen
      rw [stopped.closed] at hopen
      cases hopen

/-- Where a write breaks off behind five bytes, they are a part of the first frame. -/
theorem wire_is_whole_short_write :
    ∃ s, start ⟨[1], [2]⟩ .standard .machine (.ofAnswers [.accept 5, .fault brokenPipe] []) = .ok s ∧
      let y := s.run [.enqueue ⟨⟨0x49, [7]⟩, none⟩, .work]
      y.outlet.sink.accepted.length = 5 ∧
      ∃ k part, y.outlet.sink.accepted =
        wires (.ofBytes [1]) 0 ([⟨0x49, [7]⟩].take k) ++ part ∧ k ≤ 1 := by
  refine ⟨_, rfl, by decide +kernel, ?_⟩
  have h := wire_is_whole ⟨[1], [2]⟩ .standard .machine [.accept 5, .fault brokenPipe] [] _ rfl
    [.enqueue ⟨⟨0x49, [7]⟩, none⟩, .work]
  obtain ⟨-, -, k, part, haccepted, hk, -⟩ := h
  exact ⟨k, part, haccepted, hk⟩

end MercuryLink.Session
