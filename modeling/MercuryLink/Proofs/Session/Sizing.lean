import Mathlib.Algebra.Group.Nat.Defs
import MercuryLink.Proofs.Message.Numbering
import MercuryLink.Proofs.Message.WireForm
import MercuryLink.Proofs.Session.Ending
import MercuryLink.Proofs.Session.Ledger
import MercuryLink.Proofs.Session.Outflow

/-!
# Requests that are too large

Two limits stand in the way of a request. Its packet has length fields of two bytes, and a request
that does not fit them is refused when it is registered. Its frame has a limit on the payload, never
above what its own length field can describe, and the worker looks at it when it takes the frame off
the queue. Neither concerns anything but the request, although a failure to write is what else ends
a link: the frame was refused before a nonce was used for it, so a peer that opens what the stream
has accepted never misses one.
-/

namespace MercuryLink

/-! ### What fits into a packet -/

/-- A number that fits into some bytes has an id of no more bytes. -/
theorem SequenceId.length_ofNat_le {n k : Nat} (h : n < 256 ^ (k + 1)) :
    (ofNat n).length ≤ k + 1 :=
  length_ofNat_le_iff.2 h

/-- The header of a request, another part, or the number of parts is too large for its length
field. -/
def Request.Overlong (r : Request) : Prop :=
  Packet.maxLength < r.header.encode.length ∨
    (∃ part ∈ r.payload, Packet.maxLength < part.length) ∨
    Packet.maxLength < r.payload.length + 1

/-- Behind an id that fits, a request fits into its packet unless it is too large itself. -/
theorem Request.fits_toPacket_iff {r : Request} {sequence : SequenceId}
    (hsequence : sequence.length ≤ Packet.maxLength) :
    (r.toPacket sequence).Fits ↔ ¬ r.Overlong := by
  simp only [Overlong, not_or, not_exists, not_and, Nat.not_lt]
  constructor
  · intro h
    obtain ⟨hheader, hparts⟩ := List.forall_mem_cons.1 h.parts
    exact ⟨hheader, hparts, h.partCount⟩
  · rintro ⟨hheader, hparts, hcount⟩
    exact ⟨hsequence, hcount, List.forall_mem_cons.2 ⟨hheader, hparts⟩⟩

namespace Exchange

section Dispatch

variable {x : Exchange} {r : Request} {now : Moment} {timeout : Timespan} {listener : Option Nat}

/-- A request that cannot be written is refused; only its id and its slot are used up. -/
theorem dispatch_of_unencodable {e : Packet.EncodeError} (hopen : x.board.closeReason = none)
    (hencode : (r.toPacket x.nextHandle.sequence).encode = .error e) :
    x.dispatch now r timeout listener =
      ({ x with slots := x.slots + 1, board.nextSequence := x.board.nextSequence + 1 },
        .error (.failed (.ofEncode e))) := by
  rw [nextHandle] at hencode
  rw [dispatch, Board.register]
  simp only [hopen, hencode]

/-- So is one that would expire beyond the clock. -/
theorem dispatch_of_beyondClock {payload : Bytes} (hopen : x.board.closeReason = none)
    (hencode : (r.toPacket x.nextHandle.sequence).encode = .ok payload)
    (hbeyond : now.plus? timeout = none) :
    x.dispatch now r timeout listener =
      ({ x with slots := x.slots + 1, board.nextSequence := x.board.nextSequence + 1 },
        .error .beyondClock) := by
  rw [nextHandle] at hencode
  rw [dispatch, Board.register]
  simp only [hopen, hencode, hbeyond]

/-- Any other gets the next handle, and its frame waits behind the others. -/
theorem dispatch_of_accepted {payload : Bytes} {deadline : Moment}
    (hopen : x.board.closeReason = none) (hqueue : x.outbound.closed = false)
    (hencode : (r.toPacket x.nextHandle.sequence).encode = .ok payload)
    (hdeadline : now.plus? timeout = some deadline) :
    let sent := x.dispatch now r timeout listener
    sent.2 = .ok x.nextHandle ∧ sent.1.outbound.waiting = x.outbound.waiting ++
      [(x.outbound.submitted, ⟨⟨r.method.command, payload⟩, some x.nextHandle.sequence⟩)] := by
  rw [nextHandle] at hencode
  rw [dispatch, Board.register]
  simp only [hopen, hencode, hdeadline, WorkQueue.submit?, hqueue, Bool.false_eq_true, if_false]
  exact ⟨rfl, rfl⟩

end Dispatch

/-- What became of a write leaves what waits. -/
theorem waiting_written (x : Exchange) (o : Outgoing) (result : Except FrameError Unit) :
    (x.written o result).outbound.waiting = x.outbound.waiting := by
  have hgrows := (x.queues_written o result).outbound.waiting
  rwa [List.append_nil] at hgrows

end Exchange

/-! ### A peer that opens what was accepted -/

/-- While some bytes are wanting, an opener opens the first of the frames it awaits, and does not
fail. -/
theorem Opener.Awaits.drain_front {key : Shannon.Key} {n : Nat} {o : Opener} {frames : List Frame}
    {source absent : Bytes} (h : Awaits key n o frames (source ++ absent))
    (hfit : ∀ f ∈ frames, f.payload.length ≤ Frame.maxPayload)
    (hroom : n + frames.length ≤ UInt32.size) :
    (o.drain source).failure = none ∧ (o.drain source).frames <+: frames := by
  induction frames generalizing n o source with
  | nil =>
    have hnext := h.next hfit hroom
    generalize hattempt : o.next source = attempt at hnext
    cases hnext with
    | waits awaits wanting =>
      rw [drain_of_none hattempt]
      exact ⟨rfl, List.nil_prefix⟩
    | opens first awaits => cases first
  | cons f later ih =>
    have hnext := h.next hfit hroom
    generalize hattempt : o.next source = attempt at hnext
    cases hnext with
    | waits awaits wanting =>
      rw [drain_of_none hattempt]
      exact ⟨rfl, List.nil_prefix⟩
    | opens first awaits =>
      cases first
      rw [List.length_cons] at hroom
      obtain ⟨hsound, hopened⟩ :=
        ih awaits (fun g hg => hfit g (List.mem_cons_of_mem f hg)) (by omega)
      rw [drain_of_some hattempt]
      exact ⟨hsound, (List.prefix_cons_inj f).2 hopened⟩

namespace Session

/-- What a peer with the secret of a session has opened of all that its stream has accepted. -/
def peer (s : Session) (secret : Bytes) : Opener.Drained :=
  (Opener.ofKey secret).drain s.outlet.sink.accepted

/-- A peer follows a session that has submitted some frames: it has opened the first of those that
fit, without a failure. While the queue takes frames, it has opened all of them that were taken off
the queue, and stands where the sealer stands. -/
structure FollowedBy (s : Session) (secret : Bytes) (limit : Nat) (submitted : List Frame) :
    Prop where
  sound : (s.peer secret).failure = none
  opened : (s.peer secret).frames <+: fitting limit submitted
  inStep : s.exchange.outbound.closed = false → (s.peer secret).rest = [] ∧
    (s.peer secret).opener.phase = .header ∧
    (s.peer secret).opener.count = s.outlet.sealer.count ∧
    ∃ gone, submitted = gone ++ s.queued ∧ (s.peer secret).frames = fitting limit gone

/-- Whatever a session has put on its stream, a peer follows it. -/
theorem Streams.followed {secret : Bytes} {limit : Nat} {submitted : List Frame} {s : Session}
    (h : Streams (.ofBytes secret) limit submitted s) (hlimit : limit ≤ Frame.maxPayload) :
    s.FollowedBy secret limit submitted := by
  have hfit : ∀ frames, ∀ f ∈ fitting limit frames, f.payload.length ≤ Frame.maxPayload := by
    intro frames f hf
    have hsmall : f.payload.length ≤ limit := by simpa [fitting] using (List.mem_filter.1 hf).2
    exact Nat.le_trans hsmall hlimit
  cases h.accepted with
  | @whole gone split whole =>
    have hawaits : Opener.Awaits (.ofBytes secret) 0 (Opener.ofKey secret) (fitting limit gone)
        (wires (.ofBytes secret) 0 (fitting limit gone)) := .header _
    have hdrain := hawaits.drain (hfit gone) ((Nat.zero_add _).symm ▸ whole.room)
    rw [Nat.zero_add, ← whole.accepted] at hdrain
    have hpeer : s.peer secret = _ := hdrain
    constructor
    · rw [hpeer]
    · rw [hpeer, split, fitting_append]
      exact List.prefix_append _ _
    · intro _
      rw [hpeer, whole.sealer]
      exact ⟨rfl, rfl, rfl, gone, split, rfl⟩
  | @stopped done later part split stopped =>
    -- What was accepted is the front of the wire forms of some of the first frames.
    obtain ⟨frames, absent, hfirst, hroom, hwires⟩ : ∃ frames absent,
        frames <+: fitting limit submitted ∧ frames.length ≤ UInt32.size ∧
          wires (.ofBytes secret) 0 frames = s.outlet.sink.accepted ++ absent := by
      have hsplit : fitting limit submitted = fitting limit done ++ fitting limit later := by
        rw [split, fitting_append]
      by_cases hpart : part = []
      · refine ⟨fitting limit done, [], hsplit ▸ List.prefix_append _ _, stopped.room, ?_⟩
        rw [stopped.accepted, hpart, List.append_nil, List.append_nil]
      · obtain ⟨-, hroom, f, rest, hhead, -, hwire⟩ := stopped.torn hpart
        obtain ⟨others, hothers⟩ := List.head?_eq_some_iff.1 hhead
        refine ⟨fitting limit done ++ [f], rest, ⟨others, ?_⟩, ?_, ?_⟩
        · rw [hsplit, hothers, List.append_assoc, List.singleton_append]
        · rw [List.length_append, List.length_singleton]
          exact hroom
        · rw [wires_concat, Nat.zero_add, hwire, stopped.accepted, List.append_assoc]
    have hawaits : Opener.Awaits (.ofBytes secret) 0 (Opener.ofKey secret) frames
        (wires (.ofBytes secret) 0 frames) := .header _
    rw [hwires] at hawaits
    have hfrontFit : ∀ f ∈ frames, f.payload.length ≤ Frame.maxPayload :=
      fun f hf => hfit submitted f (hfirst.subset hf)
    obtain ⟨hsound, hopened⟩ := hawaits.drain_front hfrontFit ((Nat.zero_add _).symm ▸ hroom)
    refine ⟨hsound, hopened.trans hfirst, ?_⟩
    intro hopen
    rw [stopped.closed] at hopen
    cases hopen

/-! ### What the worker does with a frame -/

/-- A step in which the worker takes the oldest frame. -/
def Step.Works : Step → Prop
  | .work | .cut _ _ => True
  | _ => False

/-- The worker sends the first frame that waits. A failure other than for its size closes the
session. -/
theorem sends_of_works {s : Session} (hlimit : s.outlet.limit ≤ Frame.maxPayload) {step : Step}
    (hworks : step.Works) {ordinal : Nat} {o : Outgoing} {rest : List (Nat × Outgoing)}
    (hwaiting : s.exchange.outbound.waiting = (ordinal, o) :: rest)
    (hrunning : s.exchange.outbound.isRejecting = false) :
    s.queued = o.frame :: (s.take step).queued ∧
      ∃ result, s.outlet.Sends o.frame (s.take step).outlet result ∧
        ∀ e, result = .error e → e.isTooLarge = false → (s.take step).isOpen = false := by
  have hqueued : ∀ {t : Session}, t.exchange.outbound.waiting = rest →
      s.queued = o.frame :: t.queued := by
    intro t h
    rw [queued, queued, hwaiting, h, List.map_cons]
  have hcloses : ∀ {x : Exchange} {result : Except FrameError Unit} {e : FrameError},
      result = .error e → e.isTooLarge = false → (x.written o result).isClosed = true := by
    rintro x result e rfl hkind
    rw [Exchange.written_error x o hkind]
    rfl
  cases step with
  | work =>
    simp only [take, work, Exchange.work_of_running _ _ hwaiting hrunning]
    refine ⟨hqueued (Exchange.waiting_written _ o _), (s.outlet.send o.frame).2, ?_, ?_⟩
    · exact (Outlet.sends_send hlimit o.frame).congr (.refl _) (rests_severed _ _)
    · intro e herror hkind
      rw [isOpen, hcloses herror hkind]
      rfl
  | cut calls e =>
    let cutOff : Outlet :=
      { s.outlet with sink.writes := s.outlet.sink.writes.take calls ++ [.fault brokenPipe] }
    have hcut : s.outlet.Rests cutOff := ⟨rfl, rfl, rfl, id⟩
    have hlimit : cutOff.limit ≤ Frame.maxPayload := hlimit
    have hsends := Outlet.sends_send hlimit o.frame
    simp only [take, cut, WorkQueue.next?_of_cons hwaiting, hrunning, Bool.false_eq_true, if_false]
    refine ⟨hqueued (Exchange.waiting_written _ o _), (cutOff.send o.frame).2, ?_, ?_⟩
    · exact hsends.congr hcut (rests_severed _ _)
    · intro e' herror hkind
      rw [isOpen, hcloses herror hkind]
      rfl
  | _ => exact hworks.elim

/-- A session goes on with nothing queued, written or waited for that was not before: only an id and
a slot are used up. -/
structure Spares (s s' : Session) : Prop where
  exchange : s'.exchange =
    { s.exchange with
      slots := s.exchange.slots + 1
      board.nextSequence := s.exchange.board.nextSequence + 1 }
  sealer : s'.outlet.sealer = s.outlet.sealer
  accepted : s'.outlet.sink.accepted = s.outlet.sink.accepted

theorem spares_withExchange {s : Session} {x : Exchange}
    (h : x = { s.exchange with
      slots := s.exchange.slots + 1
      board.nextSequence := s.exchange.board.nextSequence + 1 }) :
    s.Spares (s.withExchange x) :=
  ⟨h, (rests_severed _ _).sealer, (rests_severed _ _).accepted⟩

/-- The worker drops the first frame that waits: the request it carried is outstanding no more, and
its handle is answered with a failure unless it was answered before. Nothing else is changed. -/
structure Drops (s : Session) (h : Handle) (why : LinkError) (rest : List (Nat × Outgoing)) :
    Prop where
  exchange : s.work.exchange =
    { s.exchange with
      outbound.waiting := rest
      board.pending := s.exchange.board.pending.erase h.sequence
      log := s.work.exchange.log }
  resolves : Exchange.replies s.exchange.log h.slot = [] →
    s.work.exchange.log = s.exchange.log ++ [.reply h.slot (.error why)]
  keeps : Exchange.replies s.exchange.log h.slot ≠ [] → s.work.exchange.log = s.exchange.log

/-- The worker drops a frame above the limit. -/
theorem drops_of_large {s : Session} {known : List Handle} (hs : s.exchange.Ledger known)
    {h : Handle} (hmem : h ∈ known) {ordinal : Nat} {f : Frame} {rest : List (Nat × Outgoing)}
    (hwaiting : s.exchange.outbound.waiting = (ordinal, ⟨f, some h.sequence⟩) :: rest)
    (hrunning : s.exchange.outbound.isRejecting = false)
    (hlarge : s.outlet.limit < f.payload.length) :
    s.Drops h (.ofFrame (.payloadTooLarge f.payload.length s.outlet.limit)) rest := by
  have hwork : s.work.exchange =
      ({ s.exchange with outbound.waiting := rest } : Exchange).onBoard
        (s.exchange.board.fail h.sequence
          (.ofFrame (.payloadTooLarge f.payload.length s.outlet.limit))) := by
    simp only [work, Exchange.work_of_running _ _ hwaiting hrunning, Outlet.send_of_large hlarge]
    rfl
  have hresolved := hs.unresolved_iff hmem
  cases hentry : s.exchange.board.pending.get? h.sequence with
  | none =>
    have hanswered : Exchange.replies s.exchange.log h.slot ≠ [] := by
      rw [Ne, hresolved, hentry]
      rintro ⟨entry, hsome⟩
      cases hsome
    rw [Board.fail, hentry] at hwork
    have hlog : s.work.exchange.log = s.exchange.log := by
      rw [hwork]
      exact List.append_nil _
    refine ⟨?_, fun hnone => absurd hnone hanswered, fun _ => hlog⟩
    rw [hlog, hwork, Table.erase_eq_self hentry]
    simp only [Exchange.onBoard, List.append_nil]
  | some entry =>
    have hwaits : Exchange.replies s.exchange.log h.slot = [] := hresolved.2 ⟨entry, hentry⟩
    rw [Board.fail, hentry] at hwork
    dsimp only at hwork
    rw [hs.respond_eq hmem hentry] at hwork
    have hlog : s.work.exchange.log = s.exchange.log ++ [.reply h.slot
        (.error (.ofFrame (.payloadTooLarge f.payload.length s.outlet.limit)))] := by
      rw [hwork]
      rfl
    refine ⟨?_, fun _ => hlog, fun hanswered => absurd hwaits hanswered⟩
    rw [hlog, hwork]
    rfl

/-- A step takes the first frame that waits off the queue, and puts nothing on the stream. -/
structure Skips (s : Session) (f : Frame) (s' : Session) : Prop where
  queued : s.queued = f :: s'.queued
  sealer : s'.outlet.sealer = s.outlet.sealer
  accepted : s'.outlet.sink.accepted = s.outlet.sink.accepted

/-- A step puts the wire form of the first frame that waits on the stream, under the next nonce: all
of it, or a front part of it as the link ends. -/
structure Sends (s : Session) (f : Frame) (s' : Session) : Prop where
  queued : s.queued = f :: s'.queued
  sealer : s'.outlet.sealer = ⟨s.outlet.sealer.key, s.outlet.sealer.count + 1⟩
  accepted : ∃ front rest, s.outlet.nextWire f = front ++ rest ∧
    s'.outlet.sink.accepted = s.outlet.sink.accepted ++ front ∧ (s'.isOpen = true → rest = [])

section Works

variable {s : Session} {step : Step} {ordinal : Nat} {o : Outgoing} {rest : List (Nat × Outgoing)}

/-- The worker puts nothing of a frame above the limit on the stream. -/
theorem skips_of_large (hlimit : s.outlet.limit ≤ Frame.maxPayload) (hworks : step.Works)
    (hwaiting : s.exchange.outbound.waiting = (ordinal, o) :: rest)
    (hrunning : s.exchange.outbound.isRejecting = false)
    (hlarge : s.outlet.limit < o.frame.payload.length) : s.Skips o.frame (s.take step) := by
  obtain ⟨hqueued, result, hsends, -⟩ := sends_of_works hlimit hworks hwaiting hrunning
  cases hsends with
  | refused large rests => exact ⟨hqueued, rests.sealer, rests.accepted⟩
  | exhausted fits | broken fits | whole fits => exact absurd fits (Nat.not_le.2 hlarge)

/-- The worker sends a frame within the limit, as long as a nonce is left. -/
theorem sends_of_small (hlimit : s.outlet.limit ≤ Frame.maxPayload) (hworks : step.Works)
    (hwaiting : s.exchange.outbound.waiting = (ordinal, o) :: rest)
    (hrunning : s.exchange.outbound.isRejecting = false)
    (hsmall : o.frame.payload.length ≤ s.outlet.limit)
    (hroom : s.outlet.sealer.count < UInt32.size) : s.Sends o.frame (s.take step) := by
  obtain ⟨hqueued, result, hsends, hcloses⟩ := sends_of_works hlimit hworks hwaiting hrunning
  cases hsends with
  | refused large => exact absurd hsmall (Nat.not_le.2 large)
  | exhausted fits full => exact absurd hroom (Nat.not_lt.2 full)
  | @broken e front rest fits split puts barred kind =>
    refine ⟨hqueued, puts.sealer, front, rest, split, puts.accepted, ?_⟩
    intro hopen
    rw [hcloses e rfl kind] at hopen
    cases hopen
  | whole fits sound puts =>
    exact ⟨hqueued, puts.sealer, _, [], (List.append_nil _).symm, puts.accepted, fun _ => rfl⟩

end Works

/-- What becomes of the frame of a request is decided by its size alone. -/
theorem size_decides {s : Session} {limit : Nat} (hbound : s.outlet.limit = limit)
    (hlimit : limit ≤ Frame.maxPayload) {known : List Handle} (hs : s.exchange.Ledger known)
    {h : Handle} (hmem : h ∈ known) {ordinal : Nat} {f : Frame} {rest : List (Nat × Outgoing)}
    (hwaiting : s.exchange.outbound.waiting = (ordinal, ⟨f, some h.sequence⟩) :: rest)
    (hrunning : s.exchange.outbound.isRejecting = false) :
    (limit < f.payload.length →
      s.Drops h (.unencodable (FrameError.payloadTooLarge f.payload.length limit).message) rest ∧
      ∀ step : Step, step.Works → s.Skips f (s.take step)) ∧
    (f.payload.length ≤ limit →
      s.work.outlet = severed (s.outlet.send f).1 s.work.exchange ∧
      (s.outlet.sealer.count < UInt32.size →
        ∀ step : Step, step.Works → s.Sends f (s.take step))) := by
  subst hbound
  refine ⟨?_, ?_⟩
  · intro hlarge
    refine ⟨drops_of_large hs hmem hwaiting hrunning hlarge, ?_⟩
    intro step hworks
    exact skips_of_large hlimit hworks hwaiting hrunning hlarge
  · intro hsmall
    refine ⟨?_, ?_⟩
    · simp only [work, Exchange.work_of_running _ _ hwaiting hrunning]
    · intro hroom step hworks
      exact sends_of_small hlimit hworks hwaiting hrunning hsmall hroom

/-! ### One request -/

section Request

variable {s : Session} {r : Request} {timeout : Timespan} {payload : Bytes}

/-- A request is made on the exchange. -/
theorem ask_request (s : Session) (r : Request) (timeout : Timespan) :
    s.ask (.request r timeout) = (s.withExchange (s.exchange.request s.now r timeout).1,
      (s.exchange.request s.now r timeout).2.map .request) := rfl

/-- A request that does not fit into its packet is refused at once. -/
theorem ask_of_overlong (hopen : s.exchange.board.closeReason = none)
    (hsequence : s.exchange.nextHandle.sequence.length ≤ Packet.maxLength) (hlong : r.Overlong) :
    let asked := s.ask (.request r timeout)
    s.Spares asked.1 ∧ ∃ e, (r.toPacket s.exchange.nextHandle.sequence).Overlong e ∧
      asked.2 = .error (.failed (.unencodable e.message)) := by
  intro asked
  cases hencode : (r.toPacket s.exchange.nextHandle.sequence).encode with
  | ok payload =>
    have hfits := (Packet.encode_eq_ok_iff.1 hencode).1
    exact absurd hlong ((Request.fits_toPacket_iff hsequence).1 hfits)
  | error e =>
    have hsent : s.exchange.request s.now r timeout = _ :=
      Exchange.dispatch_of_unencodable hopen hencode
    refine ⟨spares_withExchange (congrArg Prod.fst hsent), e, Packet.overlong_of_encode hencode, ?_⟩
    rw [show asked = _ from ask_request s r timeout, hsent]
    rfl

/-- So is a request that would expire beyond the clock. -/
theorem ask_of_beyondClock (hopen : s.exchange.board.closeReason = none)
    (hencode : (r.toPacket s.exchange.nextHandle.sequence).encode = .ok payload)
    (hbeyond : s.now.plus? timeout = none) :
    let asked := s.ask (.request r timeout)
    s.Spares asked.1 ∧ asked.2 = .error .beyondClock := by
  intro asked
  have hsent : s.exchange.request s.now r timeout = _ :=
    Exchange.dispatch_of_beyondClock hopen hencode hbeyond
  refine ⟨spares_withExchange (congrArg Prod.fst hsent), ?_⟩
  rw [show asked = _ from ask_request s r timeout, hsent]
  rfl

/-- Any other request gets a handle, and its frame waits behind the others. -/
theorem ask_of_accepted (hopen : s.exchange.board.closeReason = none)
    (hqueue : s.exchange.outbound.closed = false)
    (hencode : (r.toPacket s.exchange.nextHandle.sequence).encode = .ok payload)
    (hclock : s.now.plus? timeout ≠ none) :
    let asked := s.ask (.request r timeout)
    asked.2 = .ok (.request s.exchange.nextHandle) ∧
      asked.1.exchange.outbound.waiting = s.exchange.outbound.waiting ++
        [(s.exchange.outbound.submitted,
          ⟨⟨r.method.command, payload⟩, some s.exchange.nextHandle.sequence⟩)] := by
  intro asked
  obtain ⟨deadline, hdeadline⟩ := Option.ne_none_iff_exists'.1 hclock
  obtain ⟨hresult, hwaits⟩ : (s.exchange.request s.now r timeout).2 = _ ∧
      (s.exchange.request s.now r timeout).1.outbound.waiting = _ :=
    Exchange.dispatch_of_accepted hopen hqueue hencode hdeadline
  refine ⟨?_, hwaits⟩
  rw [show asked = _ from ask_request s r timeout, hresult]
  rfl

/-- The handle of a request that is accepted is entered in the ledger. -/
theorem ledger_ask {known : List Handle} (hs : s.exchange.Ledger known) {h : Handle}
    (hresult : (s.ask (.request r timeout)).2 = .ok (.request h)) :
    (s.ask (.request r timeout)).1.exchange.Ledger (known ++ [h]) := by
  have hmove := Exchange.take_move hs.account.ready (.request s.now r timeout)
  rw [ask_request] at hresult ⊢
  change Exchange.Move s.exchange (s.exchange.request s.now r timeout).1
    (Exchange.handles (some (s.exchange.request s.now r timeout).2)) at hmove
  revert hmove hresult
  generalize s.exchange.request s.now r timeout = made
  obtain ⟨x, outcome⟩ := made
  intro hresult hmove
  cases outcome with
  | error e => cases hresult
  | ok given =>
    cases hresult
    exact hs.move hmove

end Request

/-- **Requests that are too large fail alone.** Whatever an open session has been through, if only its
queue is never closed before its board, and as long as 64 bits count its requests, a request is asked
of it. If its header, another part or the number of its parts does not fit a length field, it is
refused at once with that failure, and only an id and a slot are used up: nothing is queued and
nothing waits. Otherwise its packet is written, and unless it would expire beyond the clock, it gets
a handle, and its frame waits behind the others under the command of its method. Whatever comes
then, once the worker takes that frame, the limit on payloads decides. Above it nothing is put on the
stream and no nonce is used, even if the link ends meanwhile; the handle is answered with that
failure, unless it was answered before, and nothing else changes: no other request, no listener, no
push in part, no other reply or message, nor whether the session is open. Within it the frame is
sent, once, and its wire form is put on the stream under the next nonce as long as there is one: all
of it, unless the link ends. In any case a peer follows the session ever after: it opens the frames
that fit, in order and without a failure, and as long as the queue takes frames it has counted as
many as the session has sealed. -/
theorem oversized_requests_fail_alone {keys : SessionKeys} {settings : SessionSettings}
    {carrier : Carrier} {writes : List WriteAnswer} {flushes : List FlushAnswer} {s₀ : Session}
    (hstart : start keys settings carrier (.ofAnswers writes flushes) = .ok s₀)
    {before : List Step}
    (horder : ∀ first rest, before = first ++ .closeOutbound :: rest →
      (s₀.run first).isOpen = false)
    (hopen : (s₀.run before).isOpen = true)
    (hcounted : (s₀.run before).exchange.board.nextSequence < 2 ^ 64)
    (r : Request) (timeout : Timespan) :
    let limit := settings.frame.payloadLimit
    let s := s₀.run before
    let handle := s.exchange.nextHandle
    let packet := r.toPacket handle.sequence
    let asked := s.ask (.request r timeout)
    (r.Overlong → s.Spares asked.1 ∧
      ∃ e, packet.Overlong e ∧ asked.2 = .error (.failed (.unencodable e.message))) ∧
    (¬ r.Overlong → ∃ payload, packet.encode = .ok payload ∧ Packet.decode payload = .ok packet ∧
      (s.now.plus? timeout = none → s.Spares asked.1 ∧ asked.2 = .error .beyondClock) ∧
      (s.now.plus? timeout ≠ none →
        let frame : Frame := ⟨r.method.command, payload⟩
        let task : Nat × Outgoing :=
          (s.exchange.outbound.submitted, ⟨frame, some handle.sequence⟩)
        asked.2 = .ok (.request handle) ∧
        asked.1.exchange.outbound.waiting = s.exchange.outbound.waiting ++ [task] ∧
        ∀ later rest,
          let t := asked.1.run later
          t.exchange.outbound.waiting = task :: rest →
          t.exchange.outbound.isRejecting = false →
          (limit < payload.length →
            t.Drops handle
              (.unencodable (FrameError.payloadTooLarge payload.length limit).message) rest ∧
            ∀ step : Step, step.Works → t.Skips frame (t.take step)) ∧
          (payload.length ≤ limit →
            t.work.outlet = severed (t.outlet.send frame).1 t.work.exchange ∧
            (t.outlet.sealer.count < UInt32.size →
              ∀ step : Step, step.Works → t.Sends frame (t.take step))))) ∧
    ∀ later,
      let steps := before ++ .ask (.request r timeout) :: later
      (s₀.run steps).FollowedBy keys.send limit (s₀.submissions steps) := by
  intro limit s handle packet asked
  have hlimit : limit ≤ Frame.maxPayload := Nat.min_le_right _ _
  have hstreams : ∀ steps,
      Streams (.ofBytes keys.send) limit (s₀.submissions steps) (s₀.run steps) :=
    fun steps => (streams_start hstart).run hlimit steps
  have hreason : s.exchange.board.closeReason = none := by
    simpa [isOpen, Exchange.isClosed, Board.isClosed] using hopen
  have hbytes : s.exchange.board.nextSequence < 256 ^ (7 + 1) := hcounted
  have hsequence : handle.sequence.length ≤ Packet.maxLength :=
    Nat.le_trans (SequenceId.length_ofNat_le hbytes) (by decide)
  have hlinked : s.exchange.Linked :=
    linked_run (by rw [start_eq hstart]; exact Exchange.linked_empty _ _) horder
  have hqueue : s.exchange.outbound.closed = false := by
    by_contra hclosed
    have hshut := hlinked (by simpa using hclosed)
    rw [Exchange.isClosed, Board.isClosed, hreason] at hshut
    cases hshut
  obtain ⟨known, hknown⟩ : ∃ known, s.exchange.Ledger ([] ++ known) :=
    ledger_run (by rw [start_eq hstart]; exact Exchange.ledger_empty _ _) before
  refine ⟨ask_of_overlong hreason hsequence, ?_, ?_⟩
  · intro hshort
    have hfits : packet.Fits := (Request.fits_toPacket_iff hsequence).2 hshort
    have hencode : packet.encode = .ok packet.wire := Packet.encode_eq_ok_iff.2 ⟨hfits, rfl⟩
    refine ⟨packet.wire, hencode, Packet.decode_eq_ok_iff.2 ⟨hfits, rfl⟩,
      ask_of_beyondClock hreason hencode, ?_⟩
    intro hclock frame task
    obtain ⟨hresult, hwaits⟩ := ask_of_accepted hreason hqueue hencode hclock
    refine ⟨hresult, hwaits, ?_⟩
    intro later rest t hwaiting hrunning
    have hbound : t.outlet.limit = limit := by
      have hrun : t = s₀.run (before ++ .ask (.request r timeout) :: later) := by
        rw [run, List.foldl_append]
        rfl
      rw [hrun]
      exact (hstreams _).bound
    obtain ⟨new, hledger⟩ := ledger_run (ledger_ask hknown hresult) later
    have hmem : handle ∈ [] ++ known ++ [handle] ++ new :=
      List.mem_append_left new (List.mem_append_right _ (List.mem_singleton_self handle))
    exact size_decides hbound hlimit hledger hmem hwaiting hrunning
  · intro later steps
    exact (hstreams steps).followed hlimit

/-- Where payloads may have ten bytes, a request of sixteen fails alone. -/
theorem oversized_requests_fail_alone_at_ten :
    ∃ s₀, start ⟨[1], [2]⟩ { SessionSettings.standard with frame.maxPayload := 10 } .machine
        (.ofAnswers [] []) = .ok s₀ ∧
      let asked := s₀.ask (.request (.plain .get "x") (.ofSeconds 10))
      let t := asked.1.work
      asked.2 = .ok (.request ⟨[0], 0⟩) ∧
      Exchange.replies t.exchange.log 0 =
        [.error (.unencodable "payload too large (16 bytes, max 10)")] ∧
      t.isOpen = true ∧ t.outlet.sink.accepted = [] := by
  obtain ⟨s₀, hstart⟩ : ∃ s, start ⟨[1], [2]⟩
      { SessionSettings.standard with frame.maxPayload := 10 } .machine (.ofAnswers [] []) = .ok s :=
    ⟨_, rfl⟩
  have hs := start_eq hstart
  refine ⟨s₀, hstart, ?_⟩
  intro asked t
  have hexchange : asked.1.exchange = ((Exchange.empty .drain (.ofSeconds 30)).request ⟨0⟩
      (.plain .get "x") (.ofSeconds 10)).1 := exchange_first_request hstart _ _
  have hrunning : ((Exchange.empty .drain (.ofSeconds 30)).request ⟨0⟩
      (.plain .get "x") (.ofSeconds 10)).1.outbound.isRejecting = false := by decide +kernel
  have hsilent : Exchange.replies ((Exchange.empty .drain (.ofSeconds 30)).request ⟨0⟩
      (.plain .get "x") (.ofSeconds 10)).1.log 0 = [] := by decide +kernel
  have hreason : ((Exchange.empty .drain (.ofSeconds 30)).request ⟨0⟩
      (.plain .get "x") (.ofSeconds 10)).1.board.closeReason = none := by decide +kernel
  rw [← hexchange] at hrunning hsilent hreason
  have hhandle : s₀.exchange.nextHandle = ⟨[0], 0⟩ := by
    have hfirst : (Exchange.empty .drain (.ofSeconds 30)).nextHandle = ⟨[0], 0⟩ := by decide +kernel
    rw [hs, ← hfirst]
    rfl
  have hqueue : s₀.exchange.outbound.waiting = [] := by
    rw [hs]
    rfl
  have hclock : s₀.now.plus? (.ofSeconds 10) ≠ none := by
    have hnow : s₀.now = ⟨0⟩ := by rw [hs]
    rw [hnow]
    decide +kernel
  have hshort : ¬ (Request.plain .get "x").Overlong := by
    have hheader : (Request.plain .get "x").header.encode.length = 8 := by decide +kernel
    rintro (h | ⟨part, h, -⟩ | h)
    · rw [hheader] at h
      exact absurd h (by decide)
    · cases h
    · exact absurd h (by decide)
  have horder : ∀ first rest, [] = first ++ Step.closeOutbound :: rest →
      (s₀.run first).isOpen = false := by simp
  have hopen : (s₀.run []).isOpen = true := by
    change s₀.isOpen = true
    rw [hs]
    rfl
  have hcounted : (s₀.run []).exchange.board.nextSequence < 2 ^ 64 := by
    have hcount : s₀.exchange.board.nextSequence = 0 := by
      rw [hs]
      rfl
    change s₀.exchange.board.nextSequence < 2 ^ 64
    rw [hcount]
    decide
  obtain ⟨-, hsent, -⟩ := oversized_requests_fail_alone hstart horder hopen hcounted
    (.plain .get "x") (.ofSeconds 10)
  obtain ⟨payload, hencode, -, -, hqueued⟩ := hsent hshort
  obtain ⟨hresult, hwaits, hlater⟩ := hqueued hclock
  have hwaits : asked.1.exchange.outbound.waiting = [] ++ [_] := hqueue ▸ hwaits
  have hpayload : payload.length = 16 := by
    have hpacket : ((Request.plain .get "x").toPacket [0]).encode =
        .ok [0, 1, 0, 1, 0, 1, 0, 8, 0x0a, 1, 120, 0x1a, 3, 71, 69, 84] := by decide +kernel
    have hhead : s₀.exchange.nextHandle.sequence = [0] := congrArg Handle.sequence hhandle
    have hencode : ((Request.plain .get "x").toPacket s₀.exchange.nextHandle.sequence).encode =
        .ok payload := hencode
    rw [hhead, hpacket] at hencode
    rw [← Except.ok.inj hencode]
    rfl
  obtain ⟨hdrops, hskips⟩ := (hlater [] [] hwaits hrunning).1 (by rw [hpayload]; decide)
  have hwhy : (FrameError.payloadTooLarge 16 10).message =
      "payload too large (16 bytes, max 10)" := by decide +kernel
  have hdrops : asked.1.Drops ⟨[0], 0⟩ (.unencodable "payload too large (16 bytes, max 10)") [] := by
    rw [← hwhy, ← hhandle, ← hpayload]
    exact hdrops
  refine ⟨?_, ?_, ?_, ?_⟩
  · rw [← hhandle]
    exact hresult
  · rw [show t.exchange.log = _ from hdrops.resolves hsilent, Exchange.replies_append, hsilent]
    rfl
  · have hstill : t.exchange.board.closeReason = none :=
      (congrArg (·.board.closeReason) hdrops.exchange).trans hreason
    rw [isOpen, Exchange.isClosed, Board.isClosed, hstill]
    rfl
  · have hfirst : asked.1.outlet.sink.accepted = [] := by
      refine (rests_severed s₀.outlet _).accepted.trans ?_
      rw [hs]
      rfl
    exact (hskips .work trivial).accepted.trans hfirst

end Session

end MercuryLink
