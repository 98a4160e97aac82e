import MercuryLink.Proofs.Sealing.Lockstep
import MercuryLink.Proofs.Stream.Sending
import MercuryLink.Stream.Channel

/-!
# The latch of a channel

A channel sends and receives in any order until a call fails. A frame refused for its size is no
such failure: it has used nothing, and the channel goes on. Any other failure closes the channel
in the same call, be it in the middle of a frame, in the flush behind it, or in the other direction.
So what the stream has accepted are the wire forms of the frames that were sent, and a part of one
more frame only where no call comes behind it that could write.
-/

namespace MercuryLink

/-- Below the limit nothing is refused for its size. -/
theorem Outlet.limit_lt_of_refused {o : Outlet} (hlimit : o.limit ≤ Frame.maxPayload) {f : Frame}
    {e : FrameError} (h : (o.send f).2 = .error e) (he : e.isTooLarge = true) :
    o.limit < f.payload.length := by
  have hsends := sends_send hlimit f
  rw [h] at hsends
  cases hsends with
  | refused large => exact large
  | exhausted _ _ _ kind | broken _ _ _ _ kind =>
    rw [he] at kind
    cases kind

namespace Channel

/-! ### Calls on a channel -/

/-- A call on a channel. -/
inductive Call where
  /-- A frame is sent. -/
  | send (f : Frame)
  /-- The next frame is received. -/
  | receive
  deriving DecidableEq, Repr

/-- What a call gives: the frame that was received, nothing where one was sent, or the failure. -/
abbrev Answer := Except FrameError (Option Frame)

/-- Make a call. -/
def take (c : Channel) : Call → Channel × Answer
  | .send f =>
    let (c, result) := c.send f
    (c, result.map fun _ => none)
  | .receive =>
    let (c, result) := c.receive
    (c, result.map some)

/-- Make calls one after the other. -/
def run (c : Channel) (calls : List Call) : Channel :=
  calls.foldl (fun c call => (c.take call).1) c

/-- What the calls of a run give. -/
def answers (c : Channel) : List Call → List Answer
  | [] => []
  | call :: later => (c.take call).2 :: (c.take call).1.answers later

/-- The frame that a call has sent. -/
def Call.sent : Call → Answer → List Frame
  | .send f, .ok _ => [f]
  | _, _ => []

/-- The frames that the calls of a run have sent. -/
def sent (c : Channel) : List Call → List Frame
  | [] => []
  | call :: later => call.sent (c.take call).2 ++ (c.take call).1.sent later

/-- Whether a failure of a call only refuses a frame for its size. -/
def Call.isRefusal : Call → FrameError → Bool
  | .send _, e => e.isTooLarge
  | .receive, _ => false

/-! ### Calls that fail -/

/-- A closed channel refuses a call whatever its ends are, and is left as it is. -/
theorem take_of_closed {c : Channel} (h : c.closed = true) (call : Call) :
    c.take call = (c, .error .connectionClosed) := by
  cases call with
  | send f =>
    rw [take, send, if_pos h]
    rfl
  | receive =>
    rw [take, receive, if_pos h]
    rfl

/-- A closed channel refuses every call of a run. -/
theorem run_of_closed {c : Channel} (h : c.closed = true) (calls : List Call) :
    c.run calls = c ∧ c.answers calls = calls.map fun _ => .error .connectionClosed := by
  induction calls with
  | nil => exact ⟨rfl, rfl⟩
  | cons call later ih =>
    obtain ⟨hrun, hanswers⟩ := ih
    have htake := take_of_closed h call
    refine ⟨?_, ?_⟩
    · rw [run, List.foldl_cons, htake]
      exact hrun
    · rw [answers, htake, List.map_cons, hanswers]

/-- An open channel refuses a frame above its limit, and is left as it is. -/
theorem send_of_large {c : Channel} (hopen : c.closed = false) {f : Frame}
    (hlarge : c.outlet.limit < f.payload.length) :
    c.send f = (c, .error (.payloadTooLarge f.payload.length c.outlet.limit)) := by
  obtain ⟨intake, outlet, closed⟩ := c
  cases hopen
  rw [send, if_neg Bool.false_ne_true, Outlet.send_of_large hlarge]
  rfl

/-- A call that fails for more than the size of its frame leaves the channel closed. -/
theorem closed_of_failure {c : Channel} {call : Call} {e : FrameError}
    (h : (c.take call).2 = .error e) (he : call.isRefusal e = false) :
    (c.take call).1.closed = true := by
  by_cases hclosed : c.closed = true
  · rwa [take_of_closed hclosed]
  · cases call with
    | send f =>
      rw [take, send, if_neg hclosed] at h ⊢
      revert h
      rcases c.outlet.send f with ⟨outlet, _ | _⟩
      · rintro ⟨⟩
        change (!e.isTooLarge) = true
        rw [show e.isTooLarge = false from he]
        rfl
      · exact nofun
    | receive =>
      rw [take, receive, if_neg hclosed] at h ⊢
      revert h
      rcases c.intake.receive with ⟨intake, _ | _⟩
      · exact fun _ => rfl
      · exact nofun

/-! ### What a channel has written -/

variable {key : Shannon.Key} {limit : Nat} {base : Bytes} {done : List Call} {frames : List Frame}
  {c : Channel}

/-- What the stream of a channel has accepted behind `base` when some calls have sent some frames. -/
inductive Wrote (key : Shannon.Key) (limit : Nat) (base : Bytes) (done : List Call)
    (frames : List Frame) (c : Channel) : Prop where
  /-- The wire forms of the frames sent; the next frame gets the next nonce. -/
  | whole (bound : c.outlet.limit = limit) (sealer : c.outlet.sealer = ⟨key, frames.length⟩)
    (accepted : c.outlet.sink.accepted = base ++ wires key 0 frames)
  /-- A front part of one more frame behind them; the channel is closed. -/
  | torn {f : Frame} {part rest : Bytes} (closed : c.closed = true) (offered : .send f ∈ done)
    (split : Sealer.wire key (UInt32.ofNat frames.length) (f.header ++ f.payload) = part ++ rest)
    (accepted : c.outlet.sink.accepted = base ++ wires key 0 frames ++ part)

/-- A call that sends nothing and leaves the outlet alone changes nothing about it. -/
theorem Wrote.idle (h : Wrote key limit base done frames c) (call : Call) {c' : Channel}
    (houtlet : c'.outlet = c.outlet) (hclosed : c.closed = true → c'.closed = true) :
    Wrote key limit base (done ++ [call]) frames c' := by
  cases h with
  | whole bound sealer accepted =>
    exact .whole (houtlet ▸ bound) (houtlet ▸ sealer) (houtlet ▸ accepted)
  | torn closed offered split accepted =>
    exact .torn (hclosed closed) (List.mem_append_left _ offered) split (houtlet ▸ accepted)

/-- An open channel that sends a frame writes its wire form, or closes behind a part of it, or
refuses it for its size. -/
theorem Wrote.send (h : Wrote key limit base done frames c) (hlimit : limit ≤ Frame.maxPayload)
    (hopen : c.closed = false) (f : Frame) :
    Wrote key limit base (done ++ [.send f])
      (frames ++ Call.sent (.send f) (c.take (.send f)).2) (c.take (.send f)).1 := by
  cases h with
  | torn closed =>
    rw [hopen] at closed
    cases closed
  | whole bound sealer accepted =>
    have hsends := Outlet.sends_send (bound ▸ hlimit) f
    have hnext : c.outlet.nextWire f =
        Sealer.wire key (UInt32.ofNat frames.length) (f.header ++ f.payload) := by
      rw [Outlet.nextWire, sealer]
    have hoffered : Call.send f ∈ done ++ [.send f] :=
      List.mem_append_right _ (List.mem_singleton_self _)
    rw [take, Channel.send, hopen, if_neg (by decide)]
    generalize c.outlet.send f = step at hsends
    obtain ⟨outlet, result⟩ := step
    cases hsends with
    | refused large rests | exhausted fits full rests =>
      change Wrote key limit base _ (frames ++ []) _
      rw [List.append_nil]
      exact .whole (rests.limit.trans bound) (rests.sealer.trans sealer)
        (rests.accepted.trans accepted)
    | @broken e front rest fits split puts barred kind =>
      change Wrote key limit base _ (frames ++ []) _
      rw [List.append_nil]
      have hsplit : Sealer.wire key (UInt32.ofNat frames.length) (f.header ++ f.payload) =
          front ++ rest := hnext ▸ split
      refine .torn ?_ hoffered hsplit ?_
      · change (!e.isTooLarge) = true
        rw [kind]
        rfl
      · rw [← accepted]
        exact puts.accepted
    | whole fits sound puts =>
      change Wrote key limit base _ (frames ++ [f]) _
      refine .whole (puts.limit.trans bound) ?_ ?_
      · rw [List.length_append, List.length_singleton]
        exact puts.sealer.trans (by rw [sealer])
      · rw [wires_concat, Nat.zero_add, ← hnext, ← List.append_assoc, ← accepted]
        exact puts.accepted

/-- Every call keeps to what the channel has sent. -/
theorem Wrote.take (h : Wrote key limit base done frames c) (hlimit : limit ≤ Frame.maxPayload)
    (call : Call) :
    Wrote key limit base (done ++ [call]) (frames ++ call.sent (c.take call).2)
      (c.take call).1 := by
  have hnothing : Wrote key limit base (done ++ [call]) (frames ++ []) c := by
    rw [List.append_nil]
    exact h.idle call rfl id
  by_cases hclosed : c.closed = true
  · rw [take_of_closed hclosed]
    cases call with
    | send f | receive => exact hnothing
  · cases call with
    | send f => exact h.send hlimit (Bool.eq_false_iff.2 hclosed) f
    | receive =>
      change Wrote key limit base _ (frames ++ []) _
      rw [List.append_nil, Channel.take, receive, if_neg hclosed]
      rcases c.intake.receive with ⟨intake, _ | _⟩
      · exact h.idle .receive rfl fun _ => rfl
      · exact h.idle .receive rfl id

/-- Every run keeps to what the channel has sent. -/
theorem Wrote.run (h : Wrote key limit base done frames c) (hlimit : limit ≤ Frame.maxPayload)
    (calls : List Call) :
    Wrote key limit base (done ++ calls) (frames ++ c.sent calls) (c.run calls) := by
  induction calls generalizing done frames c with
  | nil =>
    rw [sent, List.append_nil, List.append_nil]
    exact h
  | cons call later ih =>
    have hlater := ih (h.take hlimit call)
    rwa [List.append_assoc, List.append_assoc] at hlater

/-- A frame refused for its size leaves a channel as it is, and open. -/
theorem Wrote.refused (h : Wrote key limit base done frames c) (hlimit : limit ≤ Frame.maxPayload)
    {f : Frame} {e : FrameError} (hfails : (c.send f).2 = .error e)
    (he : e.isTooLarge = true) : (c.send f).1 = c ∧ c.closed = false := by
  have hopen : c.closed = false := by
    by_contra hclosed
    rw [Channel.send, if_pos (by simpa using hclosed)] at hfails
    cases hfails
    cases he
  cases h with
  | torn closed =>
    rw [hopen] at closed
    cases closed
  | whole bound =>
    have hsend : (c.outlet.send f).2 = .error e := by
      rw [Channel.send, hopen, if_neg (by decide)] at hfails
      revert hfails
      rcases c.outlet.send f with ⟨outlet, _ | _⟩
      · exact id
      · exact nofun
    have hlarge := Outlet.limit_lt_of_refused (bound ▸ hlimit) hsend he
    rw [send_of_large hopen hlarge]
    exact ⟨rfl, hopen⟩

/-- **The first failure closes a channel for good.** Whatever is sent and received, and whatever the
stream answers, it has accepted the wire forms of the frames whose sending succeeded, in order and
under consecutive nonces from zero on, and behind them at most a part of the wire form of one more,
which is there only if the channel is closed. A frame is refused for its size only by an open
channel, and leaves it as it is: open, with its nonces and its stream. On an open channel this
happens to every frame above the limit. After any other failure, in either direction, every later
call gives that the connection is closed and changes nothing, and it does not ask the stream: so it
would be with any other two ends, whatever they hold and would answer. -/
theorem failure_latches (secret secret' : Bytes) (max : Nat) (arrivals : List Arrival)
    (sink : Sink) (calls : List Call) :
    let start := ofHalves (.ofKeys secret secret') max arrivals sink
    let key := Shannon.Key.ofBytes secret
    let limit := Frame.payloadLimit max
    let c := start.run calls
    (∃ part, c.outlet.sink.accepted = sink.accepted ++ wires key 0 (start.sent calls) ++ part ∧
      (part ≠ [] → c.closed = true ∧ ∃ f rest, .send f ∈ calls ∧
        Sealer.wire key (UInt32.ofNat (start.sent calls).length) (f.header ++ f.payload) =
          part ++ rest)) ∧
    (∀ f e, (c.send f).2 = .error e → e.isTooLarge = true →
      (c.send f).1 = c ∧ c.closed = false) ∧
    (∀ f, c.closed = false → limit < f.payload.length →
      c.send f = (c, .error (.payloadTooLarge f.payload.length limit))) ∧
    ∀ call e, (c.take call).2 = .error e → call.isRefusal e = false →
      ∀ intake outlet later,
        let d := { (c.take call).1 with intake, outlet }
        d.run later = d ∧ d.answers later = later.map fun _ => .error .connectionClosed := by
  intro start key limit c
  have hlimit : limit ≤ Frame.maxPayload := Nat.min_le_right _ _
  have hstart : Wrote key limit sink.accepted [] [] start :=
    .whole rfl rfl (List.append_nil _).symm
  have h : Wrote key limit sink.accepted calls (start.sent calls) c := hstart.run hlimit calls
  refine ⟨?_, fun f e hfails he => h.refused hlimit hfails he, ?_, ?_⟩
  · cases h with
    | whole bound sealer accepted =>
      exact ⟨[], by rw [accepted, List.append_nil], fun hpart => absurd rfl hpart⟩
    | torn closed offered split accepted =>
      exact ⟨_, accepted, fun _ => ⟨closed, _, _, offered, split⟩⟩
  · intro f hopen hlarge
    cases h with
    | torn closed =>
      rw [hopen] at closed
      cases closed
    | whole bound =>
      rw [← bound] at hlarge ⊢
      exact send_of_large hopen hlarge
  · intro call e hfails he intake outlet later
    have hclosed : ({ (c.take call).1 with intake, outlet } : Channel).closed = true :=
      closed_of_failure hfails he
    exact run_of_closed hclosed later

/-- A write that breaks off behind two bytes closes the channel, and what has arrived stays unread. -/
example :
    let c := (ofHalves (.ofKeys [1] [2]) 16 [.bytes [3]]
      (.ofAnswers [.accept 2, .fault (.ofKind .brokenPipe)] [])).run [.send ⟨4, [5]⟩, .receive]
    c.outlet.sink.accepted.length = 2 ∧ c.closed = true ∧ c.intake.arrivals.length = 1 := by
  decide +kernel

end Channel

end MercuryLink
