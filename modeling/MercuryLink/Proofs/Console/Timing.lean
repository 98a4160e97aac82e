import MercuryLink.Console.Execute
import MercuryLink.Proofs.Exchange.Expiring
import MercuryLink.Proofs.Session.Sizing

/-!
# Written spans and the clock

A span is written as a count of 64 bits without a sign, and the clock counts its seconds in 64 bits
with one. Half of the counts of seconds that can be written are therefore greater than any that the
clock shows, and nothing between the two looks at that: the span goes from the command line to the
request as it was written, and is added to the reading of the clock when the request is registered.
Where the clock cannot show the sum, the call breaks off. A count of milliseconds is never that long.
-/

namespace MercuryLink

namespace Moment

/-- The clock cannot show the end of a span exactly if it lies at the limit or beyond. -/
theorem plus?_eq_none_iff {m : Moment} {t : Timespan} :
    m.plus? t = none ↔ limit ≤ m.nanos + t.nanos := by
  rw [plus?]
  split
  · next hroom => exact iff_of_false (Option.some_ne_none _) (Int.not_le.2 hroom)
  · next hroom => exact iff_of_true rfl (Int.not_lt.1 hroom)

/-- Half of what the clock can show on either side of its zero. -/
def reach : Timespan := .ofSeconds (2 ^ 62)

/-- The limit is twice as far. -/
theorem limit_eq : limit = 2 * reach.nanos := by decide

/-- Whether a moment is not farther from the zero of the clock than that. -/
def IsNear (m : Moment) : Prop := m.nanos.natAbs ≤ reach.nanos

/-- The last near moment is as far from the zero as the reach. -/
theorem isNear_reach : IsNear ⟨reach.nanos⟩ := Nat.le_of_eq (Int.natAbs_natCast _)

/-- From every near moment the clock can show the end of a span if the span is shorter than the reach,
and only then. -/
theorem forall_near_iff {t : Timespan} :
    (∀ m : Moment, m.IsNear → m.plus? t ≠ none) ↔ t.nanos < reach.nanos := by
  simp only [ne_eq, plus?_eq_none_iff, limit_eq, IsNear]
  constructor
  · intro h
    -- The last near moment leaves the least room, and that is the reach once more.
    have hlast : ¬ 2 * (reach.nanos : Int) ≤ reach.nanos + t.nanos :=
      h ⟨reach.nanos⟩ isNear_reach
    omega
  · intro h m hm
    omega

end Moment

namespace Exchange

variable {x : Exchange} {now : Moment} {r : Request} {timeout : Timespan} {listener : Option Nat}

/-- A request that is taken on expires when its span is over. One is broken off only by an open
exchange, once its packet is written, and because the clock cannot show when it would expire. -/
theorem timing_of_dispatch (x : Exchange) (now : Moment) (r : Request) (timeout : Timespan)
    (listener : Option Nat) :
    match (x.dispatch now r timeout listener).2 with
    | .ok h => ∃ entry,
        (x.dispatch now r timeout listener).1.board.pending.get? h.sequence = some entry ∧
          entry.timeout = timeout ∧ now.plus? timeout = some entry.deadline
    | .error .beyondClock => x.board.closeReason = none ∧
        (∃ payload, (r.toPacket x.nextHandle.sequence).encode = .ok payload) ∧
          now.plus? timeout = none
    | .error (.failed _) => True := by
  rw [dispatch, Board.register, nextHandle]
  dsimp only
  cases x.board.closeReason with
  | some e => trivial
  | none =>
    dsimp only
    cases (r.toPacket (.ofNat x.board.nextSequence)).encode with
    | error e => trivial
    | ok payload =>
      dsimp only
      cases now.plus? timeout with
      | none => exact ⟨rfl, ⟨payload, rfl⟩, rfl⟩
      | some deadline =>
        dsimp only
        cases x.outbound.submit? _ with
        | none => trivial
        | some accepted => exact ⟨_, Table.get?_insert_self _ _ _, rfl, rfl⟩

/-- Sending a request breaks off exactly if the exchange is open, the packet can be written, and the
clock cannot show when the request would expire. -/
theorem dispatch_breaks_off_iff :
    (x.dispatch now r timeout listener).2 = .error .beyondClock ↔
      x.board.closeReason = none ∧
      (∃ payload, (r.toPacket x.nextHandle.sequence).encode = .ok payload) ∧
      now.plus? timeout = none := by
  constructor
  · intro hcall
    have htiming := x.timing_of_dispatch now r timeout listener
    rwa [hcall] at htiming
  · rintro ⟨hopen, ⟨payload, hencode⟩, hbeyond⟩
    rw [dispatch_of_beyondClock hopen hencode hbeyond]

/-- What broke off has used up an id and a slot, and nothing else. -/
theorem dispatch_of_broken_off
    (hcall : (x.dispatch now r timeout listener).2 = .error .beyondClock) :
    (x.dispatch now r timeout listener).1 =
      { x with slots := x.slots + 1, board.nextSequence := x.board.nextSequence + 1 } := by
  obtain ⟨hopen, ⟨payload, hencode⟩, hbeyond⟩ := dispatch_breaks_off_iff.1 hcall
  rw [dispatch_of_beyondClock hopen hencode hbeyond]

end Exchange

/-- Waiting for a response breaks off exactly if asking for it does. -/
theorem Line.fetch_breaks_off_iff (l : Line) (r : Request) (timeout : Timespan) :
    (l.fetch r timeout).2 = .error .beyondClock ↔
      (l.session.exchange.request l.session.now r timeout).2 = .error .beyondClock := by
  rw [fetch, ask, Session.ask_request]
  cases (l.session.exchange.request l.session.now r timeout).2 with
  | error e => simp [Except.map, Except.bind]
  | ok h =>
    dsimp only [Except.map]
    generalize awaitWithin _ _ _ = waited
    refine iff_of_false ?_ nofun
    cases waited.2 with
    | error e => exact nofun
    | ok answer => cases answer <;> exact nofun

namespace Console

/-- A command that sends a request over a line breaks off exactly if asking for the response does. -/
theorem Command.runGet_eq_brokenOff_iff {text : String} {span : Timespan}
    (hread : readSpan text = .ok span) {s : Surroundings} {link : LinkChoice} {line : Line}
    (hconnect : link.connect s.network { SessionSettings.standard with requestSpan := span } =
      .ok line) (r : Request) (failOnStatus : Bool) (format : Format) :
    runGet s link r text failOnStatus format = .brokenOff ↔
      (line.session.exchange.request line.session.now r span).2 = .error .beyondClock := by
  rw [← line.fetch_breaks_off_iff, runGet, hread]
  dsimp only [bind, Except.bind]
  rw [hconnect]
  dsimp only [pure, Except.pure]
  cases (line.fetch r span).2 with
  | error e =>
    cases e with
    | failed e => exact iff_of_false nofun nofun
    | beyondClock => exact iff_of_true rfl rfl
  | ok m =>
    refine iff_of_false ?_ nofun
    intro hreport
    have hresult : Except.ok (if failOnStatus && m.isFailure then ExitCode.failure else .success) =
        Except.ok .brokenOff := congrArg Report.result hreport
    split at hresult
    · cases hresult
    · cases hresult

/-- A written span is shorter than the reach of the clock, unless it is a count of at least as many
seconds. -/
theorem exists_count_of_readSpan {text : String} {span : Timespan}
    (hread : readSpan text = .ok span) :
    ∃ count, 0 < count ∧ count ≤ largestCount ∧
      (span = .ofMillis count ∧ span.nanos < Moment.reach.nanos ∨
        span = .ofSeconds count ∧ (span.nanos < Moment.reach.nanos ↔ count < 2 ^ 62)) := by
  obtain ⟨count, hpos, hcount, rfl | rfl⟩ := exists_readSpan_iff.1 ⟨text, hread⟩
  · have hmillis : largestCount * 1000000 < Moment.reach.nanos := by decide
    refine ⟨count, hpos, hcount, Or.inl ⟨rfl, ?_⟩⟩
    exact Nat.lt_of_le_of_lt (Nat.mul_le_mul_right _ hcount) hmillis
  · refine ⟨count, hpos, hcount, Or.inr ⟨rfl, ?_⟩⟩
    exact Nat.mul_lt_mul_right (by decide)

/-- **A written span ends on the clock unless it is too long.** Every span that can be written is a
positive count of milliseconds or of seconds, within 64 bits. From every moment within `2 ^ 62`
seconds of its zero the clock can show the end of the span exactly if the span is shorter than that:
all counts of milliseconds are, and of the counts of seconds those below `2 ^ 62`. So a request with
such a span never breaks off. With any span, a request breaks off exactly if the exchange is open, the
packet can be written and the clock cannot show the end of the span; an id and a slot are used up
then, nothing is registered and nothing queued. A request that is taken on expires at the end of the
span, which the clock can show. A command that is given the span breaks off, once it is connected,
exactly if its request does. -/
theorem clock_shows_end_of_short_spans {text : String} {span : Timespan}
    (hread : readSpan text = .ok span) :
    (∃ count, 0 < count ∧ count ≤ largestCount ∧
      (span = .ofMillis count ∧ span.nanos < Moment.reach.nanos ∨
        span = .ofSeconds count ∧ (span.nanos < Moment.reach.nanos ↔ count < 2 ^ 62))) ∧
    ((∀ now : Moment, now.IsNear → now.plus? span ≠ none) ↔
      span.nanos < Moment.reach.nanos) ∧
    (∀ (x : Exchange) (now : Moment) (r : Request),
      let asked := x.request now r span
      (now.IsNear → span.nanos < Moment.reach.nanos → asked.2 ≠ .error .beyondClock) ∧
      (asked.2 = .error .beyondClock ↔ x.board.closeReason = none ∧
        (∃ payload, (r.toPacket x.nextHandle.sequence).encode = .ok payload) ∧
        Moment.limit ≤ now.nanos + span.nanos) ∧
      (asked.2 = .error .beyondClock → asked.1 =
        { x with slots := x.slots + 1, board.nextSequence := x.board.nextSequence + 1 }) ∧
      ∀ h, asked.2 = .ok h → ∃ entry,
        asked.1.board.pending.get? h.sequence = some entry ∧ entry.timeout = span ∧
          entry.deadline.nanos = now.nanos + span.nanos ∧
          entry.deadline.nanos < Moment.limit) ∧
    ∀ (s : Surroundings) (link : LinkChoice) (line : Line) (r : Request) (failOnStatus : Bool)
      (format : Format),
      link.connect s.network { SessionSettings.standard with requestSpan := span } = .ok line →
      (Command.runGet s link r text failOnStatus format = .brokenOff ↔
        (line.session.exchange.request line.session.now r span).2 = .error .beyondClock) := by
  refine ⟨exists_count_of_readSpan hread, Moment.forall_near_iff, ?_, ?_⟩
  · intro x now r asked
    refine ⟨?_, ?_, Exchange.dispatch_of_broken_off, ?_⟩
    · intro hnear hshort hcall
      exact Moment.forall_near_iff.2 hshort now hnear (Exchange.dispatch_breaks_off_iff.1 hcall).2.2
    · rw [← Moment.plus?_eq_none_iff]
      exact Exchange.dispatch_breaks_off_iff
    · intro h hcall
      have htiming := x.timing_of_dispatch now r span none
      rw [show (x.dispatch now r span none).2 = .ok h from hcall] at htiming
      obtain ⟨entry, hentry, htimeout, hdeadline⟩ := htiming
      exact ⟨entry, hentry, htimeout, Moment.plus?_eq_some_iff.1 hdeadline⟩
  · intro s link line r failOnStatus format hconnect
    exact Command.runGet_eq_brokenOff_iff hread hconnect r failOnStatus format

/-- From the last near moment the clock can show the end of the longest span that is short enough, one
second before its limit. -/
theorem clock_shows_end_of_short_spans_at_reach :
    let now : Moment := ⟨Moment.reach.nanos⟩
    let asked := (Exchange.empty .drain (.ofSeconds 30)).request now (.plain .get "x")
      (.ofSeconds 4611686018427387903)
    readSpan "4611686018427387903s" = .ok (.ofSeconds 4611686018427387903) ∧ now.IsNear ∧
    asked.2 = .ok ⟨[0], 0⟩ ∧ ∃ entry, asked.1.board.pending.get? [0] = some entry ∧
      entry.deadline.nanos + 1000000000 = Moment.limit := by
  intro now asked
  have hread : readSpan "4611686018427387903s" = .ok (.ofSeconds 4611686018427387903) :=
    @readSpan_seconds 4611686018427387903 (by decide) (by decide)
  have hasked : ((Exchange.empty .drain (.ofSeconds 30)).request ⟨Moment.reach.nanos⟩
      (.plain .get "x") (.ofSeconds 4611686018427387903)).2 = .ok ⟨[0], 0⟩ := by decide +kernel
  obtain ⟨-, -, hrequest, -⟩ := clock_shows_end_of_short_spans hread
  obtain ⟨-, -, -, htaken⟩ := hrequest (.empty .drain (.ofSeconds 30)) now (.plain .get "x")
  obtain ⟨entry, hentry, -, hdeadline, -⟩ := htaken _ hasked
  refine ⟨hread, Moment.isNear_reach, hasked, entry, hentry, ?_⟩
  rw [hdeadline]
  decide

/-- The longest span can be written, but the clock cannot show its end, not even from its zero: on an
exchange that was never used the first request with it breaks off. -/
theorem longest_span_ends_beyond_clock :
    readSpan "18446744073709551615s" = .ok (.ofSeconds 18446744073709551615) ∧
    (⟨0⟩ : Moment).IsNear ∧
    ((Exchange.empty .drain (.ofSeconds 30)).request ⟨0⟩ (.plain .get "x")
      (.ofSeconds 18446744073709551615)).2 = .error .beyondClock := by
  have hencode : ((Request.plain .get "x").toPacket
      (Exchange.empty .drain (.ofSeconds 30)).nextHandle.sequence).encode =
      .ok [0, 1, 0, 1, 0, 1, 0, 8, 0x0a, 1, 120, 0x1a, 3, 71, 69, 84] := by decide +kernel
  have hbeyond : (⟨0⟩ : Moment).plus? (.ofSeconds 18446744073709551615) = none := by
    rw [Moment.plus?_eq_none_iff]
    decide
  exact ⟨@readSpan_seconds 18446744073709551615 (by decide) (by decide), Nat.zero_le _,
    Exchange.dispatch_breaks_off_iff.2 ⟨rfl, ⟨_, hencode⟩, hbeyond⟩⟩

end Console

end MercuryLink
