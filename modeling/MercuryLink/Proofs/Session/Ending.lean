import MercuryLink.Proofs.Session.Beside

/-!
# Why a session ends

Whatever callers, the receive loop, the clock and the worker do, and in whatever order, is made of
uses of the board that fail one request each, until one of them closes it. It is closed by the
owner, by a write that failed otherwise than for the size of its frame, or by a failure to read. The
last need not concern the link as a whole: an opener refuses only what is above its limit, and what
is said of a request above the limit is said of an inbound frame above it as well.
-/

namespace MercuryLink

/-- A failure that refuses a payload refuses one above the limit, as a header can describe it. -/
def FrameError.Refuses (limit : Nat) (e : FrameError) : Prop :=
  ∀ size max, e = .payloadTooLarge size max → max = limit ∧ limit < size ∧ size ≤ Frame.maxPayload

/-- Any other failure refuses nothing. -/
theorem FrameError.Refuses.of_isTooLarge {limit : Nat} {e : FrameError}
    (h : e.isTooLarge = false) : e.Refuses limit := by
  rintro size max rfl
  cases h

namespace Opener

/-- An attempt keeps the limit of its opener, and refuses only what is above it. -/
structure Minds (o : Opener) (a : Attempt) : Prop where
  limit : a.opener.limit = o.limit
  refuses : ∀ e, a.outcome = .error e → e.Refuses o.limit

/-- An attempt that does not fail refuses nothing. -/
theorem Minds.of_ok {o : Opener} {a : Attempt} {found : Option Frame}
    (hlimit : a.opener.limit = o.limit) (hok : a.outcome = .ok found) : o.Minds a := by
  refine ⟨hlimit, ?_⟩
  intro e he
  rw [hok] at he
  cases he

/-- Only the failure of an attempt matters. -/
theorem Minds.of_error {o : Opener} {a : Attempt} {e : FrameError}
    (hlimit : a.opener.limit = o.limit) (herror : a.outcome = .error e)
    (hrefuses : e.Refuses o.limit) : o.Minds a := by
  refine ⟨hlimit, ?_⟩
  intro e' he
  rw [herror] at he
  cases he
  exact hrefuses

theorem minds_openBody (o : Opener) (command : Command) (length : Nat) (nonce : UInt32)
    (cipher : Shannon.State) (source : Bytes) :
    o.Minds (o.openBody command length nonce cipher source) := by
  rw [openBody]
  split
  · exact .of_ok rfl rfl
  · dsimp only
    split
    · exact .of_ok rfl rfl
    · exact .of_error rfl rfl (.of_isTooLarge rfl)

theorem minds_openHeader (o : Opener) (source : Bytes) : o.Minds (o.openHeader source) := by
  rw [openHeader.eq_def]
  split
  · next a b c rest =>
    split
    · exact .of_error rfl rfl (.of_isTooLarge rfl)
    · next nonce _ =>
      dsimp only
      split
      · next hlong =>
        refine .of_error rfl rfl ?_
        rintro size max hsize
        cases hsize
        exact ⟨rfl, hlong, Frame.parseHeader_le (Shannon.State.length_decrypt _ _)⟩
      · have hbody := minds_openBody { o with count := o.count + 1 }
        exact ⟨(hbody _ _ _ _ _).limit, (hbody _ _ _ _ _).refuses⟩
  · exact .of_ok rfl rfl

theorem minds_next (o : Opener) (source : Bytes) : o.Minds (o.next source) := by
  rw [next]
  split
  · exact .of_error rfl rfl (.of_isTooLarge rfl)
  · split
    · exact o.minds_openHeader source
    · exact o.minds_openBody _ _ _ _ source

/-- So do all attempts on a byte stream. -/
theorem drain_minds (o : Opener) (source : Bytes) :
    (o.drain source).opener.limit = o.limit ∧
      ∀ e, (o.drain source).failure = some e → e.Refuses o.limit := by
  induction o, source using drain.induct with
  | case1 o source o' rest e hnext =>
    have hminds := o.minds_next source
    rw [hnext] at hminds
    rw [drain_of_error hnext]
    refine ⟨hminds.limit, ?_⟩
    rintro e' he'
    cases he'
    exact hminds.refuses e rfl
  | case2 o source o' rest hnext =>
    have hminds := o.minds_next source
    rw [hnext] at hminds
    rw [drain_of_none hnext]
    refine ⟨hminds.limit, ?_⟩
    intro e he
    cases he
  | case3 o source o' rest frame hnext hless ih =>
    have hlimit := (o.minds_next source).limit
    rw [hnext] at hlimit
    rw [drain_of_some hnext, ← hlimit]
    exact ih

end Opener

/-- A failure may end a link whose frames have a limit: it concerns the link as a whole, or refuses
an inbound frame for its size. -/
def LinkError.MayEnd (limit : Nat) (e : LinkError) : Prop :=
  e.isFatal = true ∨
    ∃ size, limit < size ∧ size ≤ Frame.maxPayload ∧ e = .ofFrame (.payloadTooLarge size limit)

/-- What is read of a stream within a limit may end the link. -/
theorem FrameError.Refuses.mayEnd {limit : Nat} {e : FrameError} (h : e.Refuses limit) :
    (LinkError.ofFrame e).MayEnd limit := by
  cases e with
  | payloadTooLarge size max =>
    obtain ⟨rfl, hlong, hroom⟩ := h size max rfl
    exact Or.inr ⟨size, hlong, hroom, rfl⟩
  | _ => exact Or.inl rfl

/-- Where no limit is set but that of the frames themselves, only what concerns the link as a whole
ends it. -/
theorem LinkError.MayEnd.isFatal {e : LinkError} (h : e.MayEnd Frame.maxPayload) :
    e.isFatal = true := by
  rcases h with hfatal | ⟨size, hlong, hroom, -⟩
  · exact hfatal
  · exact absurd hroom (Nat.not_le.2 hlong)

namespace Session

/-- A step is one of the session's own: what ends the link from outside is a failure to read within
a limit, and only its owner closes the board. -/
def Step.Own (limit : Nat) : Step → Prop
  | .fail e | .cut _ e => e.Refuses limit
  | .closeBoard e => e = .closed
  | _ => True

/-- A session goes on by uses of its board that may end the link, and with the same limit on what it
reads. -/
structure Goes (limit : Nat) (s s' : Session) : Prop where
  exchange : Exchange.Goes (LinkError.MayEnd limit) s.exchange s'.exchange
  limit : s'.opener.limit = s.opener.limit

section Goes

variable {limit : Nat} {s s' s'' : Session}

theorem Goes.refl (s : Session) : Goes limit s s := ⟨.refl _, rfl⟩

theorem Goes.trans (h : Goes limit s s') (h' : Goes limit s' s'') : Goes limit s s'' :=
  ⟨h.exchange.trans h'.exchange, h'.limit.trans h.limit⟩

/-- What closes the board only for a reason that may end the link includes all that callers, the clock
and the worker do. -/
theorem admits_mayEnd (limit : Nat) :
    Board.Turn.Admits (·.Within (LinkError.MayEnd limit)) :=
  Board.Turn.admits_within fun _ => Or.inl

/-- What goes on beside the receive loop leaves its limit alone. -/
theorem Beside.goes (h : Beside (·.Within (LinkError.MayEnd limit)) s s') : Goes limit s s' :=
  ⟨h.exchange.goes, congrArg Opener.limit h.opener⟩

theorem goes_ask (s : Session) (a : Ask) : Goes limit s (s.ask a).1 :=
  (beside_ask (admits_mayEnd limit) s a).goes

theorem goes_finish (s : Session) (c : Call) : Goes limit s (s.finish c).1 :=
  (beside_finish (admits_mayEnd limit) s c).goes

theorem goes_handle (s : Session) (f : Frame) : Goes limit s (s.handle f) := by
  rw [handle]
  split
  · exact (beside_withExchange (Exchange.uses_sendFrame _ _)).goes
  · split
    · exact ⟨.refl _, rfl⟩
    · split
      · exact (beside_withExchange (Exchange.uses_route _ trivial)).goes
      · exact .refl s

theorem goes_handleAll (s : Session) (frames : List Frame) :
    Goes limit s (frames.foldl handle s) := by
  induction frames generalizing s with
  | nil => exact .refl s
  | cons f later ih => exact (s.goes_handle f).trans (ih (s.handle f))

/-- A failure ends the link with what it means for the link. -/
theorem goes_fail {e : FrameError} (he : (LinkError.ofFrame e).MayEnd limit) (s : Session) :
    Goes limit s (s.fail e) :=
  (beside_fail he s).goes

/-- What arrives ends the link only with a failure to read it. -/
theorem goes_receive (hlimit : s.opener.limit = limit) (a : Arrival) :
    Goes limit s (s.receive a) := by
  rcases s.receive_cases a with h | h | ⟨e, hkind, h⟩ | ⟨chunk, h⟩
  · rw [h]
    exact .refl s
  · rw [h]
    exact ⟨.refl _, rfl⟩
  · rw [h]
    exact goes_fail (FrameError.Refuses.of_isTooLarge hkind).mayEnd s
  · rw [h, takeBytes]
    obtain ⟨hkept, hrefuses⟩ := s.opener.drain_minds (s.buffer ++ chunk)
    revert hkept hrefuses
    generalize s.opener.drain (s.buffer ++ chunk) = drained
    intro hkept hrefuses
    have hopened : Goes limit s { s with opener := drained.opener, buffer := drained.rest } :=
      ⟨.refl _, hkept⟩
    have hframes := hopened.trans (goes_handleAll _ drained.frames)
    split
    · exact hframes
    · next e hfailure =>
      exact hframes.trans (goes_fail (hlimit ▸ hrefuses e hfailure).mayEnd _)

/-- A step of a session's own closes the board only for a reason that may end the link. -/
theorem Step.Own.mayEnd {step : Step} (hown : step.Own limit) {e : LinkError}
    (he : step.reason? = some e) : e.MayEnd limit := by
  cases step with
  | fail e' | cut calls e' =>
    cases he
    exact FrameError.Refuses.mayEnd hown
  | closeBoard e' =>
    cases he
    have hclosed : e = .closed := hown
    exact Or.inl (hclosed ▸ rfl)
  | _ => cases he

/-- Every step of a session's own is made of uses of its board that may end the link. -/
theorem goes_take (hlimit : s.opener.limit = limit) {step : Step} (hown : step.Own limit) :
    Goes limit s (s.take step) := by
  cases hinbound : step.isInbound with
  | false => exact (beside_take (admits_mayEnd limit) hinbound (fun _ => hown.mayEnd) s).goes
  | true =>
    cases step with
    | receive a => exact goes_receive hlimit a
    | handle f => exact s.goes_handle f
    | _ => cases hinbound

/-- So is every run of such steps. -/
theorem goes_run (hlimit : s.opener.limit = limit) {steps : List Step}
    (hown : ∀ step ∈ steps, step.Own limit) : Goes limit s (s.run steps) := by
  induction steps generalizing s with
  | nil => exact .refl s
  | cons step later ih =>
    have hstep := goes_take hlimit (hown step List.mem_cons_self)
    have hlater := ih (hstep.limit.trans hlimit) fun step h => hown step (List.mem_cons_of_mem _ h)
    exact hstep.trans hlater

/-- What a session is started with. -/
theorem start_eq {keys : SessionKeys} {settings : SessionSettings} {carrier : Carrier} {sink : Sink}
    (hstart : start keys settings carrier sink = .ok s) :
    s =
      { settings
        carrier
        exchange := .empty settings.policy settings.pushSpan
        opener := (Opener.ofKey keys.receive).withLimit settings.frame.maxPayload
        buffer := []
        outlet := .ofSink (.ofKey keys.send) settings.frame.maxPayload sink
        country := none
        receiving := true
        closed := false
        now := ⟨0⟩ } := by
  rw [start] at hstart
  split at hstart
  · cases hstart
  · exact (Except.ok.inj hstart).symm

end Goes

/-- The first request of a session is the first of its exchange. -/
theorem exchange_first_request {keys : SessionKeys} {settings : SessionSettings} {carrier : Carrier}
    {sink : Sink} {s : Session} (hstart : start keys settings carrier sink = .ok s) (r : Request)
    (timeout : Timespan) :
    (s.take (.ask (.request r timeout))).exchange =
      ((Exchange.empty settings.policy settings.pushSpan).request ⟨0⟩ r timeout).1 := by
  change (s.exchange.request s.now r timeout).1 = _
  rw [start_eq hstart]

/-- Bytes that arrive are taken while the session receives. -/
theorem receive_bytes {s : Session} (hreceiving : s.receiving = true) {chunk : Bytes}
    (hchunk : chunk ≠ []) : s.receive (.bytes chunk) = s.takeBytes chunk := by
  cases chunk with
  | nil => exact absurd rfl hchunk
  | cons b later => rw [receive.eq_def, hreceiving, Bool.not_true, if_neg Bool.false_ne_true]

end Session

end MercuryLink
