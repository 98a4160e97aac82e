import MercuryLink.Proofs.Exchange.Assembling

/-!
# What a look at the clock ends

Two kinds of things expire. A request expires when the span it was given is over, counted from the
call that asked for it; no frame moves that. A push in part expires when no frame has joined it for
the span that an exchange waits, counted from the last that did. Both spans are set by other steps
than the one that looks at the clock, so both are followed through the runs: the requests that wait
are those that were asked and not answered yet, and the pushes that are held are those that have
joined. What a look at the clock finds and leaves is read off that.
-/

namespace MercuryLink

/-- A later moment is as much later as the span, and the clock can show it. -/
theorem Moment.plus?_eq_some_iff {m later : Moment} {t : Timespan} :
    m.plus? t = some later ↔ later.nanos = m.nanos + t.nanos ∧ later.nanos < Moment.limit := by
  rw [plus?]
  split
  · next hroom =>
    rw [Option.some.injEq]
    constructor
    · rintro rfl
      exact ⟨rfl, hroom⟩
    · rintro ⟨hnanos, -⟩
      rw [← hnanos]
  · next hroom =>
    refine ⟨fun hnone => absurd hnone.symm (Option.some_ne_none later), ?_⟩
    rintro ⟨hnanos, hlt⟩
    exact absurd (hnanos ▸ hlt) hroom

/-- A request as it was asked: the handle given out, the time of the call and the span allowed. -/
structure Asked where
  /-- The handle that the call gave out. -/
  handle : Handle
  /-- When the request was asked. -/
  start : Moment
  /-- How long its response may take. -/
  timeout : Timespan

/-- Whether the span that a request was given is over. -/
def Asked.isOver (now : Moment) (a : Asked) : Bool :=
  a.start.nanos + a.timeout.nanos ≤ now.nanos

/-- The answer to a request whose span is over. -/
def Asked.expiry (a : Asked) : Notice := .reply a.handle.slot (.error (.timeout a.timeout))

namespace Board

/-- The requests that wait on a board, as they were asked. -/
def waiting (b : Board) : List Asked :=
  b.pending.map fun entry =>
    ⟨⟨entry.1, entry.2.respond⟩, ⟨entry.2.deadline.nanos - entry.2.timeout.nanos⟩,
      entry.2.timeout⟩

/-- Settling requests leaves those that are not answered. -/
theorem Settles.waiting_eq {b : Board} {step : Board × List Notice} (h : Settles b step)
    (hslots : (b.outstanding.map Handle.slot).Nodup) :
    step.1.waiting = b.waiting.filter fun a => a.handle.slot ∉ answered step.2 := by
  obtain ⟨-, leaves, hkept, hanswered⟩ := h
  rw [slots_outstanding] at hslots
  rw [waiting, waiting, hkept, hanswered, List.filter_map]
  refine congrArg (List.map _) (List.filter_congr fun entry hentry => ?_)
  rw [Bool.eq_iff_iff, Bool.not_eq_true', Function.comp, decide_eq_true_iff]
  constructor
  · -- Nobody else holds the slot of an entry that stays.
    intro hstays hmem
    obtain ⟨other, hother, hslot⟩ := List.mem_map.1 hmem
    obtain ⟨hpending, hleaves⟩ := List.mem_filter.1 hother
    obtain rfl : other = entry := List.inj_on_of_nodup_map hslots hpending hentry hslot
    rw [hstays] at hleaves
    cases hleaves
  · intro hnot
    by_contra hleaves
    have hmem := List.mem_filter.2 ⟨hentry, Bool.of_not_eq_false hleaves⟩
    exact hnot (List.mem_map_of_mem (f := fun entry => entry.2.respond) hmem)

/-- An entry is due when the span of its request is over. -/
theorem isDue_eq (id : SequenceId) (entry : Pending) (now : Moment) :
    entry.isDue now =
      Asked.isOver now ⟨⟨id, entry.respond⟩, ⟨entry.deadline.nanos - entry.timeout.nanos⟩,
        entry.timeout⟩ := by
  rw [Pending.isDue, Asked.isOver, Int.sub_add_cancel]

/-- A look at the clock answers the requests whose span is over. -/
theorem notices_sweep (b : Board) (now : Moment) :
    (b.sweep now).2 = (b.waiting.filter (Asked.isOver now)).map Asked.expiry := by
  rw [sweep, waiting, List.filter_map, List.map_map]
  exact congrArg (List.map _) (List.filter_congr fun entry _ => isDue_eq entry.1 entry.2 now)

/-- A frame for a request that is not on the board is dropped. -/
theorem route_of_absent {b : Board} {id : SequenceId} (habsent : b.pending.get? id = none)
    (now : Moment) (span : Timespan) {f : Frame} {a : Except Packet.DecodeError Packet}
    (ha : f.arrival? id = some a) : b.route now span f = (b, []) := by
  rw [Frame.arrival?] at ha
  rw [route]
  split at ha
  · next hresponse =>
    cases hdecode : Packet.decode f.payload with
    | ok p =>
      rw [hdecode] at ha
      dsimp only at ha ⊢
      split at ha
      · next hid => rw [if_pos hresponse, takeResponse, hid, habsent]
      · cases ha
    | error e =>
      rw [hdecode] at ha
      dsimp only at ha ⊢
      split at ha
      · next hpeek =>
        rw [takeBroken, hpeek]
        dsimp only
        rw [if_pos hresponse, fail, habsent]
      · cases ha
  · cases ha

/-- Extending a request changes nothing about how it was asked. -/
theorem Extends.waiting_eq {b : Board} {step : Board × List Notice} (h : Extends b step) :
    step.1.waiting = b.waiting := by
  obtain ⟨-, ⟨id, parts, hpending⟩, -⟩ := h
  rw [waiting, waiting, hpending, Table.modify, List.map_map]
  refine List.map_congr_left fun entry _ => ?_
  rw [Function.comp]
  split
  · rfl
  · rfl

end Board

namespace Exchange

/-! ### The requests of a run -/

/-- When a call asks for a response, and how long that may take. -/
def Step.asks? : Step → Option (Moment × Timespan)
  | .request now _ timeout | .subscribe now _ timeout | .unsubscribe now _ timeout =>
    some (now, timeout)
  | _ => none

/-- The request that a step asks, if it is accepted. -/
def asks (x : Exchange) (step : Step) : List Asked :=
  match step.asks?, (x.take step).2 with
  | some (start, timeout), some (.ok h) => [⟨h, start, timeout⟩]
  | _, _ => []

/-- The requests that the calls of a run ask, in order. -/
def asked (x : Exchange) : List Step → List Asked
  | [] => []
  | step :: later => x.asks step ++ asked (x.take step).1 later

/-- A call that gives out a handle asks a request. -/
theorem exists_asked {x : Exchange} {step : Step} {h : Handle}
    (hcall : (x.take step).2 = some (.ok h)) :
    ∃ start timeout, step.asks? = some (start, timeout) ∧ x.asks step = [⟨h, start, timeout⟩] := by
  obtain ⟨⟨start, timeout⟩, hasks⟩ : ∃ spans, step.asks? = some spans := by
    cases step with
    | request now r timeout | subscribe now stem timeout | unsubscribe now stem timeout =>
      exact ⟨_, rfl⟩
    | _ => cases hcall
  exact ⟨start, timeout, hasks, by rw [asks, hasks, hcall]⟩

/-- Any other step asks none. -/
theorem asks_eq_nil {x : Exchange} {step : Step} (hcall : ∀ h, (x.take step).2 ≠ some (.ok h)) :
    x.asks step = [] := by
  rw [asks]
  split
  · next h _ hgiven => exact absurd hgiven (hcall h)
  · rfl

/-- Every handle given out is that of a request that was asked. -/
theorem handles_asks (x : Exchange) (step : Step) :
    (x.asks step).map Asked.handle = handles (x.take step).2 := by
  cases hcall : (x.take step).2 with
  | none =>
    rw [asks_eq_nil (by rw [hcall]; exact nofun)]
    rfl
  | some outcome =>
    cases outcome with
    | error e =>
      rw [asks_eq_nil (by rw [hcall]; exact nofun)]
      rfl
    | ok h =>
      obtain ⟨start, timeout, -, hasks⟩ := exists_asked hcall
      rw [hasks]
      rfl

theorem handles_asked (x : Exchange) (steps : List Step) :
    (x.asked steps).map Asked.handle = x.issued steps := by
  induction steps generalizing x with
  | nil => rfl
  | cons step later ih => rw [asked, List.map_append, handles_asks, ih, issued]

/-- A request that is accepted waits behind the others as it was asked. -/
theorem waiting_dispatch {x : Exchange} (hx : x.Ready) (now : Moment) (r : Request)
    (timeout : Timespan) (listener : Option Nat) {h : Handle}
    (hcall : (x.dispatch now r timeout listener).2 = .ok h) :
    (x.dispatch now r timeout listener).1.board.waiting = x.board.waiting ++ [⟨h, now, timeout⟩] := by
  revert hcall
  rw [dispatch]
  dsimp only
  rw [Board.register]
  cases x.board.closeReason with
  | some e =>
    intro hcall
    cases hcall
  | none =>
    dsimp only
    cases (r.toPacket (.ofNat x.board.nextSequence)).encode with
    | error e =>
      intro hcall
      cases hcall
    | ok payload =>
      dsimp only
      cases hdeadline : now.plus? timeout with
      | none =>
        intro hcall
        cases hcall
      | some deadline =>
        dsimp only
        split
        · intro hcall
          cases hcall
        · intro hcall
          cases hcall
          let entry : Pending := ⟨r.method, r.uri, deadline, timeout, [], x.slots, listener⟩
          have hpending : x.board.pending.insert (.ofNat x.board.nextSequence) entry =
              x.board.pending ++ [(.ofNat x.board.nextSequence, entry)] :=
            Table.insert_of_get?_eq_none entry hx.unused
          have hstart : deadline.nanos - timeout.nanos = now.nanos := by
            have hlater := (Moment.plus?_eq_some_iff.1 hdeadline).1
            omega
          dsimp only
          rw [Board.waiting, hpending, List.map_append, List.map_singleton, hstart]
          rfl

/-- A call that is accepted asks one request. -/
theorem waiting_call {x : Exchange} (hx : x.Ready) {step : Step} {start : Moment}
    {timeout : Timespan} (hasks : step.asks? = some (start, timeout)) {h : Handle}
    (hcall : (x.take step).2 = some (.ok h)) :
    (x.take step).1.board.waiting = x.board.waiting ++ [⟨h, start, timeout⟩] := by
  cases step with
  | request now r timeout =>
    cases hasks
    exact waiting_dispatch hx start r timeout none (Option.some.inj hcall)
  | subscribe now stem timeout =>
    cases hasks
    revert hcall
    rw [take, subscribe]
    dsimp only
    cases x.board.closeReason with
    | some e =>
      intro hcall
      cases hcall
    | none =>
      dsimp only
      let y : Exchange := { x with board := (x.board.addListener stem).1 }
      have hy : y.Ready := ⟨hx.distinct, hx.unused⟩
      have hwaiting := @waiting_dispatch y hy start (.plain .subscribe stem) timeout
        (some (x.board.addListener stem).2) h
      revert hwaiting
      generalize y.dispatch start (.plain .subscribe stem) timeout
        (some (x.board.addListener stem).2) = called
      intro hwaiting hcall
      obtain ⟨z, outcome⟩ := called
      cases outcome with
      | ok given =>
        cases hcall
        exact hwaiting rfl
      | error refusal => cases refusal <;> cases hcall
  | unsubscribe now stem timeout =>
    cases hasks
    revert hcall
    rw [take, unsubscribe]
    dsimp only
    cases x.board.closeReason with
    | some e =>
      intro hcall
      cases hcall
    | none =>
      intro hcall
      let y : Exchange := { x with board := x.board.removeStem stem }
      have hy : y.Ready := ⟨hx.distinct, hx.unused⟩
      exact waiting_dispatch hy start (.plain .unsubscribe stem) timeout none
        (Option.some.inj hcall)
  | _ => cases hasks

/-- What a step does to the requests that wait, by the requests that it asks. -/
inductive Renews (x y : Exchange) : List Asked → Prop where
  /-- Those that are answered wait no more. -/
  | answers {notices : List Notice} (log : y.log = x.log ++ notices)
    (waiting : y.board.waiting = x.board.waiting.filter fun a =>
      a.handle.slot ∉ answered notices) : Renews x y []
  /-- One more waits, for a reply into a slot of its own. -/
  | asks {a : Asked} (log : y.log = x.log) (slot : a.handle.slot = x.slots)
    (waiting : y.board.waiting = x.board.waiting ++ [a]) : Renews x y [a]

/-- Where nobody is answered, the same requests wait. -/
theorem Renews.of_silent {x y : Exchange} {notices : List Notice}
    (hlog : y.log = x.log ++ notices) (hsilent : answered notices = [])
    (hwaiting : y.board.waiting = x.board.waiting) : Renews x y [] := by
  refine .answers hlog ?_
  rw [hsilent, hwaiting]
  exact (List.filter_eq_self.2 fun a _ => decide_eq_true List.not_mem_nil).symm

theorem Settled.renews {x y : Exchange} (h : Settled x y)
    (hslots : (x.board.outstanding.map Handle.slot).Nodup) : Renews x y [] := by
  obtain ⟨-, notices, hlog, hsettles⟩ := h
  exact .answers hlog (hsettles.waiting_eq hslots)

theorem Extended.renews {x y : Exchange} (h : Extended x y) : Renews x y [] := by
  obtain ⟨-, notices, hlog, hextends⟩ := h
  exact .of_silent hlog hextends.silent hextends.waiting_eq

/-- Every step lets requests go that it answers, or asks another one. -/
theorem renews_take {x : Exchange} {known : List Handle} (hx : Accounted x known) (step : Step) :
    Renews x (x.take step).1 (x.asks step) := by
  have hslots : (x.board.outstanding.map Handle.slot).Nodup :=
    (List.nodup_append.1 hx.taken_nodup).2.1
  cases hroute : step.isRoute with
  | true =>
    cases step with
    | route now f =>
      rcases route_settled_or_extended hx.ready now f with h | h
      · exact h.renews hslots
      · exact h.renews
    | _ => cases hroute
  | false =>
    have heffect := take_effect hx.ready hroute
    cases hcall : (x.take step).2 with
    | none =>
      rw [hcall] at heffect
      rw [asks_eq_nil (by rw [hcall]; exact nofun)]
      cases heffect with
      | settles h => exact h.renews hslots
    | some outcome =>
      cases outcome with
      | error e =>
        rw [hcall] at heffect
        rw [asks_eq_nil (by rw [hcall]; exact nofun)]
        cases heffect with
        | refuses pending log counter slots =>
          refine .of_silent (log.trans (List.append_nil _).symm) rfl ?_
          rw [Board.waiting, pending, Board.waiting]
      | ok h =>
        obtain ⟨start, timeout, hspans, hasks⟩ := exists_asked hcall
        have hwaiting := waiting_call hx.ready hspans hcall
        rw [hcall] at heffect
        rw [hasks]
        cases heffect with
        | accepts pending respond parts log counter slots => exact .asks log rfl hwaiting

/-- The requests that wait are those that were asked and not answered yet, in order. -/
def Awaits (x : Exchange) (known : List Asked) : Prop :=
  x.board.waiting = known.filter fun a => (replies x.log a.handle.slot).isEmpty

/-- Every step keeps this, with the requests that it asks. -/
theorem Awaits.take {x : Exchange} {known : List Asked} (h : Awaits x known)
    (hx : Accounted x (known.map Asked.handle)) (step : Step) :
    Awaits (x.take step).1 (known ++ x.asks step) := by
  have hrenews := renews_take hx step
  revert hrenews
  generalize x.asks step = new
  intro hrenews
  rw [Awaits] at h ⊢
  cases hrenews with
  | @answers notices log waiting =>
    rw [waiting, h, log, List.append_nil, List.filter_filter]
    refine List.filter_congr fun a _ => ?_
    rw [Bool.eq_iff_iff, Bool.and_eq_true, List.isEmpty_iff, List.isEmpty_iff, decide_eq_true_iff,
      replies_append, List.append_eq_nil_iff, and_comm]
    exact and_congr_right fun _ => replies_eq_nil_iff.symm
  | @asks a log slot waiting =>
    -- Its slot is new, so it was not answered.
    have hnew : replies x.log a.handle.slot = [] := by
      rw [replies_eq_nil_iff, slot]
      intro hanswered
      exact Nat.lt_irrefl _ (hx.taken_lt _ (List.mem_append_left _ hanswered))
    rw [waiting, h, log, List.filter_append, List.filter_cons_of_pos (by rw [hnew]; rfl),
      List.filter_nil]

/-- The requests that wait after a run are those that it asked and that were not answered. -/
theorem Awaits.run {x : Exchange} {known : List Asked} (h : Awaits x known)
    (hx : Accounted x (known.map Asked.handle)) (steps : List Step) :
    Awaits (x.run steps) (known ++ x.asked steps) := by
  induction steps generalizing x known with
  | nil =>
    rw [asked, List.append_nil]
    exact h
  | cons step later ih =>
    have hx' := hx.move (take_move hx.ready step)
    rw [← handles_asks, ← List.map_append] at hx'
    rw [asked, ← List.append_assoc, run_cons]
    exact ih (h.take hx step) hx'

theorem awaits_run (policy : ShutdownPolicy) (span : Timespan) (steps : List Step) :
    Awaits ((empty policy span).run steps) ((empty policy span).asked steps) := by
  have hempty : Awaits (empty policy span) [] := rfl
  exact hempty.run (accounted_empty policy span) steps

/-! ### The look at the clock -/

/-- The requests that were not answered although their span is over. -/
def overdue (x : Exchange) (known : List Asked) (now : Moment) : List Asked :=
  known.filter fun a => (replies x.log a.handle.slot).isEmpty && a.isOver now

section Sweep

variable {x : Exchange} {known : List Asked}

/-- What is overdue are the requests on the board whose span is over. -/
theorem Awaits.overdue_eq (h : Awaits x known) (now : Moment) :
    x.overdue known now = x.board.waiting.filter (Asked.isOver now) := by
  rw [h, overdue, List.filter_filter]
  exact List.filter_congr fun a _ => Bool.and_comm _ _

/-- A request on the board is one that was asked, and expires when its span is over. -/
theorem Awaits.deadline (h : Awaits x known) {id : SequenceId} {entry : Pending}
    (hentry : x.board.pending.get? id = some entry) :
    ∃ a ∈ known, a.handle = ⟨id, entry.respond⟩ ∧ entry.timeout = a.timeout ∧
      entry.deadline.nanos = a.start.nanos + a.timeout.nanos := by
  have hwaits := List.mem_map_of_mem
    (f := fun entry : SequenceId × Pending => (⟨⟨entry.1, entry.2.respond⟩,
      ⟨entry.2.deadline.nanos - entry.2.timeout.nanos⟩, entry.2.timeout⟩ : Asked))
    (Table.mem_of_get? hentry)
  rw [← Board.waiting, h] at hwaits
  exact ⟨_, (List.mem_filter.1 hwaits).1, rfl, rfl, (Int.sub_add_cancel _ _).symm⟩

/-- A look at the clock takes the overdue requests off the board and leaves the others. -/
theorem Awaits.get?_sweep (h : Awaits x known) (hx : x.board.pending.Distinct) (now : Moment)
    (id : SequenceId) :
    (x.sweep now).1.board.pending.get? id =
      if (x.overdue known now).any (·.handle.sequence = id) then none
      else x.board.pending.get? id := by
  change Table.get? (x.board.pending.filter fun entry => !entry.2.isDue now) id = _
  rw [hx.get?_filter (fun entry => !entry.isDue now), h.overdue_eq]
  have hany : (x.board.waiting.filter (Asked.isOver now)).any (·.handle.sequence = id) =
      (x.board.pending.get? id).any (·.isDue now) := by
    rw [Bool.eq_iff_iff, List.any_eq_true, Option.any_eq_true]
    constructor
    · rintro ⟨a, ha, hid⟩
      obtain ⟨hwaits, hover⟩ := List.mem_filter.1 ha
      obtain ⟨entry, hentry, rfl⟩ := List.mem_map.1 hwaits
      obtain rfl : entry.1 = id := of_decide_eq_true hid
      exact ⟨entry.2, hx.get?_eq_some_iff.2 hentry, (Board.isDue_eq _ _ _).trans hover⟩
    · rintro ⟨entry, hentry, hdue⟩
      refine ⟨_, List.mem_filter.2 ⟨List.mem_map.2 ⟨_, Table.mem_of_get? hentry, rfl⟩, ?_⟩,
        decide_eq_true rfl⟩
      exact (Board.isDue_eq _ _ _).symm.trans hdue
  rw [hany]
  cases x.board.pending.get? id with
  | none => rfl
  | some entry =>
    rw [Option.any_some, Option.filter_some]
    cases entry.isDue now with
    | true => rfl
    | false => rfl

/-- A push in part is held exactly as long as the span since the last frame that joined it lasts. -/
theorem Holds.get?_sweep {span : Timespan} {steps : List Step} (h : Holds span steps x)
    (now : Moment) {id : SequenceId} {push : PartialPush}
    (hpush : x.board.pushes.get? id = some push) :
    ∃ before arrived f p after, steps = before ++ .route arrived f :: after ∧
      f.push? = some (.intact p) ∧ p.sequence = id ∧ p.isFinal = false ∧
      (∀ step ∈ after, step.joins? span id = none) ∧
      (x.sweep now).1.board.pushes.get? id =
        if now.nanos < arrived.nanos + span.nanos then some push else none := by
  have hjoined : joined? (joinedSince span id steps) = some push := (h.pushes id).symm.trans hpush
  obtain ⟨before, last, after, frame, hsteps, hjoins, hdeadline, hafter⟩ :=
    exists_last_of_joined? hjoined
  obtain ⟨arrived, f, p, rfl, hf, hid, hfinal, -, hplus⟩ := Step.exists_of_joins? hjoins
  refine ⟨before, arrived, f, p, after, hsteps, hf, hid, hfinal, hafter, ?_⟩
  have hlater := (Moment.plus?_eq_some_iff.1 hplus).1
  change Table.get? (x.board.pushes.filter fun entry => entry.2.isFresh now) id = _
  rw [h.distinct.get?_filter (·.isFresh now), hpush, Option.filter_some, PartialPush.isFresh,
    ← hdeadline, hlater]
  simp only [decide_eq_true_eq]

end Sweep

/-- **A look at the clock ends what is over, and nothing else.** After any steps, with whatever
readings of the clock, it answers exactly the requests that were not answered yet and whose span,
counted from the call that asked for them, is over; each with the span it was given; and it tells
how many there are. What waits is to expire when its span is over, whatever frames came for it. A
push in part stays exactly if the span counted from the last frame that joined it goes on. The other
requests stay as they are, with their parts, and so does everything else. Every later frame for a
request that was answered so is dropped, and changes nothing at all. -/
theorem sweep_ends_what_is_over (policy : ShutdownPolicy) (span : Timespan) (steps : List Step)
    (now : Moment) :
    let x := (empty policy span).run steps
    let known := (empty policy span).asked steps
    let due := x.overdue known now
    let y := (x.sweep now).1
    known.map Asked.handle = (empty policy span).issued steps ∧
    y.log = x.log ++ due.map Asked.expiry ∧ (x.sweep now).2 = due.length ∧
    (∀ id entry, x.board.pending.get? id = some entry →
      ∃ a ∈ known, a.handle = ⟨id, entry.respond⟩ ∧ entry.timeout = a.timeout ∧
        entry.deadline.nanos = a.start.nanos + a.timeout.nanos) ∧
    (∀ id, x.board.pushes.get? id = none → y.board.pushes.get? id = none) ∧
    (∀ id push, x.board.pushes.get? id = some push →
      ∃ before arrived f p after, steps = before ++ .route arrived f :: after ∧
        f.push? = some (.intact p) ∧ p.sequence = id ∧ p.isFinal = false ∧
        (∀ step ∈ after, step.joins? span id = none) ∧
        y.board.pushes.get? id =
          if now.nanos < arrived.nanos + span.nanos then some push else none) ∧
    (∀ id, y.board.pending.get? id =
      if due.any (·.handle.sequence = id) then none else x.board.pending.get? id) ∧
    (∃ pending pushes log, y = { x with board := { x.board with pending, pushes }, log }) ∧
    ∀ a ∈ due, ∀ later moment f arrival, f.arrival? a.handle.sequence = some arrival →
      (y.run later).route moment f = y.run later := by
  intro x known due y
  have hx : Accounted x ((empty policy span).issued steps) := accounted_run policy span steps
  have hwaits : Awaits x known := awaits_run policy span steps
  have hnotices : (x.board.sweep now).2 = due.map Asked.expiry := by
    rw [Board.notices_sweep, ← hwaits.overdue_eq]
  have hpending := hwaits.get?_sweep hx.distinct now
  obtain ⟨since, ⟨earlier, hsince⟩, hholds, -⟩ := holds_run_empty policy span steps
  refine ⟨handles_asked _ steps, ?_, ?_, fun id entry => hwaits.deadline, ?_, ?_, hpending,
    ⟨_, _, _, rfl⟩, ?_⟩
  · exact congrArg (x.log ++ ·) hnotices
  · exact (congrArg List.length hnotices).trans (List.length_map _)
  · intro id hnone
    change Table.get? (x.board.pushes.filter fun entry => entry.2.isFresh now) id = none
    rw [hholds.distinct.get?_filter (·.isFresh now), hnone, Option.filter_none]
  · intro id push hpush
    obtain ⟨before, arrived, f, p, after, hsteps, hlast⟩ := hholds.get?_sweep now hpush
    exact ⟨earlier ++ before, arrived, f, p, after,
      by rw [← hsince, hsteps, List.append_assoc], hlast⟩
  · intro a ha later moment f arrival harrival
    have hy : Accounted y ((empty policy span).issued steps ++ []) :=
      hx.move (take_move hx.ready (.sweep now))
    have hasked : a.handle ∈ (empty policy span).issued steps := by
      rw [← handles_asked]
      exact List.mem_map_of_mem (List.mem_filter.1 ha).1
    have hused : y.board.Used a.handle.sequence :=
      (hx.known_used _ hasked).mono (take_move hx.ready (.sweep now)).counter_le
    have hgone : y.board.pending.get? a.handle.sequence = none := by
      rw [hpending, if_pos (List.any_eq_true.2 ⟨a, ha, decide_eq_true rfl⟩)]
    have habsent := hy.absent_run hused (Board.get?_eq_none_iff_outstanding.1 hgone) later
    have hroute := Board.route_of_absent (Board.get?_eq_none_iff_outstanding.2 habsent) moment
      (y.run later).pushSpan harrival
    rw [Exchange.route, hroute, onBoard, List.append_nil]

/-- What is over at the very moment of the look is over, be it a request or a push in part. -/
example :
    let x := (empty .drain (.ofSeconds 5)).run
      [.request ⟨0⟩ (.plain .get "a") (.ofSeconds 5),
        .route ⟨0⟩ ⟨Command.mercuryEvent, [0, 1, 9, 0, 0, 1, 0, 1, 5]⟩]
    ((x.sweep (.ofMillis 4999)).2, (x.sweep (.ofMillis 4999)).1.board.pushes.length) = (0, 1) ∧
      ((x.sweep (.ofMillis 5000)).2, (x.sweep (.ofMillis 5000)).1.board.pushes) = (1, []) := by
  decide +kernel

end Exchange

end MercuryLink
