import MercuryLink.Proofs.Exchange.Acknowledging
import MercuryLink.Proofs.Session.Ending

/-!
# Subscriptions, whole or not at all

A subscription lists its stem before its request is sent, so every way to fail has to take the entry
back. There are two: the call is refused at once, or it is finished with a failure. After either its
listener has no entry, and `Lacks` says that it gets none any more. The other half is about the time
in between: `Retains` says that what arrives takes away no entry that somebody reads from, so that an
entry is only missing for a reason.
-/

namespace MercuryLink

namespace Board

open Exchange (messages)

/-! ### The end of a board -/

/-- A board that is closed has nothing on it. -/
def Final (b : Board) : Prop := ∀ e, b.closeReason = some e → b.Shut e

theorem final_empty : empty.Final := nofun

/-- Uses leave nothing on a board once it is closed. -/
theorem Final.turns {b : Board} (hb : b.Final) (ts : List Turn) : (b.turns ts).1.Final := by
  induction ts generalizing b with
  | nil => exact hb
  | cons t later ih =>
    refine ih ?_
    cases hreason : b.closeReason with
    | some why =>
      obtain ⟨hshut, -⟩ := (hb why hreason).turn t
      intro e he
      have hwhy : why = e := Option.some.inj (hshut.reason.symm.trans he)
      exact hwhy ▸ hshut
    | none =>
      cases hcloses : t.reason? with
      | none =>
        have hkept := b.closeReason_turn hcloses
        intro e he
        rw [hkept, hreason] at he
        cases he
      | some why =>
        cases t with
        | close other =>
          intro e he
          have hshut := b.shut_close other
          have hwhy : b.closeReason.getD other = e := Option.some.inj (hshut.reason.symm.trans he)
          exact hwhy ▸ hshut
        | _ => cases hcloses

/-- Numbers of listeners only grow. -/
theorem nextListener_turns (b : Board) (ts : List Turn) :
    b.nextListener ≤ (b.turns ts).1.nextListener := by
  induction ts generalizing b with
  | nil => exact Nat.le_refl _
  | cons t later ih =>
    have hstep : b.nextListener ≤ (b.turn t).1.nextListener := by
      cases relists_turn b t with
      | leaves entries counter | delivers entries counter => exact Nat.le_of_eq counter.symm
      | acknowledges known entries ids distinct counter => exact Nat.le_of_eq counter.symm
      | listens entries counter => exact counter ▸ Nat.le_succ _
    exact Nat.le_trans hstep (ih _)

/-! ### What keeps the entries -/

/-- A board goes on without a listener being given up, and with all entries that somebody reads
from. -/
structure Retains (b c : Board) : Prop where
  gone : c.gone = b.gone
  entries : ∀ l ∈ b.listeners, l.id ∉ b.gone → l ∈ c.listeners

theorem Retains.refl (b : Board) : Retains b b := ⟨rfl, fun _ hl _ => hl⟩

theorem Retains.trans {b c d : Board} (h : Retains b c) (h' : Retains c d) : Retains b d := by
  refine ⟨h'.gone.trans h.gone, ?_⟩
  intro l hl hlive
  exact h'.entries l (h.entries l hl hlive) (h.gone ▸ hlive)

theorem Retains.of_eq {b c : Board} (hgone : c.gone = b.gone)
    (hentries : c.listeners = b.listeners) : Retains b c :=
  ⟨hgone, fun _ hl _ => hentries ▸ hl⟩

/-- A delivery removes only entries that nobody reads from. -/
theorem retains_deliver (b : Board) (m : Message) : Retains b (b.deliver m).1 := by
  refine ⟨rfl, ?_⟩
  intro l hl hgone
  have hlive : b.isLive l = true := by simpa [isLive] using hgone
  change l ∈ (receivers b.isLive m.uri b.listeners).1
  rw [receivers_eq]
  cases hlongest : longestStem? (b.listeners.filter b.isLive) m.uri with
  | none =>
    have huncovered := longestStem?_eq_none_iff.1 hlongest l (List.mem_filter.2 ⟨hl, hlive⟩)
    exact List.mem_filter.2 ⟨hl, by rw [huncovered]; rfl⟩
  | some length => exact List.mem_filter.2 ⟨hl, by simp [blocks, hlive]⟩

/-- A failure of one request keeps the entries. -/
theorem retains_fail (b : Board) (id : SequenceId) (e : LinkError) :
    Retains b (b.fail id e).1 := by
  obtain ⟨pending, hboard⟩ := b.exists_failed id e
  rw [hboard]
  exact .of_eq rfl rfl

/-- A complete response adds entries at most. -/
theorem retains_complete (b : Board) (id : SequenceId) (entry : Pending) (parts : List Bytes) :
    Retains b (b.complete id entry parts).1 := by
  obtain ⟨⟨listeners, hboard⟩, -⟩ := b.exists_completed id entry parts
  obtain ⟨added, hadded, -⟩ := b.exists_added id entry parts
  refine ⟨by rw [hboard]; rfl, ?_⟩
  intro l hl _
  rw [hadded]
  exact List.mem_append_left added hl

/-- No frame takes an entry away that somebody reads from. -/
theorem retains_route (b : Board) (now : Moment) (span : Timespan) (f : Frame) :
    Retains b (b.route now span f).1 := by
  rw [route]
  split
  · rw [takeBroken]
    split
    · exact .refl b
    · next sequence _ =>
      split
      · exact b.retains_fail sequence _
      · split
        · exact .of_eq rfl rfl
        · exact .refl b
  · next p _ =>
    split
    · rw [takeResponse]
      split
      · exact .refl b
      · next entry _ =>
        dsimp only
        split
        · exact b.retains_complete p.sequence entry _
        · exact .of_eq rfl rfl
    · split
      · rw [takePush]
        dsimp only
        split
        · split
          · exact .of_eq rfl rfl
          · next m _ =>
            have hforgets : Retains b { b with pushes := b.pushes.erase p.sequence } :=
              .of_eq rfl rfl
            exact hforgets.trans (retains_deliver _ m)
        · split
          · exact .refl b
          · exact .of_eq rfl rfl
      · exact .refl b

/-! ### What a failure does to the entries -/

/-- A response that is not accepted keeps the entries: what is no success registers nothing. -/
theorem listeners_complete_of_refused {b : Board} {id : SequenceId} {entry : Pending}
    {parts : List Bytes} {e : LinkError}
    (h : ((Message.ofParts id parts).mapError LinkError.ofMessage).bind Message.accepted =
      .error e) :
    (b.complete id entry parts).1.listeners = b.listeners := by
  refine listeners_complete_of_other ?_
  intro i m _ hm hsuccess
  have haccepted : ((Message.ofParts id parts).mapError LinkError.ofMessage).bind Message.accepted =
      .ok m := by
    rw [hm]
    change m.accepted = .ok m
    rw [Message.accepted, hsuccess]
    rfl
  rw [haccepted] at h
  cases h

/-- A push frame sends no reply. -/
theorem not_mem_takePush (b : Board) (now : Moment) (span : Timespan) (p : Packet) (slot : Slot)
    (r : Reply) : Notice.reply slot r ∉ (b.takePush now span p).2 := by
  rw [takePush]
  dsimp only
  split
  · split
    · exact List.not_mem_nil
    · intro hmem
      obtain ⟨l, -, hl⟩ := List.mem_map.1 hmem
      cases hl
  · split
    · exact List.not_mem_nil
    · exact List.not_mem_nil

/-- A frame that brings a reply which means a failure leaves every entry as it is. -/
theorem listeners_route_of_refused {b : Board} {now : Moment} {span : Timespan} {f : Frame}
    {slot : Slot} {r : Reply} {e : LinkError}
    (hmem : Notice.reply slot r ∈ (b.route now span f).2)
    (hrefused : r.bind Message.accepted = .error e) :
    (b.route now span f).1.listeners = b.listeners := by
  rw [route] at hmem ⊢
  cases hdecode : Packet.decode f.payload with
  | error why =>
    rw [hdecode] at hmem
    dsimp only at hmem ⊢
    rw [takeBroken]
    split
    · rfl
    · next sequence _ =>
      split
      · obtain ⟨pending, hboard⟩ := b.exists_failed sequence (.ofPacket why)
        rw [hboard]
      · split
        · rfl
        · rfl
  | ok p =>
    rw [hdecode] at hmem
    dsimp only at hmem ⊢
    by_cases hresponse : f.command.isResponse = true
    · rw [if_pos hresponse] at hmem ⊢
      rw [takeResponse] at hmem ⊢
      cases hentry : b.pending.get? p.sequence with
      | none => rfl
      | some entry =>
        rw [hentry] at hmem
        dsimp only at hmem ⊢
        by_cases hfinal : p.isFinal = true
        · rw [if_pos hfinal] at hmem ⊢
          rw [(complete_eq b p.sequence entry _).2.2, List.mem_singleton] at hmem
          injection hmem with _ hreply
          exact listeners_complete_of_refused (hreply ▸ hrefused)
        · rw [if_neg hfinal]
    · rw [if_neg hresponse] at hmem ⊢
      split at hmem
      · exact absurd hmem (b.not_mem_takePush now span p slot r)
      · cases hmem

/-- A use that sends a reply which means a failure leaves every entry as it is, unless it closes the
board. -/
theorem listeners_of_refused {b : Board} {t : Turn} {slot : Slot} {r : Reply} {e : LinkError}
    (hmem : Notice.reply slot r ∈ (b.turn t).2) (hrefused : r.bind Message.accepted = .error e)
    (hcloses : t.reason? = none) : (b.turn t).1.listeners = b.listeners := by
  cases t with
  | listen stem | unlisten stem =>
    simp only [turn] at hmem
    split at hmem
    · cases hmem
    · cases hmem
  | removeListener id | dropStream id | withdraw sequence | register => cases hmem
  | fail sequence why =>
    obtain ⟨pending, hboard⟩ := b.exists_failed sequence why
    rw [turn, hboard]
  | route now span f => exact listeners_route_of_refused hmem hrefused
  | sweep now => rfl
  | close why => cases hcloses

end Board

namespace Exchange

/-- Sending a request changes the requests of the board and their count at most. -/
theorem exists_dispatched (x : Exchange) (now : Moment) (r : Request) (timeout : Timespan)
    (listener : Option Nat) :
    ∃ nextSequence pending, (x.dispatch now r timeout listener).1.board =
      { x.board with nextSequence, pending } := by
  obtain ⟨nextSequence, pending, hboard⟩ :=
    x.board.exists_registered now r timeout x.slots listener
  rw [dispatch]
  dsimp only
  split
  · exact ⟨nextSequence, pending, hboard⟩
  · next sequence frame _ =>
    split
    · refine ⟨nextSequence, pending.erase sequence, ?_⟩
      dsimp only
      rw [hboard]
      rfl
    · exact ⟨nextSequence, pending, hboard⟩

/-- A subscription is refused by a closed exchange, which stays as it is. By an open one it is sent,
with its entry behind the others, or it fails, and its entry is taken back; beyond the clock it
breaks off with its entry. -/
theorem subscribe_cases {x : Exchange} (hx : x.board.Tidy) (now : Moment) (stem : String)
    (timeout : Timespan) :
    let y := (x.subscribe now stem timeout).1
    let added : List Listener := x.board.listeners ++ [⟨x.board.nextListener, stem⟩]
    match (x.subscribe now stem timeout).2 with
    | .ok (i, _) => i = x.board.nextListener ∧ y.board.listeners = added
    | .error (.failed _) => y.board.listeners = x.board.listeners ∧
        (y.board.Lacks x.board.nextListener ∨ y = x ∧ x.board.closeReason ≠ none)
    | .error .beyondClock => y.board.listeners = added := by
  rw [subscribe]
  cases hopen : x.board.closeReason with
  | some e => exact ⟨rfl, Or.inr ⟨rfl, Option.some_ne_none e⟩⟩
  | none =>
    dsimp only
    let w : Exchange := { x with board := (x.board.addListener stem).1 }
    have hsent := exists_dispatched w now (.plain .subscribe stem) timeout
      (some (x.board.addListener stem).2)
    have hremoved : w.board.listeners.filter (fun l => l.id ≠ x.board.nextListener) =
        x.board.listeners := by
      have hkept : x.board.listeners.filter (fun l => l.id ≠ x.board.nextListener) =
          x.board.listeners := by
        rw [List.filter_eq_self]
        intro l hl
        simpa using Nat.ne_of_lt (hx.made l hl)
      change (x.board.listeners ++ [_]).filter _ = _
      rw [List.filter_append, hkept]
      simp
    revert hsent
    generalize w.dispatch now (.plain .subscribe stem) timeout
      (some (x.board.addListener stem).2) = sent
    rintro ⟨nextSequence, pending, hboard⟩
    obtain ⟨z, outcome⟩ := sent
    dsimp only at hboard
    cases outcome with
    | ok handle => exact ⟨rfl, congrArg Board.listeners hboard⟩
    | error refusal =>
      cases refusal with
      | beyondClock => exact congrArg Board.listeners hboard
      | failed e =>
        have htaken : (z.removeListener x.board.nextListener).board.listeners =
            x.board.listeners := by
          rw [← hremoved]
          change z.board.listeners.filter _ = _
          rw [hboard]
        refine ⟨htaken, Or.inl ⟨?_, ?_⟩⟩
        · change _ < z.board.nextListener
          rw [hboard]
          exact Nat.lt_succ_self _
        · intro l hl
          exact Nat.ne_of_lt (hx.made l (htaken ▸ hl))

end Exchange

namespace Session

/-- Who listens where. -/
def listeners (s : Session) : List Listener := s.exchange.board.listeners

/-! ### What every state of a session keeps -/

/-- A session reads within a limit, its entries are tidy, and nothing is left once it is closed. -/
structure Sound (limit : Nat) (s : Session) : Prop where
  limit : s.opener.limit = limit
  tidy : s.exchange.board.Tidy
  final : s.exchange.board.Final

theorem sound_start {keys : SessionKeys} {settings : SessionSettings} {carrier : Carrier}
    {sink : Sink} {s : Session} (hstart : start keys settings carrier sink = .ok s) :
    s.Sound settings.frame.payloadLimit := by
  rw [start_eq hstart]
  exact ⟨rfl, Board.tidy_empty, Board.final_empty⟩

section Sound

variable {limit : Nat} {s s' : Session}

theorem Sound.goes (hs : s.Sound limit) (h : Goes limit s s') : s'.Sound limit := by
  obtain ⟨uses, -, hboard, -⟩ := h.exchange
  refine ⟨h.limit.trans hs.limit, ?_, ?_⟩
  · rw [hboard]
    exact hs.tidy.turns uses
  · rw [hboard]
    exact hs.final.turns uses

theorem Sound.take (hs : s.Sound limit) {step : Step} (hown : step.Own limit) :
    (s.take step).Sound limit :=
  hs.goes (goes_take hs.limit hown)

theorem Sound.run (hs : s.Sound limit) {steps : List Step} (hown : ∀ step ∈ steps, step.Own limit) :
    (s.run steps).Sound limit :=
  hs.goes (goes_run hs.limit hown)

/-- A listener without entries gets none in any run. -/
theorem Sound.lacks_run (hs : s.Sound limit) {id : Nat} (hlacks : s.exchange.board.Lacks id)
    {steps : List Step} (hown : ∀ step ∈ steps, step.Own limit) :
    ∀ l ∈ (s.run steps).listeners, l.id ≠ id := by
  obtain ⟨uses, -, hboard, -⟩ := (goes_run hs.limit hown).exchange
  rw [listeners, hboard]
  exact (hlacks.turns uses).1.gone

/-- A closed session lists nobody in any run. -/
theorem Sound.closed_run (hs : s.Sound limit) {e : LinkError}
    (hclosed : s.exchange.board.closeReason = some e) {steps : List Step}
    (hown : ∀ step ∈ steps, step.Own limit) : (s.run steps).listeners = [] := by
  obtain ⟨uses, -, hboard, -⟩ := (goes_run hs.limit hown).exchange
  rw [listeners, hboard]
  exact ((hs.final e hclosed).turns uses).1.listeners

end Sound

/-! ### What a step does to the entries -/

/-- A step removes an entry by name: its listener is unsubscribed by one of its stems, or its own
subscription is finished with a failure, or a message arrives and nobody reads from it. -/
def Step.Removes (s : Session) (l : Listener) : Step → Prop
  | .ask (.unsubscribe stem) => ⟨l.id, stem⟩ ∈ s.listeners
  | .finish (.subscribe listener stem h) => listener = l.id ∧
      ∃ e, (s.finish (.subscribe listener stem h)).2 = some (.error e)
  | .handle _ | .receive _ => l.id ∈ s.exchange.board.gone
  | _ => False

/-- Finishing a subscription leaves the board alone, unless it has failed: then its listener is
removed. -/
theorem finish_subscribe_cases (s : Session) (listener : Nat) (stem : String) (h : Handle) :
    let done := s.finish (.subscribe listener stem h)
    match done.2 with
    | none => done.1.exchange.board = s.exchange.board
    | some (.ok a) => a = .stream listener stem ∧ done.1.exchange.board = s.exchange.board
    | some (.error _) => done.1.exchange.board = s.exchange.board.removeListener listener := by
  obtain ⟨collected, hcollect⟩ := s.exchange.exists_collected h
  have hboard : (s.exchange.collect h).1.board = s.exchange.board := by rw [hcollect]
  rw [finish]
  simp only [Call.handle]
  revert hboard
  generalize s.exchange.collect h = found
  obtain ⟨x, reply⟩ := found
  intro hboard
  cases reply with
  | none => exact hboard
  | some reply =>
    simp only [conclude]
    cases reply.bind Message.accepted with
    | ok m => exact ⟨rfl, hboard⟩
    | error e => exact congrArg (Board.removeListener · listener) hboard

/-- Finishing any other call leaves the board alone. -/
theorem board_finish {s : Session} {c : Call}
    (hc : ∀ listener stem h, c ≠ .subscribe listener stem h) :
    (s.finish c).1.exchange.board = s.exchange.board := by
  obtain ⟨collected, hcollect⟩ := s.exchange.exists_collected c.handle
  have hboard : (s.exchange.collect c.handle).1.board = s.exchange.board := by rw [hcollect]
  rcases s.finish_cases c with h | ⟨listener, stem, h, rfl, -⟩
  · rw [h]
    exact hboard
  · exact absurd rfl (hc listener stem h)

/-- A frame that is taken retains the entries that somebody reads from. -/
theorem retains_handle (s : Session) (f : Frame) :
    s.exchange.board.Retains (s.handle f).exchange.board := by
  rw [handle]
  split
  · refine .of_eq ?_ ?_
    · rcases s.exchange.sendFrame_cases ⟨Command.pong, f.payload⟩ with h | ⟨_, _, -, h⟩
      · exact congrArg (·.board.gone) h
      · exact congrArg (·.board.gone) h
    · rcases s.exchange.sendFrame_cases ⟨Command.pong, f.payload⟩ with h | ⟨_, _, -, h⟩
      · exact congrArg (·.board.listeners) h
      · exact congrArg (·.board.listeners) h
  · split
    · exact .refl _
    · split
      · exact s.exchange.board.retains_route s.now s.exchange.pushSpan f
      · exact .refl _

theorem retains_handleAll (s : Session) (frames : List Frame) :
    s.exchange.board.Retains (frames.foldl handle s).exchange.board := by
  induction frames generalizing s with
  | nil => exact .refl _
  | cons f later ih => exact (s.retains_handle f).trans (ih (s.handle f))

/-- A failure to read closes a session. -/
theorem isOpen_fail (s : Session) (e : FrameError) : (s.fail e).isOpen = false := rfl

/-- What arrives retains the entries that somebody reads from, or closes the session. -/
theorem retains_receive (s : Session) (a : Arrival) :
    s.exchange.board.Retains (s.receive a).exchange.board ∨ (s.receive a).isOpen = false := by
  rcases s.receive_cases a with h | h | ⟨e, -, h⟩ | ⟨chunk, h⟩
  · rw [h]
    exact Or.inl (.refl _)
  · rw [h]
    exact Or.inl (.refl _)
  · rw [h]
    exact Or.inr (s.isOpen_fail e)
  · rw [h, takeBytes]
    generalize s.opener.drain (s.buffer ++ chunk) = drained
    split
    · exact Or.inl (retains_handleAll
        { s with opener := drained.opener, buffer := drained.rest } drained.frames)
    · exact Or.inr (isOpen_fail _ _)

/-- The outcome of a write keeps the entries, or closes the board. -/
theorem listeners_written (x : Exchange) (o : Outgoing) (result : Except FrameError Unit) :
    (x.written o result).board.listeners = x.board.listeners ∨
      (x.written o result).isClosed = true := by
  cases result with
  | ok _ => exact Or.inl rfl
  | error e =>
    simp only [Exchange.written]
    split
    · exact Or.inr rfl
    · split
      · next sequence _ =>
        obtain ⟨pending, hboard⟩ := x.board.exists_failed sequence (.ofFrame e)
        have hkept : (x.board.fail sequence (.ofFrame e)).1.listeners = x.board.listeners := by
          rw [hboard]
        exact Or.inl hkept
      · exact Or.inl rfl

/-- So does a step of the worker. -/
theorem listeners_work (s : Session) : s.work.listeners = s.listeners ∨ s.work.isOpen = false := by
  have hwork : s.work.exchange = (s.exchange.work Outlet.send s.outlet).1 := rfl
  rw [isOpen, listeners, listeners, hwork, Exchange.work, Bool.not_eq_false']
  split
  · exact Or.inl rfl
  · exact Or.inl rfl
  · next o outbound _ =>
    exact listeners_written { s.exchange with outbound } o (s.outlet.send o.frame).2

/-- An end of the link while the worker is writing closes the session. -/
theorem isOpen_cut (s : Session) (calls : Nat) (e : FrameError) : (s.cut calls e).isOpen = false := by
  rw [cut]
  split
  · next o outbound _ =>
    rw [isOpen, Bool.not_eq_false']
    exact (Exchange.queues_written _ o _).closed rfl
  · exact isOpen_fail _ e

/-- Closing a session closes it, unless that was done already. -/
theorem isOpen_close (s : Session) : s.close = s ∨ s.close.isOpen = false := by
  rw [close]
  split
  · exact Or.inl rfl
  · exact Or.inr rfl

/-- A step that takes an entry away closes the session or removes it by name. -/
theorem entry_take {limit : Nat} {s : Session} (hs : s.Sound limit) {step : Step} {l : Listener}
    (hl : l ∈ s.listeners) (hlost : l ∉ (s.take step).listeners) :
    (s.take step).isOpen = false ∨ step.Removes s l := by
  have hsame : ∀ {t : Session}, t.listeners = s.listeners → l ∈ t.listeners := fun h => h ▸ hl
  have hretains : ∀ {t : Session}, s.exchange.board.Retains t.exchange.board →
      l ∉ t.listeners → l.id ∈ s.exchange.board.gone := by
    intro t h hlost
    by_contra hlive
    exact hlost (h.entries l hl hlive)
  cases step with
  | ask a =>
    cases a with
    | request r timeout =>
      have hkept : (s.take (.ask (.request r timeout))).listeners = s.listeners :=
        s.exchange.listeners_dispatch s.now r timeout none
      exact absurd (hsame hkept) hlost
    | subscribe stem =>
      refine absurd ?_ hlost
      have hcases := Exchange.subscribe_cases hs.tidy s.now stem s.settings.subscribeSpan
      dsimp only at hcases
      change l ∈ (s.exchange.subscribe s.now stem s.settings.subscribeSpan).1.board.listeners
      split at hcases
      · rw [hcases.2]
        exact List.mem_append_left _ hl
      · rw [hcases.1]
        exact hl
      · rw [hcases]
        exact List.mem_append_left _ hl
    | unsubscribe stem =>
      refine Or.inr ?_
      cases hopen : s.exchange.board.closeReason with
      | some e =>
        refine absurd (hsame ?_) hlost
        change (s.exchange.unsubscribe s.now stem s.settings.subscribeSpan).1.board.listeners = _
        rw [Exchange.unsubscribe, hopen]
        rfl
      | none =>
        have hleft := Exchange.listeners_unsubscribe hopen s.now stem s.settings.subscribeSpan
        rw [Board.listeners_unlisten hopen] at hleft
        change l ∉ (s.exchange.unsubscribe s.now stem s.settings.subscribeSpan).1.board.listeners
          at hlost
        rw [hleft, List.mem_filter, not_and] at hlost
        obtain ⟨m, hm, hid, hstem⟩ : ∃ m ∈ s.exchange.board.listeners, m.id = l.id ∧
            m.stem = stem := by simpa using hlost hl
        change ⟨l.id, stem⟩ ∈ s.listeners
        rw [← hid, ← hstem]
        exact hm
  | enqueue o =>
    refine absurd (hsame ?_) hlost
    rw [take]
    split
    · rfl
    · rfl
  | finish c =>
    by_cases hc : ∃ listener stem h, c = .subscribe listener stem h
    · obtain ⟨listener, stem, h, rfl⟩ := hc
      have hcases := s.finish_subscribe_cases listener stem h
      dsimp only at hcases
      split at hcases
      · exact absurd (hsame (congrArg Board.listeners hcases)) hlost
      · exact absurd (hsame (congrArg Board.listeners hcases.2)) hlost
      · next e herror =>
        have hremoved : (s.take (.finish (.subscribe listener stem h))).listeners =
            s.listeners.filter (fun l => l.id ≠ listener) := congrArg Board.listeners hcases
        rw [hremoved, List.mem_filter, not_and] at hlost
        have hid : l.id = listener := by simpa using hlost hl
        exact Or.inr ⟨hid.symm, e, herror⟩
    · have hboard := board_finish (s := s) (c := c) fun listener stem h heq =>
        hc ⟨listener, stem, h, heq⟩
      exact absurd (hsame (congrArg Board.listeners hboard)) hlost
  | messages listener | dropStream listener | closeOutbound | shutDown => exact absurd hl hlost
  | receive a =>
    rcases s.retains_receive a with h | h
    · exact Or.inr (hretains h hlost)
    · exact Or.inl h
  | handle f => exact Or.inr (hretains (s.retains_handle f) hlost)
  | fail e => exact Or.inl (s.isOpen_fail e)
  | elapse span =>
    refine absurd (hsame ?_) hlost
    simp only [take, elapse]
    split
    · rfl
    · rfl
  | work =>
    rcases s.listeners_work with h | h
    · exact absurd (hsame h) hlost
    · exact Or.inl h
  | cut calls e => exact Or.inl (s.isOpen_cut calls e)
  | closeBoard e => exact Or.inl rfl
  | close =>
    rcases s.isOpen_close with h | h
    · exact absurd (hsame (congrArg listeners h)) hlost
    · exact Or.inl h

/-- An entry that is missing after a run was taken away by one step of it. -/
theorem entry_run {limit : Nat} {s : Session} (hs : s.Sound limit) {steps : List Step}
    (hown : ∀ step ∈ steps, step.Own limit) {l : Listener} (hl : l ∈ s.listeners) :
    l ∈ (s.run steps).listeners ∨ ∃ first step rest, steps = first ++ step :: rest ∧
      let u := s.run first
      l ∈ u.listeners ∧ l ∉ (u.take step).listeners ∧
        ((u.take step).isOpen = false ∨ step.Removes u l) := by
  induction steps generalizing s with
  | nil => exact Or.inl hl
  | cons step later ih =>
    by_cases hstays : l ∈ (s.take step).listeners
    · have hnext := hs.take (hown step List.mem_cons_self)
      rcases ih hnext (fun step h => hown step (List.mem_cons_of_mem _ h)) hstays with
        hlast | ⟨first, lost, rest, rfl, hfirst⟩
      · exact Or.inl hlast
      · exact Or.inr ⟨step :: first, lost, rest, rfl, hfirst⟩
    · exact Or.inr ⟨[], step, later, rfl, hl, hstays, entry_take hs hl hstays⟩

/-! ### One subscription -/

section Subscription

variable {limit : Nat} {s s' : Session} {stem : String}

/-- A subscription that is refused at once leaves no entry. -/
theorem ask_subscribe_of_failed (hs : s.Sound limit) {e : LinkError}
    (h : s.ask (.subscribe stem) = (s', .error (.failed e))) :
    s'.listeners = s.listeners ∧ ∀ later, (∀ step ∈ later, step.Own limit) →
      ∀ l ∈ (s'.run later).listeners, l.id ≠ s.exchange.board.nextListener := by
  have hs' : s'.Sound limit := by
    have hask := hs.goes (s.goes_ask (.subscribe stem))
    rwa [h] at hask
  have hcases := Exchange.subscribe_cases hs.tidy s.now stem s.settings.subscribeSpan
  revert hcases h
  simp only [ask]
  generalize s.exchange.subscribe s.now stem s.settings.subscribeSpan = called
  obtain ⟨x, outcome⟩ := called
  intro h hcases
  cases outcome with
  | ok sent => cases h
  | error refusal =>
    cases h
    obtain ⟨hentries, hlacks⟩ := hcases
    refine ⟨hentries, ?_⟩
    intro later hown
    rcases hlacks with hlacks | ⟨hsame, hclosed⟩
    · exact hs'.lacks_run hlacks hown
    · -- A closed session was left as it was, and lists nobody.
      obtain ⟨why, hwhy⟩ := Option.ne_none_iff_exists'.1 hclosed
      have hsame : x = s.exchange := hsame
      rw [hs'.closed_run (hsame ▸ hwhy) hown]
      exact List.forall_mem_nil _

/-- A subscription that is sent has its entry behind the others. -/
theorem ask_subscribe_of_sent (hs : s.Sound limit) {call : Call}
    (h : s.ask (.subscribe stem) = (s', .ok call)) :
    (∃ h, call = .subscribe s.exchange.board.nextListener stem h) ∧
      s'.listeners = s.listeners ++ [⟨s.exchange.board.nextListener, stem⟩] := by
  have hcases := Exchange.subscribe_cases hs.tidy s.now stem s.settings.subscribeSpan
  revert hcases h
  simp only [ask]
  generalize s.exchange.subscribe s.now stem s.settings.subscribeSpan = called
  obtain ⟨x, outcome⟩ := called
  intro h hcases
  cases outcome with
  | error refusal => cases h
  | ok sent =>
    obtain ⟨i, handle⟩ := sent
    cases h
    obtain ⟨hi, hentries⟩ := hcases
    exact ⟨⟨handle, by rw [hi]⟩, hentries⟩

/-- A subscription that is finished with a failure leaves no entry, and others as they are. -/
theorem finish_of_failed (hs : s.Sound limit) {id : Nat} (hmade : id < s.exchange.board.nextListener)
    {h : Handle} {e : LinkError}
    (hfinish : s.finish (.subscribe id stem h) = (s', some (.error e))) :
    s'.listeners = s.listeners.filter (fun l => l.id ≠ id) ∧
      ∀ later, (∀ step ∈ later, step.Own limit) → ∀ l ∈ (s'.run later).listeners, l.id ≠ id := by
  have hs' : s'.Sound limit := by
    have hdone := hs.goes (s.goes_finish (.subscribe id stem h))
    rwa [hfinish] at hdone
  have hboard := s.finish_subscribe_cases id stem h
  rw [hfinish] at hboard
  have hboard : s'.exchange.board = s.exchange.board.removeListener id := hboard
  refine ⟨congrArg Board.listeners hboard, ?_⟩
  intro later hown
  refine hs'.lacks_run ?_ hown
  rw [hboard]
  refine ⟨hmade, ?_⟩
  intro l hl
  simpa using (List.mem_filter.1 hl).2

/-- A subscription that is finished with its stream leaves the entries as they are. -/
theorem finish_of_acknowledged {id : Nat} {h : Handle} {a : Answer}
    (hfinish : s.finish (.subscribe id stem h) = (s', some (.ok a))) :
    a = .stream id stem ∧ s'.listeners = s.listeners := by
  have hboard := s.finish_subscribe_cases id stem h
  rw [hfinish] at hboard
  exact ⟨hboard.1, congrArg Board.listeners hboard.2⟩

end Subscription

/-- **A subscription is listed whole or not at all.** Whatever a session has been through, a
subscription is asked of it, and the number of the next listener belongs to nobody. If it is refused
at once with a failure, the entries are what they were. If it is sent, its stem is listed behind the
others. When its call is finished later with a failure, whatever came in between, exactly the entries
of its listener are removed. After either failure its listener has no entry, and gets none by
whatever follows, late acknowledgements included. When the call is finished with a stream, the stem
is listed, unless a step in between has ended the session or removed the entry by name. The replies
that mean a failure leave all entries alone when they are sent, in whatever use of the board, unless
that use closes it. And where others use the board between the uses that one call makes of it, a
listener that was removed still gets no entry. -/
theorem subscription_is_whole_or_nothing {keys : SessionKeys} {settings : SessionSettings}
    {carrier : Carrier} {sink : Sink} {s₀ : Session}
    (hstart : start keys settings carrier sink = .ok s₀) {before : List Step}
    (hbefore : ∀ step ∈ before, step.Own settings.frame.payloadLimit) (stem : String) :
    let Own (steps : List Step) : Prop := ∀ step ∈ steps, step.Own settings.frame.payloadLimit
    let s := s₀.run before
    let id := s.exchange.board.nextListener
    (∀ l ∈ s.listeners, l.id ≠ id) ∧
    (∀ s₁ e, s.ask (.subscribe stem) = (s₁, .error (.failed e)) →
      s₁.listeners = s.listeners ∧
        ∀ later, Own later → ∀ l ∈ (s₁.run later).listeners, l.id ≠ id) ∧
    (∀ s₁ call, s.ask (.subscribe stem) = (s₁, .ok call) →
      (∃ h, call = .subscribe id stem h) ∧ s₁.listeners = s.listeners ++ [⟨id, stem⟩] ∧
      ∀ between, Own between →
        let t := s₁.run between
        (∀ t₁ e, t.finish call = (t₁, some (.error e)) →
          t₁.listeners = t.listeners.filter (fun l => l.id ≠ id) ∧
            ∀ later, Own later → ∀ l ∈ (t₁.run later).listeners, l.id ≠ id) ∧
        ∀ t₁ a, t.finish call = (t₁, some (.ok a)) →
          a = .stream id stem ∧ t₁.listeners = t.listeners ∧
          (⟨id, stem⟩ ∈ t₁.listeners ∨ ∃ first step rest, between = first ++ step :: rest ∧
            let u := s₁.run first
            ⟨id, stem⟩ ∈ u.listeners ∧ ⟨id, stem⟩ ∉ (u.take step).listeners ∧
              ((u.take step).isOpen = false ∨ step.Removes u ⟨id, stem⟩))) ∧
    (∀ (b : Board) use slot reply e, Notice.reply slot reply ∈ (b.turn use).2 →
      reply.bind Message.accepted = .error e → use.reason? = none →
        (b.turn use).1.listeners = b.listeners) ∧
    ∀ uses,
      let b := (Board.empty.turns uses).1
      ∀ i < b.nextListener, ∀ later, ∀ l ∈ ((b.removeListener i).turns later).1.listeners,
        l.id ≠ i := by
  intro Own s id
  have hs : s.Sound settings.frame.payloadLimit := (sound_start hstart).run hbefore
  refine ⟨fun l hl => Nat.ne_of_lt (hs.tidy.made l hl), ?_, ?_, ?_, ?_⟩
  · intro s₁ e hask
    exact ask_subscribe_of_failed hs hask
  · intro s₁ call hask
    have hs₁ : s₁.Sound settings.frame.payloadLimit := by
      have h := hs.goes (s.goes_ask (.subscribe stem))
      rwa [hask] at h
    obtain ⟨⟨h, rfl⟩, hentries⟩ := ask_subscribe_of_sent hs hask
    have hlisted : ⟨id, stem⟩ ∈ s₁.listeners := by
      rw [hentries]
      exact List.mem_append_right _ (List.mem_singleton_self _)
    refine ⟨⟨h, rfl⟩, hentries, ?_⟩
    intro between hbetween t
    have hmade : id < t.exchange.board.nextListener := by
      obtain ⟨uses, -, hboard, -⟩ := (goes_run hs₁.limit hbetween).exchange
      rw [hboard]
      exact Nat.lt_of_lt_of_le (hs₁.tidy.made _ hlisted) (Board.nextListener_turns _ uses)
    refine ⟨?_, ?_⟩
    · intro t₁ e hfinish
      exact finish_of_failed (hs₁.run hbetween) hmade hfinish
    · intro t₁ a hfinish
      obtain ⟨hanswer, hkept⟩ := finish_of_acknowledged hfinish
      refine ⟨hanswer, hkept, ?_⟩
      rw [hkept]
      exact entry_run hs₁ hbetween hlisted
  · intro b use slot reply e hmem hrefused hcloses
    exact Board.listeners_of_refused hmem hrefused hcloses
  · intro uses b i hmade later
    have hlacks : (b.removeListener i).Lacks i := by
      refine ⟨hmade, ?_⟩
      intro l hl
      simpa using (List.mem_filter.1 hl).2
    exact (hlacks.turns later).1.gone

/-- Two subscriptions to one stem; the second is refused by its acknowledgement, and another
acknowledgement of it comes late: the first stays listed alone. -/
theorem subscription_is_whole_or_nothing_refused :
    ∃ s₀, start ⟨[1], [2]⟩ .standard .machine .unlimited = .ok s₀ ∧
      let s₁ := ((s₀.run [.ask (.subscribe "a")]).ask (.subscribe "a")).1
      let t := s₁.run [.handle ⟨Command.mercurySubscribe,
        [0, 1, 1, 1, 0, 1, 0, 3, 0x20, 0xa8, 0x06]⟩]
      let done := t.finish (.subscribe 1 "a" ⟨[1], 1⟩)
      let late := done.1.run [.handle ⟨Command.mercurySubscribe,
        [0, 1, 1, 1, 0, 2, 0, 3, 0x20, 0x90, 0x03, 0, 3, 0x0a, 1, 98]⟩]
      done.2 = some (.error (.status 404 "")) ∧ done.1.listeners = [⟨0, "a"⟩] ∧
        ∀ l ∈ late.listeners, l.id ≠ 1 := by
  obtain ⟨s₀, hstart⟩ : ∃ s, start ⟨[1], [2]⟩ .standard .machine .unlimited = .ok s := ⟨_, rfl⟩
  have hs := start_eq hstart
  refine ⟨s₀, hstart, ?_⟩
  intro s₁ t done late
  let s := s₀.run [.ask (.subscribe "a")]
  have hfirst : s.exchange =
      ((Exchange.empty .drain (.ofSeconds 30)).subscribe ⟨0⟩ "a" (.ofSeconds 10)).1 := by
    change (s₀.exchange.subscribe s₀.now "a" s₀.settings.subscribeSpan).1 = _
    rw [hs]
    rfl
  have hnow : s.now = ⟨0⟩ := by
    change s₀.now = _
    rw [hs]
  have hspan : s.settings.subscribeSpan = .ofSeconds 10 := by
    change s₀.settings.subscribeSpan = _
    rw [hs]
    rfl
  have hcall : s.ask (.subscribe "a") = (s₁, .ok (.subscribe 1 "a" ⟨[1], 1⟩)) := by
    refine Prod.ext rfl ?_
    change (s.exchange.subscribe s.now "a" s.settings.subscribeSpan).2.map _ =
      Except.ok (Call.subscribe 1 "a" ⟨[1], 1⟩)
    rw [hfirst, hnow, hspan]
    decide +kernel
  have hexchange : t.exchange = (((Exchange.empty .drain (.ofSeconds 30)).subscribe ⟨0⟩ "a"
      (.ofSeconds 10)).1.subscribe ⟨0⟩ "a" (.ofSeconds 10)).1.route ⟨0⟩
      ⟨Command.mercurySubscribe, [0, 1, 1, 1, 0, 1, 0, 3, 0x20, 0xa8, 0x06]⟩ := by
    change (s.exchange.subscribe s.now "a" s.settings.subscribeSpan).1.route s.now _ = _
    rw [hfirst, hnow, hspan]
  have hreply : (t.exchange.collect ⟨[1], 1⟩).2 = some (.ok ⟨[1], "", 404, none, [], []⟩) := by
    rw [hexchange]
    decide +kernel
  have hfinish : done.2 = some (.error (.status 404 "")) := by
    revert hreply
    change _ → (t.finish (.subscribe 1 "a" ⟨[1], 1⟩)).2 = _
    rw [finish]
    simp only [Call.handle]
    generalize t.exchange.collect ⟨[1], 1⟩ = found
    obtain ⟨x, reply⟩ := found
    rintro rfl
    rfl
  have hentries : t.listeners = [⟨0, "a"⟩, ⟨1, "a"⟩] := by
    rw [listeners, hexchange]
    decide +kernel
  have hnext : s.exchange.board.nextListener = 1 := by
    rw [hfirst]
    decide +kernel
  have hown : ∀ step ∈ [Step.ask (.subscribe "a")],
      step.Own SessionSettings.standard.frame.payloadLimit := by
    intro step hstep
    rw [List.mem_singleton.1 hstep]
    trivial
  have hhandle : ∀ f, ∀ step ∈ [Step.handle f],
      step.Own SessionSettings.standard.frame.payloadLimit := by
    intro f step hstep
    rw [List.mem_singleton.1 hstep]
    trivial
  obtain ⟨-, -, hsent, -⟩ := subscription_is_whole_or_nothing hstart hown "a"
  obtain ⟨-, -, hdone⟩ := hsent s₁ _ hcall
  obtain ⟨hleft, hlate⟩ := (hdone _ (hhandle _)).1 done.1 _ (Prod.ext rfl hfinish)
  refine ⟨hfinish, ?_, ?_⟩
  · rw [hleft, hentries, hnext]
    rfl
  · rw [← hnext]
    exact hlate _ (hhandle _)

end Session

end MercuryLink
