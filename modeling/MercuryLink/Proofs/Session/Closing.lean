import MercuryLink.Proofs.Session.Ledger
import MercuryLink.Proofs.Session.Receiving

/-!
# Whom the end of a session answers

A session goes from open to closed in one step, or in one move of its receive loop. Of what arrives
in that step the frames are taken first; then whoever still waits is answered with the reason, and
nobody is answered any more, whatever follows. So a request is answered with a failure that concerns
the link as a whole exactly if it waits when the link ends for such a reason. The one reason of
another kind is an inbound frame above a limit.
-/

namespace MercuryLink

namespace Exchange

/-- Who waits at an end has its reason as the only reply. -/
theorem Ends.answers {x y : Exchange} {e : LinkError} (h : Ends x y e) {known later : List Handle}
    (hx : Ledger x known) (hy : Ledger y later) {entry : SequenceId × Pending}
    (hentry : entry ∈ x.board.pending) : replies y.log entry.2.respond = [.error e] := by
  have hknown : (⟨entry.1, entry.2.respond⟩ : Handle) ∈ known :=
    hx.outstanding _ (List.mem_map_of_mem hentry)
  have hwaits : x.board.pending.get? entry.1 = some entry.2 :=
    hx.account.distinct.get?_eq_some_iff.2 hentry
  have hunresolved : replies x.log entry.2.respond = [] :=
    (hx.account.unresolved_iff hknown).2 ⟨entry.2, hwaits, rfl⟩
  exact h.resolves hx.account hy.account hknown hunresolved

end Exchange

namespace Session

/-! ### One step -/

section Steps

variable {s : Session} {e : LinkError}

/-- Asking closes no session. -/
theorem closeReason_ask (s : Session) (a : Ask) : (s.ask a).1.closeReason = s.closeReason := by
  cases a with
  | request r timeout => exact s.exchange.closeReason_dispatch s.now r timeout none
  | subscribe stem => exact s.exchange.closeReason_subscribe s.now stem s.settings.subscribeSpan
  | unsubscribe stem =>
    exact s.exchange.closeReason_unsubscribe s.now stem s.settings.subscribeSpan

/-- Neither does finishing a call. -/
theorem closeReason_finish (s : Session) (c : Call) :
    (s.finish c).1.closeReason = s.closeReason := by
  obtain ⟨collected, hcollect⟩ := s.exchange.exists_collected c.handle
  have hkept : (s.exchange.collect c.handle).1.board.closeReason = s.closeReason := by
    rw [hcollect]
    rfl
  rcases s.finish_cases c with h | ⟨listener, -, -, -, h⟩
  · rw [h]
    exact hkept
  · rw [h]
    exact hkept

/-- A failure ends the link. -/
theorem staysOrEnds_fail (s : Session) (e : FrameError) :
    s.exchange.StaysOrEnds (s.fail e).exchange :=
  (Exchange.Turns.turn (t := .close (.ofFrame e)) rfl rfl).staysOrEnds

/-- The owner closes the board first. -/
theorem staysOrEnds_close (s : Session) : s.exchange.StaysOrEnds s.close.exchange := by
  rw [close]
  split
  · exact .stays rfl
  · let t : Session := { s with closed := true }
    let board := t.withExchange (t.exchange.close .closed)
    let queue := board.withExchange board.exchange.closeOutbound
    have hclosed : Exchange.Turns [.close .closed] s.exchange queue.exchange := .turn rfl rfl
    have hworked := beside_workSteps Board.Turn.admits_isRoute queue.exchange.outbound.waiting.length
      queue
    have hreason : (Board.Turn.close (.ofFrame .connectionClosed)).isRoute = false := rfl
    have hfailed : Beside (·.isRoute = false) queue.settle _ := beside_fail hreason _
    obtain ⟨uses, -, hrest⟩ := (hworked.trans hfailed).exchange.turns
    exact (hclosed.append hrest).staysOrEnds

/-- A step that takes nothing of what arrives leaves a session open or closed as it was, or ends
it. -/
theorem staysOrEnds_take {step : Step} (hstep : step.isInbound = false) (s : Session) :
    s.exchange.StaysOrEnds (s.take step).exchange := by
  cases step with
  | ask a => exact .stays (s.closeReason_ask a)
  | enqueue o =>
    rw [take]
    split
    · exact .stays rfl
    · exact .stays rfl
  | finish c => exact .stays (s.closeReason_finish c)
  | messages listener | dropStream listener | closeOutbound | shutDown => exact .stays rfl
  | receive a | handle f => cases hstep
  | fail e => exact s.staysOrEnds_fail e
  | elapse span =>
    simp only [take, elapse]
    split
    · exact .stays rfl
    · exact .stays rfl
  | work => exact Exchange.staysOrEnds_work Outlet.send s.exchange s.outlet
  | cut calls e =>
    obtain ⟨uses, hturns⟩ := turns_cut Board.Turn.admits_isRoute s calls e
    exact hturns.staysOrEnds
  | closeBoard e => exact (Exchange.Turns.turn (t := .close e) rfl rfl).staysOrEnds
  | close => exact s.staysOrEnds_close

/-- A move of the receive loop leaves it so, or ends it, too. -/
theorem Does.staysOrEnds {t : Session} {handled : Option Handling} {failure : Option FrameError}
    (h : Does s handled failure t) : s.exchange.StaysOrEnds t.exchange := by
  cases h with
  | waits keeps => exact .stays rfl
  | @handles opener buffer f keeps fits =>
    exact .stays (handle_keeps { s with opener, buffer } f).2
  | @fails opener buffer e keeps => exact staysOrEnds_fail { s with opener, buffer } e

theorem staysOrEnds_advance (s : Session) (m : Move) :
    s.exchange.StaysOrEnds (s.advance m).exchange := by
  cases m with
  | next | read a => exact (s.does_advance rfl).staysOrEnds
  | beside step => exact staysOrEnds_take step.2 s

/-- A session as the end finds it that a step brings: of bytes that arrive, the frames that they
complete have been taken. -/
def untilEnd (s : Session) : Step → Session
  | .receive (.bytes (b :: bs)) =>
    let drained := s.opener.drain (s.buffer ++ b :: bs)
    drained.frames.foldl handle { s with opener := drained.opener, buffer := drained.rest }
  | _ => s

/-- Taking frames closes no session. -/
theorem closeReason_untilEnd (s : Session) (step : Step) :
    (s.untilEnd step).closeReason = s.closeReason := by
  rw [untilEnd.eq_def]
  split
  · exact (foldl_handle_keeps _ _).2
  · rfl

/-- What arrives ends the session only behind the frames that it completes. -/
theorem staysOrEnds_receive (s : Session) (a : Arrival) :
    (s.untilEnd (.receive a)).exchange.StaysOrEnds (s.receive a).exchange := by
  cases hreceiving : s.receiving with
  | false =>
    have hsame : s.receive a = s := by
      rw [receive.eq_def, hreceiving]
      rfl
    rw [hsame]
    exact .stays (s.closeReason_untilEnd (.receive a)).symm
  | true =>
    cases a with
    | bytes chunk =>
      cases chunk with
      | nil =>
        rw [receive.eq_def, if_neg (not_stopped hreceiving)]
        exact s.staysOrEnds_fail .connectionClosed
      | cons b bs =>
        rw [receive_bytes hreceiving (List.cons_ne_nil b bs), takeBytes]
        split
        · exact .stays rfl
        · next e _ => exact staysOrEnds_fail _ e
    | fault f =>
      rw [receive.eq_def, if_neg (not_stopped hreceiving)]
      change s.exchange.StaysOrEnds (s.takeFault f).exchange
      rw [takeFault]
      split
      · exact .stays rfl
      · split
        · split
          · exact .stays rfl
          · exact .stays rfl
        · exact s.staysOrEnds_fail (.io f)

/-- So every step leaves a session open or closed as it was, or ends it. -/
theorem staysOrEnds_untilEnd (s : Session) (step : Step) :
    (s.untilEnd step).exchange.StaysOrEnds (s.take step).exchange := by
  cases step with
  | receive a => exact s.staysOrEnds_receive a
  | handle f => exact .stays (s.handle_keeps f).2
  | _ => exact staysOrEnds_take rfl s

/-- What has been taken until then are uses of the board, and steps of the exchange. -/
theorem goes_untilEnd (limit : Nat) (s : Session) (step : Step) :
    Goes limit s (s.untilEnd step) := by
  rw [untilEnd.eq_def]
  split
  · next b bs =>
    let opened := s.opener.drain (s.buffer ++ b :: bs)
    have hopened : Goes limit s { s with opener := opened.opener, buffer := opened.rest } :=
      ⟨.refl _, (s.opener.drain_minds _).1⟩
    exact hopened.trans (goes_handleAll _ opened.frames)
  · exact .refl s

theorem reaches_untilEnd (s : Session) (step : Step) :
    Exchange.Reaches (fun _ => True) s.exchange (s.untilEnd step).exchange := by
  rw [untilEnd.eq_def]
  split
  · next b bs =>
    let opened := s.opener.drain (s.buffer ++ b :: bs)
    exact reaches_handleAll { s with opener := opened.opener, buffer := opened.rest } opened.frames
  · exact .refl

end Steps

/-! ### Moves -/

/-- A move is one of the session's own if what is done beside the receive loop is. -/
def Move.Own (limit : Nat) : Move → Prop
  | .beside step => step.1.Own limit
  | .next | .read _ => True

section Moves

variable {limit : Nat} {s t : Session} {handled : Option Handling} {failure : Option FrameError}
  {allowed : Exchange → Prop}

/-- A move of the receive loop ends the session at most for what may end the link. -/
theorem Does.goes (h : Does s handled failure t) (hlimit : s.opener.limit = limit) :
    Goes limit s t := by
  cases h with
  | waits keeps => exact ⟨.refl _, keeps.limit⟩
  | @handles opener buffer f keeps fits =>
    have hhandled : Goes limit { s with opener, buffer } _ := goes_handle _ f
    exact ⟨hhandled.exchange, hhandled.limit.trans keeps.limit⟩
  | @fails opener buffer e keeps refuses =>
    have hfailed := goes_fail (hlimit ▸ refuses).mayEnd { s with opener, buffer }
    exact ⟨hfailed.exchange, hfailed.limit.trans keeps.limit⟩

theorem goes_advance (hlimit : s.opener.limit = limit) {m : Move} (hown : m.Own limit) :
    Goes limit s (s.advance m) := by
  cases m with
  | next | read a => exact (s.does_advance rfl).goes hlimit
  | beside step => exact goes_take hlimit hown

theorem goes_advanceAll (hlimit : s.opener.limit = limit) {moves : List Move}
    (hown : ∀ m ∈ moves, m.Own limit) : Goes limit s (s.advanceAll moves) := by
  induction moves generalizing s with
  | nil => exact .refl s
  | cons m later ih =>
    have hmove := goes_advance hlimit (hown m List.mem_cons_self)
    exact hmove.trans (ih (hmove.limit.trans hlimit) fun m h => hown m (List.mem_cons_of_mem _ h))

/-- Every move takes the exchange on by its own steps. -/
theorem Does.reaches (h : Does s handled failure t) :
    Exchange.Reaches allowed s.exchange t.exchange := by
  cases h with
  | waits => exact .refl
  | @handles opener buffer f => exact reaches_handle { s with opener, buffer } f
  | @fails opener buffer e => exact reaches_fail { s with opener, buffer } e

theorem reaches_advance (s : Session) (m : Move) :
    Exchange.Reaches (fun _ => True) s.exchange (s.advance m).exchange := by
  cases m with
  | next | read a => exact (s.does_advance rfl).reaches
  | beside step => exact reaches_take (fun _ _ => trivial) s step.1 fun _ => trivial

theorem reaches_advanceAll (s : Session) (moves : List Move) :
    Exchange.Reaches (fun _ => True) s.exchange (s.advanceAll moves).exchange := by
  induction moves generalizing s with
  | nil => exact .refl
  | cons m later ih => exact (s.reaches_advance m).trans (ih _)

/-- Nobody is answered by the moves behind an end. -/
theorem ends_advanceAll {x : Exchange} {e : LinkError} (h : Exchange.Ends x s.exchange e)
    (moves : List Move) : Exchange.Ends x (s.advanceAll moves).exchange e := by
  induction moves generalizing s with
  | nil => exact h
  | cons m later ih =>
    obtain ⟨uses, -, hturns⟩ := (s.progress_advance m).routes.turns
    exact ih (h.turns hturns)

end Moves

/-! ### Runs -/

section Runs

variable {s : Session} {e : LinkError}

/-- Where nothing opens a closed session again, what closes an open one is one of the acts that led
there. -/
theorem exists_closing {α : Type} {act : Session → α → Session}
    (hkeeps : ∀ s a e, s.closeReason = some e → (act s a).closeReason = some e)
    (hopen : s.closeReason = none) {acts : List α}
    (hclosed : (acts.foldl act s).closeReason = some e) :
    ∃ before a later, acts = before ++ a :: later ∧ (before.foldl act s).closeReason = none ∧
      (act (before.foldl act s) a).closeReason = some e := by
  have hstays : ∀ {t : Session} {why}, t.closeReason = some why → ∀ later : List α,
      (later.foldl act t).closeReason = some why := by
    intro t why hwhy later
    induction later generalizing t with
    | nil => exact hwhy
    | cons a later ih => exact ih (hkeeps t a why hwhy)
  induction acts generalizing s with
  | nil =>
    rw [List.foldl_nil, hopen] at hclosed
    cases hclosed
  | cons a later ih =>
    cases hnext : (act s a).closeReason with
    | none =>
      obtain ⟨before, closing, rest, hsplit, hbefore, hclosing⟩ := ih hnext hclosed
      exact ⟨a :: before, closing, rest, congrArg (a :: ·) hsplit, hbefore, hclosing⟩
    | some why =>
      have hwhy : why = e := Option.some.inj ((hstays hnext later).symm.trans hclosed)
      exact ⟨[], a, later, rfl, hopen, hwhy ▸ hnext⟩

/-- A closed session keeps its reason in every step. -/
theorem closeReason_take (h : s.closeReason = some e) (step : Step) :
    (s.take step).closeReason = some e :=
  (s.staysOrEnds_untilEnd step).closed ((s.closeReason_untilEnd step).trans h)

end Runs

/-- A session `w` that was open has ended for a reason, and `t` is what became of it. -/
structure Resolves (w t : Session) (e : LinkError) : Prop where
  unclosed : w.closeReason = none
  /-- Every failure before the end concerned one request. -/
  requests : ∀ slot why, Notice.reply slot (.error why) ∈ w.exchange.log → why.isFatal = false
  /-- The end answers whoever waits with its reason, and nobody is answered after it. -/
  log : t.exchange.log =
    w.exchange.log ++ w.exchange.board.pending.map fun entry => .reply entry.2.respond (.error e)
  /-- Who waits has the reason as the only reply. -/
  replies : ∀ entry ∈ w.exchange.board.pending,
    Exchange.replies t.exchange.log entry.2.respond = [.error e]
  /-- If the reason concerns the link as a whole, the requests that are answered with such a failure
  are those that wait. -/
  waiting : e.isFatal = true → ∀ slot,
    (∃ why, why.isFatal = true ∧ Notice.reply slot (.error why) ∈ t.exchange.log) ↔
      ∃ entry ∈ w.exchange.board.pending, entry.2.respond = slot

/-- A session that was started with some settings and has come here by steps and moves of its own:
its limit is that of the settings, its board was closed at most for what may end the link, and its
ledger is in order. -/
structure Begun (settings : SessionSettings) (s : Session) : Prop where
  limit : s.opener.limit = settings.frame.payloadLimit
  goes : Exchange.Goes (LinkError.MayEnd settings.frame.payloadLimit)
    (.empty settings.policy settings.pushSpan) s.exchange
  ledger : ∃ known, s.exchange.Ledger known

section Begun

variable {settings : SessionSettings} {s w t : Session} {e : LinkError}

theorem begun_start {keys : SessionKeys} {carrier : Carrier} {sink : Sink}
    (hstart : start keys settings carrier sink = .ok s) : Begun settings s := by
  rw [start_eq hstart]
  exact ⟨rfl, .refl _, [], Exchange.ledger_empty settings.policy settings.pushSpan⟩

/-- What goes on by uses that may end the link, and by steps of its exchange, goes on so. -/
theorem Begun.goes_on (hs : Begun settings s) (hgoes : Goes settings.frame.payloadLimit s t)
    (hreaches : Exchange.Reaches (fun _ => True) s.exchange t.exchange) : Begun settings t := by
  obtain ⟨known, hknown⟩ := hs.ledger
  obtain ⟨new, hnew⟩ := hknown.reaches hreaches
  exact ⟨hgoes.limit.trans hs.limit, hs.goes.trans hgoes.exchange, _, hnew⟩

theorem Begun.run (hs : Begun settings s) {steps : List Step}
    (hown : ∀ step ∈ steps, step.Own settings.frame.payloadLimit) : Begun settings (s.run steps) :=
  hs.goes_on (goes_run hs.limit hown) (s.reaches_run steps)

theorem Begun.advanceAll (hs : Begun settings s) {moves : List Move}
    (hown : ∀ m ∈ moves, m.Own settings.frame.payloadLimit) :
    Begun settings (s.advanceAll moves) :=
  hs.goes_on (goes_advanceAll hs.limit hown) (s.reaches_advanceAll moves)

theorem Begun.untilEnd (hs : Begun settings s) (step : Step) :
    Begun settings (s.untilEnd step) :=
  hs.goes_on (goes_untilEnd _ s step) (s.reaches_untilEnd step)

/-- An end resolves whoever waits. -/
theorem Begun.resolves (hw : Begun settings w) (hopen : w.closeReason = none)
    (h : Exchange.Ends w.exchange t.exchange e) (ht : Begun settings t) : Resolves w t e := by
  obtain ⟨known, hknown⟩ := hw.ledger
  obtain ⟨later, hlater⟩ := ht.ledger
  have hrequests : Board.Local w.exchange.log := hw.goes.requests hopen
  refine ⟨hopen, hrequests, h.log, fun _ hentry => h.answers hknown hlater hentry, ?_⟩
  intro hfatal slot
  rw [h.log]
  constructor
  · rintro ⟨why, hwhy, hmem⟩
    rcases List.mem_append.1 hmem with hbefore | hend
    · rw [hrequests slot why hbefore] at hwhy
      cases hwhy
    · obtain ⟨entry, hentry, hreply⟩ := List.mem_map.1 hend
      cases hreply
      exact ⟨entry, hentry, rfl⟩
  · rintro ⟨entry, hentry, rfl⟩
    exact ⟨e, hfatal, List.mem_append_right _ (List.mem_map.2 ⟨entry, hentry, rfl⟩)⟩

/-- The step that ends a session does so, with the frames taken that have arrived. -/
theorem Begun.resolves_step (hs : Begun settings s) (hopen : s.closeReason = none) {ending : Step}
    (hclosed : (s.take ending).closeReason = some e) {later : List Step}
    (hsteps : ∀ step ∈ ending :: later, step.Own settings.frame.payloadLimit) {moves : List Move}
    (hmoves : ∀ m ∈ moves, m.Own settings.frame.payloadLimit) :
    Resolves (s.untilEnd ending) ((s.run (ending :: later)).advanceAll moves) e := by
  have hunclosed : (s.untilEnd ending).closeReason = none :=
    (s.closeReason_untilEnd ending).trans hopen
  have hends := (s.staysOrEnds_untilEnd ending).ends_of_closed hunclosed hclosed
  have hlimit : (s.take ending).opener.limit = settings.frame.payloadLimit :=
    (goes_take hs.limit (hsteps ending List.mem_cons_self)).limit.trans hs.limit
  obtain ⟨uses, -, hboard, hlog⟩ :=
    (goes_run hlimit fun step h => hsteps step (List.mem_cons_of_mem _ h)).exchange
  have hlast := ends_advanceAll (hends.turns ⟨hboard, hlog⟩) moves
  exact (hs.untilEnd ending).resolves hunclosed hlast ((hs.run hsteps).advanceAll hmoves)

/-- So does the move that ends a session. -/
theorem Begun.resolves_move (hs : Begun settings s) (hopen : s.closeReason = none) {ending : Move}
    (hclosed : (s.advance ending).closeReason = some e) {later : List Move}
    (hmoves : ∀ m ∈ ending :: later, m.Own settings.frame.payloadLimit) :
    Resolves s (s.advanceAll (ending :: later)) e := by
  have hends := (s.staysOrEnds_advance ending).ends_of_closed hopen hclosed
  exact hs.resolves hopen (ends_advanceAll hends later) (hs.advanceAll hmoves)

end Begun

/-- **What a session answers with, and what ends it.** Let a session take steps of its own and then,
one at a time, the moves of its receive loop with steps of others between them. As long as it is
open, whatever failure it answered a request with concerned that request alone: a time-out, a
response that is no message, a frame that was not written for its size. It ends for a reason that
concerns the link as a whole, save that an inbound frame above a limit which was set below that of
frames ends it too, with what else refuses a request for its size. The step or the move that ends it
answers whoever still waits with its reason, once all frames that arrived before are taken, and
nobody is answered after it; so where the reason concerns the link as a whole, the requests that
were answered with such a failure are exactly those that waited. -/
theorem failures_end_sessions {keys : SessionKeys} {settings : SessionSettings} {carrier : Carrier}
    {sink : Sink} {s : Session} (hstart : start keys settings carrier sink = .ok s)
    {steps : List Step} (hsteps : ∀ step ∈ steps, step.Own settings.frame.payloadLimit)
    {moves : List Move} (hmoves : ∀ m ∈ moves, m.Own settings.frame.payloadLimit) :
    let t := s.run steps
    let u := t.advanceAll moves
    (u.closeReason = none →
      ∀ slot why, Notice.reply slot (.error why) ∈ u.exchange.log → why.isFatal = false) ∧
    ∀ e, u.closeReason = some e →
      (e.isFatal = true ∨ ∃ size, settings.frame.payloadLimit < size ∧ size ≤ Frame.maxPayload ∧
        e = .ofFrame (.payloadTooLarge size settings.frame.payloadLimit)) ∧
      (Frame.maxPayload ≤ settings.frame.maxPayload → e.isFatal = true) ∧
      ((∃ before ending later, steps = before ++ ending :: later ∧
          ((s.run before).take ending).closeReason = some e ∧
          Resolves ((s.run before).untilEnd ending) u e) ∨
        ∃ before ending later, moves = before ++ ending :: later ∧
          ((t.advanceAll before).advance ending).closeReason = some e ∧
          Resolves (t.advanceAll before) u e) := by
  intro t u
  have hs : Begun settings s := begun_start hstart
  have hopen : s.closeReason = none := by
    rw [start_eq hstart]
    rfl
  have ht : Begun settings t := hs.run hsteps
  have hu : Begun settings u := ht.advanceAll hmoves
  refine ⟨hu.goes.requests, ?_⟩
  intro e he
  have hmay : e.MayEnd settings.frame.payloadLimit := hu.goes.mayEnd he
  refine ⟨hmay, ?_, ?_⟩
  · intro hfull
    have hlimit : settings.frame.payloadLimit = Frame.maxPayload := Nat.min_eq_right hfull
    exact LinkError.MayEnd.isFatal (hlimit ▸ hmay)
  · cases hreason : t.closeReason with
    | some why =>
      -- A step has ended the session, and the moves have kept its reason.
      have hwhy : why = e := Option.some.inj ((closeReason_advanceAll hreason moves).symm.trans he)
      obtain ⟨before, ending, later, rfl, hunclosed, hclosed⟩ :=
        exists_closing (fun _ step _ h => closeReason_take h step) hopen (hwhy ▸ hreason)
      have hbefore := hs.run fun step h => hsteps step (List.mem_append_left _ h)
      have hresolves := hbefore.resolves_step hunclosed hclosed
        (fun step h => hsteps step (List.mem_append_right _ h)) hmoves
      refine Or.inl ⟨before, ending, later, rfl, hclosed, ?_⟩
      rwa [run, run, ← List.foldl_append] at hresolves
    | none =>
      obtain ⟨before, ending, later, rfl, hunclosed, hclosed⟩ :=
        exists_closing (fun s m _ h => (s.staysOrEnds_advance m).closed h) hreason he
      have hbefore := ht.advanceAll fun m h => hmoves m (List.mem_append_left _ h)
      have hresolves := hbefore.resolves_move hunclosed hclosed
        fun m h => hmoves m (List.mem_append_right _ h)
      refine Or.inr ⟨before, ending, later, rfl, hclosed, ?_⟩
      rwa [Session.advanceAll, Session.advanceAll, ← List.foldl_append] at hresolves

/-- A session whose stream ends while a request waits: the link has ended for good, and that is the
one answer to the request. -/
theorem failures_end_sessions_hangup :
    ∃ s, start ⟨[1], [2]⟩ .standard .machine .unlimited = .ok s ∧
      let t := s.run [.ask (.request (.plain .get "x") (.ofSeconds 10)), .fail .connectionClosed]
      t.closeReason = some .closed ∧ LinkError.closed.isFatal = true ∧
        Exchange.replies t.exchange.log 0 = [.error .closed] := by
  obtain ⟨s, hstart⟩ : ∃ s, start ⟨[1], [2]⟩ .standard .machine .unlimited = .ok s := ⟨_, rfl⟩
  refine ⟨s, hstart, ?_⟩
  intro t
  let asked := s.take (.ask (.request (.plain .get "x") (.ofSeconds 10)))
  have hsteps : ∀ step ∈ [Step.ask (.request (.plain .get "x") (.ofSeconds 10)),
      .fail .connectionClosed], step.Own SessionSettings.standard.frame.payloadLimit := by
    intro step hstep
    rcases List.mem_cons.1 hstep with rfl | hstep
    · trivial
    · rw [List.mem_singleton.1 hstep]
      exact FrameError.Refuses.of_isTooLarge rfl
  have hexchange : asked.exchange = ((Exchange.empty .drain (.ofSeconds 30)).request ⟨0⟩
      (.plain .get "x") (.ofSeconds 10)).1 := exchange_first_request hstart _ _
  have hopen : asked.closeReason = none := by
    rw [closeReason, hexchange]
    decide +kernel
  have hreason : t.closeReason = some .closed := (Exchange.ends_close hopen .closed).shut.reason
  obtain ⟨entry, hentry, hslot⟩ : ∃ entry ∈ asked.exchange.board.pending, entry.2.respond = 0 := by
    rw [hexchange]
    decide +kernel
  have hresolves : Resolves asked t .closed := by
    obtain ⟨-, -, ⟨before, ending, later, hsplit, hclosed, hresolves⟩ | ⟨before, _, _, hnone, -⟩⟩ :=
      (failures_end_sessions hstart hsteps (List.forall_mem_nil _)).2 .closed hreason
    · -- The request does not end the session, so what follows it does.
      rcases before with - | ⟨first, - | ⟨second, rest⟩⟩
      · cases hsplit
        exact absurd (hclosed.symm.trans hopen) (Option.some_ne_none _)
      · cases hsplit
        exact hresolves
      · cases rest with
        | nil => cases hsplit
        | cons third rest => cases hsplit
    · cases before with
      | nil => cases hnone
      | cons first rest => cases hnone
  refine ⟨hreason, rfl, ?_⟩
  have hreplies := hresolves.replies entry hentry
  rwa [hslot] at hreplies

/-- An inbound frame above the limit ends the session with what also refuses a request for its size,
and whoever waits is answered with that. -/
theorem receive_oversized {s : Session} (hreceiving : s.receiving = true) (hbuffer : s.buffer = [])
    (hphase : s.opener.phase = .header) (hsound : s.opener.poisoned = false) {nonce : UInt32}
    (hnonce : Nonce.ofCount? s.opener.count = some nonce) {f : Frame}
    (hfit : f.payload.length ≤ Frame.maxPayload) (hlong : s.opener.limit < f.payload.length)
    (rest : Bytes) :
    (s.receive (.bytes (Sealer.wireHeader s.opener.key nonce f ++ rest))).exchange =
      s.exchange.abort (.ofFrame (.payloadTooLarge f.payload.length s.opener.limit)) := by
  have hchunk : Sealer.wireHeader s.opener.key nonce f ++ rest ≠ [] :=
    List.append_ne_nil_of_left_ne_nil (Sealer.wireHeader_ne_nil _ _ _) _
  have hnext : s.opener.next (Sealer.wireHeader s.opener.key nonce f ++ rest) =
      Opener.fail { s.opener with count := s.opener.count + 1 } rest
        (.payloadTooLarge f.payload.length s.opener.limit) := by
    rw [Opener.next, hsound, hphase, if_neg Bool.false_ne_true]
    simp only []
    rw [Opener.openHeader_wireHeader rest hnonce hfit, if_pos hlong]
  rw [receive_bytes hreceiving hchunk, takeBytes, hbuffer, List.nil_append,
    Opener.drain_of_error hnext]
  rfl

/-- A session that takes payloads of ten bytes waits for a response when a frame of eleven arrives:
it ends for a reason that is not said to end it, and answers the request with that. -/
theorem oversized_frame_ends_session :
    ∃ s, start ⟨[1], [2]⟩ { SessionSettings.standard with frame.maxPayload := 10 } .machine
        .unlimited = .ok s ∧
      let f : Frame := ⟨Command.ping, List.replicate 11 0⟩
      let t := s.run [.ask (.request (.plain .get "x") (.ofSeconds 10)),
        .receive (.bytes (Sealer.wire (.ofBytes [2]) 0 (f.header ++ f.payload)))]
      ∃ e, t.closeReason = some e ∧ e.isFatal = false ∧
        Exchange.replies t.exchange.log 0 = [.error e] := by
  obtain ⟨s, hstart⟩ : ∃ s, start ⟨[1], [2]⟩
      { SessionSettings.standard with frame.maxPayload := 10 } .machine .unlimited = .ok s :=
    ⟨_, rfl⟩
  have hs := start_eq hstart
  refine ⟨s, hstart, ?_⟩
  intro f t
  let waits := s.take (.ask (.request (.plain .get "x") (.ofSeconds 10)))
  have hopener : waits.opener = (Opener.ofKey [2]).withLimit 10 := by
    change s.opener = _
    rw [hs]
  have hreceiving : waits.receiving = true := by
    change s.receiving = true
    rw [hs]
  have hbuffer : waits.buffer = [] := by
    change s.buffer = []
    rw [hs]
  have hexchange : waits.exchange = ((Exchange.empty .drain (.ofSeconds 30)).request ⟨0⟩
      (.plain .get "x") (.ofSeconds 10)).1 := exchange_first_request hstart _ _
  have hanswered : Exchange.replies (((Exchange.empty .drain (.ofSeconds 30)).request ⟨0⟩
      (.plain .get "x") (.ofSeconds 10)).1.abort (.ofFrame (.payloadTooLarge 11 10))).log 0 =
        [.error (.ofFrame (.payloadTooLarge 11 10))] := by decide +kernel
  have hopen : (((Exchange.empty .drain (.ofSeconds 30)).request ⟨0⟩
      (.plain .get "x") (.ofSeconds 10)).1).board.closeReason = none := by decide +kernel
  have hend : t.exchange = waits.exchange.abort (.ofFrame (.payloadTooLarge 11 10)) := by
    have hphase : waits.opener.phase = .header := by rw [hopener]; rfl
    have hsound : waits.opener.poisoned = false := by rw [hopener]; rfl
    have hnonce : Nonce.ofCount? waits.opener.count = some 0 := by rw [hopener]; rfl
    have hlong : waits.opener.limit < f.payload.length := by rw [hopener]; decide
    have hend := receive_oversized hreceiving hbuffer hphase hsound hnonce (by decide) hlong
      (Sealer.wireBody (Sealer.headed waits.opener.key 0 f) f.payload)
    rw [← Sealer.wire_eq, hopener] at hend
    exact hend
  have hreason : (waits.exchange.abort (.ofFrame (.payloadTooLarge 11 10))).board.closeReason =
      some (.ofFrame (.payloadTooLarge 11 10)) := by
    rw [hexchange]
    exact (Exchange.ends_close hopen _).shut.reason
  refine ⟨.ofFrame (.payloadTooLarge 11 10), ?_, rfl, ?_⟩
  · rw [closeReason, hend, hreason]
  · rw [hend, hexchange, hanswered]

end Session

end MercuryLink
