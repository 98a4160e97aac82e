import MercuryLink.Proofs.Exchange.Correlation

/-!
# The first end of a link is final

A board that was closed holds no request and no listener, so no operation finds anybody to answer
or to send to, and none registers anything, because the reason is looked at first. What such an
exchange still does is the same for every step: it forgets what it has queued, keeps pushes in part,
and nothing else. The main statement follows a run through the step that closes it: what waits then
is answered with the reason, and from there on nothing is sent, accepted or undone.
-/

namespace MercuryLink

namespace Board

/-- Nothing is left on a board that was closed for a reason. -/
structure Shut (b : Board) (e : LinkError) : Prop where
  reason : b.closeReason = some e
  pending : b.pending = []
  listeners : b.listeners = []

/-- An operation sends nothing, and leaves a board as it is but for the pushes in part. -/
structure Idles (b : Board) (step : Board × List Notice) : Prop where
  kept : ∃ pushes, step.1 = { b with pushes }
  silent : step.2 = []

/-- Doing nothing is idle. -/
theorem Idles.refl (b : Board) : Idles b (b, []) := ⟨⟨_, rfl⟩, rfl⟩

/-- Closing leaves nothing on a board. -/
theorem shut_close (b : Board) (e : LinkError) :
    (b.close e).1.Shut (b.closeReason.getD e) := ⟨rfl, rfl, rfl⟩

section Shut

variable {b : Board} {e : LinkError}

theorem Shut.get?_eq_none (h : b.Shut e) (id : SequenceId) : b.pending.get? id = none := by
  rw [h.pending, Table.get?_nil]

/-- No request is left that could fail. -/
theorem Shut.fail (h : b.Shut e) (id : SequenceId) (why : LinkError) : b.fail id why = (b, []) := by
  rw [Board.fail, h.get?_eq_none id]

/-- A message finds no listener. -/
theorem Shut.deliver (h : b.Shut e) (m : Message) : b.deliver m = (b, []) := by
  have hnobody : receivers b.isLive m.uri [] = ([], []) := by
    rw [receivers]
    split
    · rfl
    · next length hlength => cases hlength
  have hkept : { b with listeners := [] } = b := by rw [← h.listeners]
  rw [Board.deliver, h.listeners, hnobody]
  exact congrArg (·, []) hkept

/-- A push is kept in part, or finds no listener. -/
theorem Shut.takePush (h : b.Shut e) (now : Moment) (span : Timespan) (p : Packet) :
    Idles b (b.takePush now span p) := by
  have hforgets : ({ b with pushes := b.pushes.erase p.sequence } : Board).Shut e :=
    ⟨h.reason, h.pending, h.listeners⟩
  rw [Board.takePush]
  dsimp only
  split
  · split
    · exact ⟨⟨_, rfl⟩, rfl⟩
    · next m _ =>
      rw [hforgets.deliver m]
      exact ⟨⟨_, rfl⟩, rfl⟩
  · split
    · exact .refl b
    · exact ⟨⟨_, rfl⟩, rfl⟩

/-- No frame finds a request or a listener. -/
theorem Shut.route (h : b.Shut e) (now : Moment) (span : Timespan) (f : Frame) :
    Idles b (b.route now span f) := by
  rw [Board.route]
  split
  · rw [takeBroken]
    split
    · exact .refl b
    · next id _ =>
      split
      · rw [h.fail id]
        exact .refl b
      · split
        · exact ⟨⟨_, rfl⟩, rfl⟩
        · exact .refl b
  · next p _ =>
    split
    · rw [takeResponse, h.get?_eq_none p.sequence]
      exact .refl b
    · split
      · exact h.takePush now span p
      · exact .refl b

/-- No request is left that could expire. -/
theorem Shut.sweep (h : b.Shut e) (now : Moment) : Idles b (b.sweep now) := by
  refine ⟨⟨b.pushes.filter fun entry => entry.2.isFresh now, ?_⟩, ?_⟩
  · rw [Board.sweep, h.pending, List.filter_nil, ← h.pending]
  · rw [Board.sweep, h.pending]
    rfl

/-- The reason given first stays, and nothing is left to fail. -/
theorem Shut.close (h : b.Shut e) (why : LinkError) : Idles b (b.close why) := by
  have hreason : some (b.closeReason.getD why) = b.closeReason := by
    rw [h.reason, Option.getD_some]
  refine ⟨⟨[], ?_⟩, ?_⟩
  · rw [Board.close, hreason, ← h.pending, ← h.listeners]
  · rw [Board.close, h.pending]
    rfl

end Shut

/-- Registering a request closes no board. -/
theorem closeReason_register (b : Board) (now : Moment) (r : Request) (timeout : Timespan)
    (respond : Slot) (listener : Option Nat) :
    (b.register now r timeout respond listener).1.closeReason = b.closeReason := by
  obtain ⟨nextSequence, pending, hboard⟩ := b.exists_registered now r timeout respond listener
  rw [hboard]

end Board

namespace Exchange

/-! ### What closes an exchange -/

/-- Sending a request registers it, and queues its frame or none. -/
theorem dispatch_cases (x : Exchange) (now : Moment) (r : Request) (timeout : Timespan)
    (listener : Option Nat) :
    ∃ board, board.closeReason = x.board.closeReason ∧
      ((x.dispatch now r timeout listener).1 = { x with slots := x.slots + 1, board } ∨
        ∃ o ordinal outbound, x.outbound.submit? o = some (ordinal, outbound) ∧
          (x.dispatch now r timeout listener).1 =
            { x with slots := x.slots + 1, board, outbound }) := by
  have hregister := x.board.closeReason_register now r timeout x.slots listener
  rw [dispatch]
  dsimp only
  split
  · exact ⟨_, hregister, Or.inl rfl⟩
  · next sequence frame _ =>
    split
    · let withdrawn := (x.board.register now r timeout x.slots listener).1.withdraw sequence
      exact ⟨withdrawn, hregister, Or.inl rfl⟩
    · next haccepted => exact ⟨_, hregister, Or.inr ⟨_, _, _, haccepted, rfl⟩⟩

/-- Sending a request closes no exchange. -/
theorem closeReason_dispatch (x : Exchange) (now : Moment) (r : Request) (timeout : Timespan)
    (listener : Option Nat) :
    (x.dispatch now r timeout listener).1.board.closeReason = x.board.closeReason := by
  obtain ⟨board, hreason, h | ⟨_, _, _, -, h⟩⟩ := x.dispatch_cases now r timeout listener
  · rw [h]
    exact hreason
  · rw [h]
    exact hreason

/-- Subscribing closes no exchange. -/
theorem closeReason_subscribe (x : Exchange) (now : Moment) (stem : String) (timeout : Timespan) :
    (x.subscribe now stem timeout).1.board.closeReason = x.board.closeReason := by
  rw [subscribe]
  split
  · rfl
  · have hdispatch := closeReason_dispatch { x with board := (x.board.addListener stem).1 } now
      (.plain .subscribe stem) timeout (some (x.board.addListener stem).2)
    dsimp only
    split
    · exact hdispatch
    · exact hdispatch
    · exact hdispatch

/-- Unsubscribing closes no exchange. -/
theorem closeReason_unsubscribe (x : Exchange) (now : Moment) (stem : String)
    (timeout : Timespan) :
    (x.unsubscribe now stem timeout).1.board.closeReason = x.board.closeReason := by
  rw [unsubscribe]
  split
  · rfl
  · exact closeReason_dispatch { x with board := x.board.removeStem stem } now
      (.plain .unsubscribe stem) timeout none

/-- Queueing a frame that is no request closes no exchange. -/
theorem closeReason_sendFrame (x : Exchange) (f : Frame) :
    (x.sendFrame f).1.board.closeReason = x.board.closeReason := by
  rcases x.sendFrame_cases f with h | ⟨_, _, -, h⟩
  · rw [h]
  · rw [h]

/-- What became of a write ends the link, fails one request, or changes nothing. -/
theorem written_cases (x : Exchange) (o : Outgoing) (result : Except FrameError Unit) :
    (∃ e, x.written o result = x.abort e) ∨
      (∃ id e, x.written o result = x.onBoard (x.board.fail id e)) ∨ x.written o result = x := by
  cases result with
  | ok _ => exact Or.inr (Or.inr rfl)
  | error e =>
    simp only [written]
    split
    · exact Or.inl ⟨_, rfl⟩
    · split
      · exact Or.inr (Or.inl ⟨_, _, rfl⟩)
      · exact Or.inr (Or.inr rfl)

/-- A step of the worker hands out what it takes off the queue, and takes note of the write. -/
theorem work_cases (x : Exchange) (result : Except FrameError Unit) :
    ∃ outbound, outbound.submitted = x.outbound.submitted ∧
      ((x.work (fun _ _ => ((), result)) ()).1 = { x with outbound } ∨
        ∃ o, (x.work (fun _ _ => ((), result)) ()).1 = { x with outbound }.written o result) := by
  cases hwaiting : x.outbound.waiting with
  | nil =>
    rw [work_of_nil _ _ hwaiting]
    exact ⟨x.outbound, rfl, Or.inl rfl⟩
  | cons entry later =>
    refine ⟨{ x.outbound with waiting := later }, rfl, ?_⟩
    cases hrejecting : x.outbound.isRejecting with
    | true =>
      rw [work_of_rejecting _ _ hwaiting hrejecting]
      exact Or.inl rfl
    | false =>
      rw [work_of_running _ _ hwaiting hrejecting]
      exact Or.inr ⟨_, rfl⟩

/-- An exchange goes from open to closed for a reason: what waited is answered with it. -/
structure Ends (x y : Exchange) (e : LinkError) : Prop where
  shut : y.board.Shut e
  log : y.log = x.log ++ x.board.pending.map fun entry => .reply entry.2.respond (.error e)

/-- Closing ends an open exchange. -/
theorem ends_close {x : Exchange} (hopen : x.board.closeReason = none) (e : LinkError) :
    Ends x (x.close e) e := by
  refine ⟨?_, rfl⟩
  have hshut := x.board.shut_close e
  rwa [hopen, Option.getD_none] at hshut

/-- A step that leaves an open exchange closed ends it. -/
theorem ends_take {x : Exchange} {step : Step} {e : LinkError}
    (hopen : x.board.closeReason = none)
    (hclosed : (x.take step).1.board.closeReason = some e) : Ends x (x.take step).1 e := by
  have stays : ∀ {y : Exchange}, y.board.closeReason = some e →
      y.board.closeReason = x.board.closeReason → Ends x y e := by
    intro y hreason hsame
    rw [hreason, hopen] at hsame
    cases hsame
  have ends : ∀ (y : Exchange) (why : LinkError), y.board = x.board → y.log = x.log →
      (y.abort why).board.closeReason = some e → Ends x (y.abort why) e := by
    intro y why hboard hlog hreason
    have hend := ends_close (x := y) (hboard ▸ hopen) why
    have hwhy : why = e := Option.some.inj (hend.shut.reason.symm.trans hreason)
    subst hwhy
    refine ⟨hend.shut, ?_⟩
    rw [← hboard, ← hlog]
    exact hend.log
  cases step with
  | request now r timeout => exact stays hclosed (x.closeReason_dispatch now r timeout none)
  | subscribe now stem timeout => exact stays hclosed (x.closeReason_subscribe now stem timeout)
  | unsubscribe now stem timeout =>
    exact stays hclosed (x.closeReason_unsubscribe now stem timeout)
  | sendFrame f => exact stays hclosed (x.closeReason_sendFrame f)
  | removeListener id | dropStream id | receive id | sweep now | closeOutbound =>
    exact stays hclosed rfl
  | collect h =>
    obtain ⟨collected, hcollect⟩ := x.exists_collected h
    exact stays hclosed (by rw [take, hcollect])
  | route now f => exact stays hclosed (x.board.closeReason_route now x.pushSpan f)
  | close why =>
    have hend := ends x why rfl rfl hclosed
    exact ⟨hend.shut, hend.log⟩
  | abort why => exact ends x why rfl rfl hclosed
  | work result =>
    obtain ⟨outbound, -, hwork | ⟨o, hwork⟩⟩ := x.work_cases result
    · rw [take, hwork] at hclosed ⊢
      exact stays hclosed rfl
    · rw [take, hwork] at hclosed ⊢
      rcases written_cases { x with outbound } o result with ⟨why, h⟩ | ⟨id, why, h⟩ | h
      · rw [h] at hclosed ⊢
        exact ends { x with outbound } why rfl rfl hclosed
      · rw [h] at hclosed ⊢
        exact stays hclosed (x.board.closeReason_fail id why)
      · rw [h] at hclosed ⊢
        exact stays hclosed rfl

/-! ### What is left to do -/

/-- An exchange goes on without sending or accepting anything. -/
structure Rests (x y : Exchange) : Prop where
  board : ∃ pushes gone, y.board = { x.board with pushes, gone }
  log : y.log = x.log
  submitted : y.outbound.submitted = x.outbound.submitted

theorem Rests.refl (x : Exchange) : Rests x x := ⟨⟨_, _, rfl⟩, rfl, rfl⟩

theorem Rests.trans {x y z : Exchange} (h : Rests x y) (h' : Rests y z) : Rests x z := by
  obtain ⟨pushes, gone, hy⟩ := h.board
  obtain ⟨pushes', gone', hz⟩ := h'.board
  refine ⟨⟨pushes', gone', ?_⟩, h'.log.trans h.log, h'.submitted.trans h.submitted⟩
  rw [hz, hy]

/-- A board stays shut. -/
theorem Rests.shut {x y : Exchange} {e : LinkError} (h : Rests x y) (hx : x.board.Shut e) :
    y.board.Shut e := by
  obtain ⟨pushes, gone, hy⟩ := h.board
  rw [hy]
  exact ⟨hx.reason, hx.pending, hx.listeners⟩

/-- An idle operation of the board changes nothing else. -/
theorem Rests.onBoard {x : Exchange} {step : Board × List Notice} (h : x.board.Idles step) :
    Rests x (x.onBoard step) := by
  obtain ⟨⟨pushes, hkept⟩, hsilent⟩ := h
  refine ⟨⟨pushes, x.board.gone, hkept⟩, ?_, rfl⟩
  rw [Exchange.onBoard, hsilent, List.append_nil]

/-- A closed exchange refuses a request with its reason; only the slot for the reply is used. -/
theorem dispatch_of_shut {x : Exchange} {e : LinkError} (hx : x.board.Shut e) (now : Moment)
    (r : Request) (timeout : Timespan) (listener : Option Nat) :
    x.dispatch now r timeout listener =
      ({ x with slots := x.slots + 1 }, .error (.failed e)) := by
  rw [dispatch, Board.register, hx.reason]

/-- A closed exchange refuses a subscription with its reason. -/
theorem subscribe_of_shut {x : Exchange} {e : LinkError} (hx : x.board.Shut e) (now : Moment)
    (stem : String) (timeout : Timespan) :
    x.subscribe now stem timeout = (x, .error (.failed e)) := by
  rw [subscribe, hx.reason]

/-- A closed exchange refuses to end a subscription, with its reason. -/
theorem unsubscribe_of_shut {x : Exchange} {e : LinkError} (hx : x.board.Shut e) (now : Moment)
    (stem : String) (timeout : Timespan) :
    x.unsubscribe now stem timeout = (x, .error (.failed e)) := by
  rw [unsubscribe, hx.reason]

/-- A closed exchange refuses a frame with its reason. -/
theorem sendFrame_of_shut {x : Exchange} {e : LinkError} (hx : x.board.Shut e) (f : Frame) :
    x.sendFrame f = (x, .error e) := by
  rw [sendFrame, hx.reason]

/-- A closed exchange rests in every step. -/
theorem rests_take {x : Exchange} {e : LinkError} (hx : x.board.Shut e) (step : Step) :
    Rests x (x.take step).1 := by
  have hclose : ∀ y : Exchange, y.board = x.board → y.log = x.log →
      y.outbound.submitted = x.outbound.submitted → ∀ why, Rests x (y.abort why) := by
    intro y hboard hlog hsubmitted why
    obtain ⟨⟨pushes, hkept⟩, hsilent⟩ := hx.close why
    rw [← hboard] at hkept hsilent
    refine ⟨⟨pushes, x.board.gone, hboard ▸ hkept⟩, ?_, hsubmitted⟩
    change y.log ++ (y.board.close why).2 = x.log
    rw [hsilent, List.append_nil, hlog]
  cases step with
  | request now r timeout =>
    rw [take, request, dispatch_of_shut hx]
    exact ⟨⟨_, _, rfl⟩, rfl, rfl⟩
  | subscribe now stem timeout =>
    rw [take, subscribe_of_shut hx]
    exact .refl x
  | unsubscribe now stem timeout =>
    rw [take, unsubscribe_of_shut hx]
    exact .refl x
  | sendFrame f =>
    rw [take, sendFrame_of_shut hx]
    exact .refl x
  | removeListener id =>
    refine ⟨⟨x.board.pushes, x.board.gone, ?_⟩, rfl, rfl⟩
    change x.board.removeListener id = x.board
    rw [Board.removeListener, hx.listeners, List.filter_nil, ← hx.listeners]
  | dropStream id | receive id | closeOutbound => exact ⟨⟨_, _, rfl⟩, rfl, rfl⟩
  | collect h =>
    obtain ⟨collected, hcollect⟩ := x.exists_collected h
    rw [take, hcollect]
    exact ⟨⟨_, _, rfl⟩, rfl, rfl⟩
  | route now f => exact .onBoard (hx.route now x.pushSpan f)
  | sweep now => exact .onBoard (hx.sweep now)
  | close why => exact .onBoard (hx.close why)
  | abort why => exact hclose x rfl rfl rfl why
  | work result =>
    obtain ⟨outbound, hsubmitted, hwork | ⟨o, hwork⟩⟩ := x.work_cases result
    · rw [take, hwork]
      exact ⟨⟨_, _, rfl⟩, rfl, hsubmitted⟩
    · rw [take, hwork]
      rcases written_cases { x with outbound } o result with ⟨why, h⟩ | ⟨id, why, h⟩ | h
      · rw [h]
        exact hclose { x with outbound } rfl rfl hsubmitted why
      · rw [h]
        have hfail : x.board.Idles (x.board.fail id why) := hx.fail id why ▸ .refl x.board
        have hrests := Rests.onBoard hfail
        exact ⟨hrests.board, hrests.log, hsubmitted⟩
      · rw [h]
        exact ⟨⟨_, _, rfl⟩, rfl, hsubmitted⟩

/-- A closed exchange rests in every run. -/
theorem rests_run {x : Exchange} {e : LinkError} (hx : x.board.Shut e) (steps : List Step) :
    Rests x (x.run steps) := by
  induction steps generalizing x with
  | nil => exact .refl x
  | cons step later ih =>
    have hstep := rests_take hx step
    exact hstep.trans (ih (hstep.shut hx))

/-! ### Runs through an end -/

/-- The reply to a handle that waits at an end is the reason, and there is no other. -/
theorem Ends.resolves {x y : Exchange} {e : LinkError} (h : Ends x y e) {known later : List Handle}
    (hx : Accounted x known) (hy : Accounted y later) {handle : Handle} (hmem : handle ∈ known)
    (hwaits : replies x.log handle.slot = []) : replies y.log handle.slot = [.error e] := by
  obtain ⟨entry, hentry, hrespond⟩ := (hx.unresolved_iff hmem).1 hwaits
  have hreply : (.error e : Reply) ∈ replies y.log handle.slot := by
    rw [h.log, replies_append, hwaits, List.nil_append]
    refine List.mem_filterMap.2 ⟨.reply entry.respond (.error e), ?_, by simp [hrespond]⟩
    exact List.mem_map.2 ⟨_, Table.mem_of_get? hentry, rfl⟩
  obtain ⟨reply, hone⟩ : ∃ reply, replies y.log handle.slot = [reply] := by
    have hlength := hy.length_replies_le handle.slot
    have hpositive := List.length_pos_of_mem hreply
    exact List.length_eq_one_iff.1 (by omega)
  rw [hone, List.mem_singleton] at hreply
  rw [hone, hreply]

theorem messages_append (log later : List Notice) (id : Nat) :
    messages (log ++ later) id = messages log id ++ messages later id :=
  List.filterMap_append

/-- Replies are no messages for listeners. -/
theorem messages_replies (entries : Table Pending) (reply : Pending → Reply) (id : Nat) :
    messages (entries.map fun entry => .reply entry.2.respond (reply entry.2)) id = [] := by
  rw [messages, List.filterMap_map]
  exact List.filterMap_eq_nil_iff.2 fun _ _ => rfl

/-- An end sends no message to a listener. -/
theorem Ends.pushes_nothing {x y : Exchange} {e : LinkError} (h : Ends x y e) (id : Nat) :
    messages y.log id = messages x.log id := by
  rw [h.log, messages_append, messages_replies _ fun _ => .error e, List.append_nil]

/-- **The first end is final.** A step closes an exchange that was open until then, for a reason;
every close and every abort of an open exchange is such a step. In whatever follows, that reason
stays, no request and no listener is on the board, every handle that waited has the reason as its
reply, and nothing else was sent since the step before. A stream holds the messages sent to it
before the end and no entry feeds it any more. Calls are refused with the reason and use up no id,
no listener and no place in the queue; so is what a call has still to dispatch when the end comes
between its listener and its request. -/
theorem first_end_is_final (policy : ShutdownPolicy) (span : Timespan) (before : List Step)
    (ending : Step) (e : LinkError) (later : List Step)
    (hopen : ((empty policy span).run before).board.closeReason = none)
    (hclosed : ((empty policy span).run (before ++ [ending])).board.closeReason = some e) :
    let x := (empty policy span).run before
    let y := (empty policy span).run (before ++ ending :: later)
    let z := (empty policy span).run (before ++ [ending])
    (∀ why, (x.close why).board.closeReason = some why ∧
      (x.abort why).board.closeReason = some why) ∧
    y.board.closeReason = some e ∧ y.board.pending = [] ∧ y.board.listeners = [] ∧
    y.log = x.log ++ x.board.pending.map (fun entry => .reply entry.2.respond (.error e)) ∧
    (∀ h ∈ (empty policy span).issued before, replies x.log h.slot = [] →
      replies y.log h.slot = [.error e]) ∧
    (∀ id, messages y.log id = messages x.log id ∧
      (y.receive id).2 = (messages x.log id).drop ((y.received.lookup id).getD 0) ∧
      ((y.receive id).1.receive id).2 = []) ∧
    y.board.nextSequence = z.board.nextSequence ∧ y.board.nextListener = z.board.nextListener ∧
    y.outbound.submitted = z.outbound.submitted ∧
    (∀ now r timeout,
      y.request now r timeout = ({ y with slots := y.slots + 1 }, .error (.failed e))) ∧
    (∀ now r timeout listener,
      y.dispatch now r timeout listener = ({ y with slots := y.slots + 1 }, .error (.failed e))) ∧
    (∀ now stem timeout, y.subscribe now stem timeout = (y, .error (.failed e))) ∧
    (∀ now stem timeout, y.unsubscribe now stem timeout = (y, .error (.failed e))) ∧
    ∀ f, y.sendFrame f = (y, .error e) := by
  intro x y z
  have hstep : z = (x.take ending).1 := by simp only [x, z, run_append, run_cons, run_nil]
  have hlater : y = z.run later := by
    rw [hstep]
    simp only [x, y, run_append, run_cons]
  have hclosed' : (x.take ending).1.board.closeReason = some e := hstep ▸ hclosed
  have hend : Ends x z e := hstep ▸ ends_take hopen hclosed'
  have hrests : Rests z y := hlater ▸ rests_run hend.shut later
  have hshut : y.board.Shut e := hrests.shut hend.shut
  obtain ⟨pushes, gone, hboard⟩ := hrests.board
  have hmessages : ∀ id, messages y.log id = messages x.log id := by
    intro id
    rw [hrests.log]
    exact hend.pushes_nothing id
  refine ⟨?_, hshut.reason, hshut.pending, hshut.listeners, hrests.log.trans hend.log, ?_, ?_,
    by rw [hboard], by rw [hboard], hrests.submitted,
    fun now r timeout => dispatch_of_shut hshut now r timeout none, dispatch_of_shut hshut,
    subscribe_of_shut hshut, unsubscribe_of_shut hshut, sendFrame_of_shut hshut⟩
  · intro why
    have hend := ends_close hopen why
    exact ⟨hend.shut.reason, hend.shut.reason⟩
  · intro h hmem hwaits
    have hx := accounted_run policy span before
    rw [hrests.log]
    exact hend.resolves hx (accounted_run policy span (before ++ [ending])) hmem hwaits
  · intro id
    refine ⟨hmessages id, ?_, ?_⟩
    · rw [← hmessages id]
      rfl
    · simp [receive]

/-- A request that waits when the link is aborted has failed for good: a response, a failing write
and another reason come too late. -/
theorem first_end_is_final_abort :
    let y := (empty .drain (.ofSeconds 1)).run
      ([.request ⟨0⟩ (.plain .get "a") (.ofSeconds 1)] ++ .abort .rejected ::
        [.route ⟨0⟩ ⟨Command.mercuryRequest, [0, 1, 0, 1, 0, 1, 0, 0]⟩,
          .work (.error .connectionClosed), .close .closed])
    y.board.closeReason = some .rejected ∧ replies y.log 0 = [.error .rejected] := by
  have h := first_end_is_final .drain (.ofSeconds 1)
    [.request ⟨0⟩ (.plain .get "a") (.ofSeconds 1)] (.abort .rejected) .rejected
    [.route ⟨0⟩ ⟨Command.mercuryRequest, [0, 1, 0, 1, 0, 1, 0, 0]⟩,
      .work (.error .connectionClosed), .close .closed] (by decide +kernel) (by decide +kernel)
  obtain ⟨-, hreason, -, -, -, hreplies, -⟩ := h
  have hissued : (empty .drain (.ofSeconds 1)).issued
      [.request ⟨0⟩ (.plain .get "a") (.ofSeconds 1)] = [⟨[0], 0⟩] := by decide +kernel
  exact ⟨hreason, hreplies ⟨[0], 0⟩ (hissued ▸ List.mem_singleton_self _) (by decide +kernel)⟩

end Exchange

end MercuryLink
