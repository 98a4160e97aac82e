import MercuryLink.Proofs.Exchange.Closing

/-!
# The board, one use at a time

Callers, the receive loop, the clock and the worker share one board, and each holds its lock for one
use at a time. A call takes several uses, and others may come in between: a subscription adds its
listener in one, registers its request in another, and takes both back in further ones if its frame
is not queued. So the states that a board can be in are those that uses lead to in any order, and
whatever every use keeps holds in all of them. What an exchange does falls into such uses.
-/

namespace MercuryLink

namespace Board

/-- One use of a board, from taking its lock to giving it back. -/
inductive Turn where
  /-- A listener is added, unless the board is closed. -/
  | listen (stem : String)
  /-- Every listener that has an entry with exactly this stem is removed, unless the board is
  closed. -/
  | unlisten (stem : String)
  /-- A listener is removed. -/
  | removeListener (id : Nat)
  /-- Nobody reads from a listener any more. -/
  | dropStream (id : Nat)
  /-- A request is registered. -/
  | register (now : Moment) (r : Request) (timeout : Timespan) (respond : Slot)
    (listener : Option Nat)
  /-- A request is forgotten whose frame was not queued. -/
  | withdraw (sequence : SequenceId)
  /-- A request fails whose frame was not written. -/
  | fail (sequence : SequenceId) (e : LinkError)
  /-- A frame is taken. -/
  | route (now : Moment) (span : Timespan) (f : Frame)
  /-- What has expired is answered. -/
  | sweep (now : Moment)
  /-- The board is closed. -/
  | close (e : LinkError)

/-- Use a board once. -/
def turn (b : Board) : Turn → Board × List Notice
  | .listen stem => if b.isClosed then (b, []) else ((b.addListener stem).1, [])
  | .unlisten stem => if b.isClosed then (b, []) else (b.removeStem stem, [])
  | .removeListener id => (b.removeListener id, [])
  | .dropStream id => (b.dropStream id, [])
  | .register now r timeout respond listener =>
    ((b.register now r timeout respond listener).1, [])
  | .withdraw sequence => (b.withdraw sequence, [])
  | .fail sequence e => b.fail sequence e
  | .route now span f => b.route now span f
  | .sweep now => b.sweep now
  | .close e => b.close e

/-- Use a board several times; the notices of all uses come in order. -/
def turns (b : Board) : List Turn → Board × List Notice
  | [] => (b, [])
  | t :: later =>
    (((b.turn t).1.turns later).1, (b.turn t).2 ++ ((b.turn t).1.turns later).2)

/-- The uses go on where the first of them ended. -/
theorem turns_append (b : Board) (first later : List Turn) :
    b.turns (first ++ later) =
      (((b.turns first).1.turns later).1,
        (b.turns first).2 ++ ((b.turns first).1.turns later).2) := by
  induction first generalizing b with
  | nil => rfl
  | cons t first ih => simp only [List.cons_append, turns, ih, List.append_assoc]

/-- A use fails a request only with what concerns one request, and closes the board only for a
reason that may end the link. -/
def Turn.Within (ends : LinkError → Prop) : Turn → Prop
  | .fail _ e => e.isFatal = false
  | .close e => ends e
  | _ => True

/-- Whether a use takes no frame, fails no request and closes nothing. -/
def Turn.isPlain : Turn → Bool
  | .route _ _ _ | .fail _ _ | .close _ => false
  | _ => true

/-- Some uses include all that callers, the clock and the worker make of a board. The worker fails a
request only with what concerns one request, and closes the board only for what concerns the link as
a whole. -/
structure Turn.Admits (allowed : Turn → Prop) : Prop where
  plain : ∀ t, t.isPlain = true → allowed t
  fails : ∀ sequence e, e.isFatal = false → allowed (.fail sequence e)
  closes : ∀ e, e.isFatal = true → allowed (.close e)

/-- Uses that may close a board for whatever concerns the link as a whole include all of these. -/
theorem Turn.admits_within {ends : LinkError → Prop}
    (hends : ∀ e : LinkError, e.isFatal = true → ends e) : Admits (·.Within ends) := by
  refine ⟨?_, fun _ _ hlocal => hlocal, hends⟩
  intro t ht
  cases t with
  | route now span f | fail sequence e | close e => cases ht
  | _ => trivial

end Board

namespace Exchange

/-- An exchange goes on by these uses of its board. -/
structure Turns (uses : List Board.Turn) (x y : Exchange) : Prop where
  board : y.board = (x.board.turns uses).1
  log : y.log = x.log ++ (x.board.turns uses).2

section Turns

variable {first later : List Board.Turn} {x y z : Exchange}

/-- What leaves the board and the log alone uses nothing. -/
theorem Turns.of_eq (hboard : y.board = x.board) (hlog : y.log = x.log) : Turns [] x y :=
  ⟨hboard, hlog.trans (List.append_nil _).symm⟩

theorem Turns.append (h : Turns first x y) (h' : Turns later y z) : Turns (first ++ later) x z where
  board := by rw [h'.board, h.board, Board.turns_append]
  log := by rw [h'.log, h.log, h.board, Board.turns_append, List.append_assoc]

/-- No use leaves the board and the log alone. -/
theorem Turns.unused (h : Turns [] x y) : y.board = x.board ∧ y.log = x.log :=
  ⟨h.board, h.log.trans (List.append_nil _)⟩

/-- A single use is all that happens to the board and the log. -/
theorem Turns.single {t : Board.Turn} (h : Turns [t] x y) :
    y.board = (x.board.turn t).1 ∧ y.log = x.log ++ (x.board.turn t).2 := by
  refine ⟨h.board, ?_⟩
  rw [h.log, Board.turns, Board.turns, List.append_nil]

/-- A single use. -/
theorem Turns.turn {t : Board.Turn} (hboard : y.board = (x.board.turn t).1)
    (hlog : y.log = x.log ++ (x.board.turn t).2) : Turns [t] x y where
  board := hboard
  log := by rw [hlog, Board.turns, Board.turns, List.append_nil]

end Turns

/-- An exchange goes on by some uses of its board, and partial pushes wait as long as before. -/
structure Uses (allowed : Board.Turn → Prop) (x y : Exchange) : Prop where
  turns : ∃ uses, (∀ t ∈ uses, allowed t) ∧ Turns uses x y
  span : y.pushSpan = x.pushSpan

section Uses

variable {allowed : Board.Turn → Prop} {x y z : Exchange}

theorem Uses.of_eq (hboard : y.board = x.board) (hlog : y.log = x.log)
    (hspan : y.pushSpan = x.pushSpan) : Uses allowed x y :=
  ⟨⟨[], List.forall_mem_nil _, .of_eq hboard hlog⟩, hspan⟩

theorem Uses.refl (x : Exchange) : Uses allowed x x := .of_eq rfl rfl rfl

theorem Uses.trans (h : Uses allowed x y) (h' : Uses allowed y z) : Uses allowed x z := by
  obtain ⟨first, hfirst, hturns⟩ := h.turns
  obtain ⟨later, hlater, hturns'⟩ := h'.turns
  refine ⟨⟨first ++ later, ?_, hturns.append hturns'⟩, h'.span.trans h.span⟩
  intro t ht
  exact (List.mem_append.1 ht).elim (hfirst t) (hlater t)

/-- A single use. -/
theorem Uses.turn {t : Board.Turn} (ht : allowed t) (hboard : y.board = (x.board.turn t).1)
    (hlog : y.log = x.log ++ (x.board.turn t).2) (hspan : y.pushSpan = x.pushSpan) :
    Uses allowed x y := by
  refine ⟨⟨[t], ?_, .turn hboard hlog⟩, hspan⟩
  intro t' ht'
  rwa [List.mem_singleton.1 ht']

/-- A single use that sends nothing. -/
theorem Uses.silent (t : Board.Turn) (ht : allowed t) {board : Board}
    (hturn : x.board.turn t = (board, [])) (hboard : y.board = board) (hlog : y.log = x.log)
    (hspan : y.pushSpan = x.pushSpan) : Uses allowed x y := by
  refine .turn ht ?_ ?_ hspan
  · rw [hturn, hboard]
  · rw [hturn, hlog, List.append_nil]

theorem uses_route {now : Moment} {f : Frame} (x : Exchange)
    (hroute : allowed (.route now x.pushSpan f)) : Uses allowed x (x.route now f) :=
  .turn hroute rfl rfl rfl

theorem uses_close {e : LinkError} (he : allowed (.close e)) (x : Exchange) :
    Uses allowed x (x.close e) :=
  .turn he rfl rfl rfl

theorem uses_abort {e : LinkError} (he : allowed (.close e)) (x : Exchange) :
    Uses allowed x (x.abort e) :=
  (uses_close he x).trans (.of_eq rfl rfl rfl)

/-- Queueing a frame does not use the board. -/
theorem uses_sendFrame (x : Exchange) (f : Frame) : Uses allowed x (x.sendFrame f).1 := by
  rcases x.sendFrame_cases f with h | ⟨_, _, -, h⟩
  · rw [h]
    exact .refl x
  · rw [h]
    exact .of_eq rfl rfl rfl

/-- Collecting a reply does not use the board. -/
theorem uses_collect (x : Exchange) (h : Handle) : Uses allowed x (x.collect h).1 := by
  obtain ⟨collected, hcollect⟩ := x.exists_collected h
  rw [hcollect]
  exact .of_eq rfl rfl rfl

/-- Accepting no more frames does not use the board. -/
theorem uses_closeOutbound (x : Exchange) : Uses allowed x x.closeOutbound := .of_eq rfl rfl rfl

/-! ### Callers, the clock and the worker -/

section Admits

variable (h : Board.Turn.Admits allowed)

include h

/-- Sending a request registers it, and withdraws it if its frame is not queued. -/
theorem uses_dispatch (x : Exchange) (now : Moment) (r : Request) (timeout : Timespan)
    (listener : Option Nat) : Uses allowed x (x.dispatch now r timeout listener).1 := by
  have hregister : Uses allowed x
      { x with
        slots := x.slots + 1
        board := (x.board.register now r timeout x.slots listener).1 } :=
    .silent (.register now r timeout x.slots listener) (h.plain _ rfl) rfl rfl rfl rfl
  rw [dispatch]
  dsimp only
  split
  · exact hregister
  · next sequence frame _ =>
    split
    · exact hregister.trans (.silent (.withdraw sequence) (h.plain _ rfl) rfl rfl rfl rfl)
    · exact hregister.trans (.of_eq rfl rfl rfl)

/-- A subscription adds its listener, sends its request, and removes the listener or gives up its
stream if that fails. -/
theorem uses_subscribe (x : Exchange) (now : Moment) (stem : String) (timeout : Timespan) :
    Uses allowed x (x.subscribe now stem timeout).1 := by
  rw [subscribe]
  split
  · exact .refl x
  · next hopen =>
    have hlisten : x.board.turn (.listen stem) = ((x.board.addListener stem).1, []) := by
      rw [Board.turn, Board.isClosed, hopen]
      rfl
    have hadded : Uses allowed x { x with board := (x.board.addListener stem).1 } :=
      .silent (.listen stem) (h.plain _ rfl) hlisten rfl rfl rfl
    have hsent := hadded.trans (uses_dispatch h _ now (.plain .subscribe stem) timeout
      (some (x.board.addListener stem).2))
    dsimp only
    split
    · exact hsent
    · exact hsent.trans (.silent (.removeListener _) (h.plain _ rfl) rfl rfl rfl rfl)
    · exact hsent.trans (.silent (.dropStream _) (h.plain _ rfl) rfl rfl rfl rfl)

/-- The end of a subscription removes its listeners and sends its request. -/
theorem uses_unsubscribe (x : Exchange) (now : Moment) (stem : String) (timeout : Timespan) :
    Uses allowed x (x.unsubscribe now stem timeout).1 := by
  rw [unsubscribe]
  split
  · exact .refl x
  · next hopen =>
    have hunlisten : x.board.turn (.unlisten stem) = (x.board.removeStem stem, []) := by
      rw [Board.turn, Board.isClosed, hopen]
      rfl
    have hremoved : Uses allowed x { x with board := x.board.removeStem stem } :=
      .silent (.unlisten stem) (h.plain _ rfl) hunlisten rfl rfl rfl
    exact hremoved.trans (uses_dispatch h _ now (.plain .unsubscribe stem) timeout none)

theorem uses_removeListener (x : Exchange) (id : Nat) : Uses allowed x (x.removeListener id) :=
  .silent (.removeListener id) (h.plain _ rfl) rfl rfl rfl rfl

theorem uses_dropStream (x : Exchange) (id : Nat) : Uses allowed x (x.dropStream id) :=
  .silent (.dropStream id) (h.plain _ rfl) rfl rfl rfl rfl

theorem uses_sweep (x : Exchange) (now : Moment) : Uses allowed x (x.sweep now).1 :=
  .turn (t := .sweep now) (h.plain _ rfl) rfl rfl rfl

/-- A write that fails ends the link for a reason that concerns it as a whole, or fails the request
that was written. -/
theorem uses_written (x : Exchange) (o : Outgoing) (result : Except FrameError Unit) :
    Uses allowed x (x.written o result) := by
  cases result with
  | ok _ => exact .refl x
  | error e =>
    simp only [written]
    split
    · next hfatal => exact uses_abort (h.closes _ hfatal) x
    · next hlocal =>
      split
      · next sequence _ => exact .turn (h.fails sequence _ (by simpa using hlocal)) rfl rfl rfl
      · exact .refl x

/-- The worker uses the board only to note how a write went. -/
theorem uses_work {ω : Type} (write : ω → Frame → ω × Except FrameError Unit) (x : Exchange)
    (sink : ω) : Uses allowed x (x.work write sink).1 := by
  rw [work]
  split
  · exact .refl x
  · exact .of_eq rfl rfl rfl
  · next o outbound _ =>
    have hqueue : Uses allowed x { x with outbound } := .of_eq rfl rfl rfl
    exact hqueue.trans (uses_written h _ o _)

end Admits

end Uses

/-! ### Any step -/

/-- An exchange goes on by uses of its board, and closes it only for some reasons. -/
def Goes (ends : LinkError → Prop) (x y : Exchange) : Prop :=
  ∃ turns, (∀ t ∈ turns, t.Within ends) ∧ y.board = (x.board.turns turns).1 ∧
    y.log = x.log ++ (x.board.turns turns).2

section Goes

variable {ends : LinkError → Prop} {x y z : Exchange}

theorem Uses.goes (h : Uses (·.Within ends) x y) : Goes ends x y := by
  obtain ⟨uses, hwithin, hturns⟩ := h.turns
  exact ⟨uses, hwithin, hturns.board, hturns.log⟩

theorem Goes.refl (x : Exchange) : Goes ends x x := (Uses.refl x).goes

theorem Goes.trans (h : Goes ends x y) (h' : Goes ends y z) : Goes ends x z := by
  obtain ⟨first, hfirst, hboard, hlog⟩ := h
  obtain ⟨later, hlater, hboard', hlog'⟩ := h'
  have hturns : Turns (first ++ later) x z := Turns.append ⟨hboard, hlog⟩ ⟨hboard', hlog'⟩
  refine ⟨first ++ later, ?_, hturns.board, hturns.log⟩
  intro t ht
  exact (List.mem_append.1 ht).elim (hfirst t) (hlater t)

/-- Every step falls into uses of the board, where any reason may end the link. -/
theorem uses_take (hends : ∀ e, ends e) (x : Exchange) (step : Step) :
    Uses (·.Within ends) x (x.take step).1 := by
  have h : Board.Turn.Admits (·.Within ends) := Board.Turn.admits_within fun e _ => hends e
  cases step with
  | request now r timeout => exact uses_dispatch h x now r timeout none
  | subscribe now stem timeout => exact uses_subscribe h x now stem timeout
  | unsubscribe now stem timeout => exact uses_unsubscribe h x now stem timeout
  | sendFrame f => exact uses_sendFrame x f
  | removeListener id => exact uses_removeListener h x id
  | dropStream id => exact uses_dropStream h x id
  | collect handle => exact uses_collect x handle
  | receive id => exact .of_eq rfl rfl rfl
  | route now f => exact uses_route x trivial
  | sweep now => exact uses_sweep h x now
  | work result => exact uses_work h _ x ()
  | closeOutbound => exact uses_closeOutbound x
  | close e => exact uses_close (hends e) x
  | abort e => exact uses_abort (hends e) x

/-- A run of an exchange falls into uses of its board. -/
theorem goes_run (hends : ∀ e, ends e) (x : Exchange) (steps : List Step) :
    Goes ends x (x.run steps) := by
  induction steps generalizing x with
  | nil => exact .refl x
  | cons step later ih => exact (uses_take hends x step).goes.trans (ih _)

end Goes

end Exchange

end MercuryLink
