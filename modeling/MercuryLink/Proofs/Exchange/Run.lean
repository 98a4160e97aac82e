import MercuryLink.Proofs.Exchange.Settling

/-!
# Runs of an exchange

A run takes any steps in any order: calls, frames to be sent, frames that arrive, looks at the
clock, steps of the worker with any result of the write, and the two ways to end the link. What one
step does to the requests is said once, by `Effect`: it settles some of them, refuses a call, or
accepts one under an id and a slot that are new. Only an arriving frame can extend a request
instead.
-/

namespace MercuryLink.Exchange

/-- One step of a run. The worker takes a frame off the queue with any result of its write. -/
inductive Step where
  | request (now : Moment) (r : Request) (timeout : Timespan)
  | subscribe (now : Moment) (stem : String) (timeout : Timespan)
  | unsubscribe (now : Moment) (stem : String) (timeout : Timespan)
  | sendFrame (f : Frame)
  | removeListener (id : Nat)
  | dropStream (id : Nat)
  | collect (h : Handle)
  | receive (id : Nat)
  | route (now : Moment) (f : Frame)
  | sweep (now : Moment)
  | work (result : Except FrameError Unit)
  | closeOutbound
  | close (e : LinkError)
  | abort (e : LinkError)

/-- Whether a step may answer requests that no frame answers: a look at the clock, a write, or an
end of the link. -/
def Step.isEnding : Step → Bool
  | .sweep _ | .work _ | .close _ | .abort _ => true
  | _ => false

/-- Whether a step takes an arriving frame. -/
def Step.isRoute : Step → Bool
  | .route _ _ => true
  | _ => false

/-- Take a step. The outcome of a call comes with the exchange. -/
def take (x : Exchange) : Step → Exchange × Option (Outcome Handle)
  | .request now r timeout =>
    let (x, outcome) := x.request now r timeout
    (x, some outcome)
  | .subscribe now stem timeout =>
    let (x, outcome) := x.subscribe now stem timeout
    (x, some (outcome.map (·.2)))
  | .unsubscribe now stem timeout =>
    let (x, outcome) := x.unsubscribe now stem timeout
    (x, some outcome)
  | .sendFrame f => ((x.sendFrame f).1, none)
  | .removeListener id => (x.removeListener id, none)
  | .dropStream id => (x.dropStream id, none)
  | .collect h => ((x.collect h).1, none)
  | .receive id => ((x.receive id).1, none)
  | .route now f => (x.route now f, none)
  | .sweep now => ((x.sweep now).1, none)
  | .work result => ((x.work (fun _ _ => ((), result)) ()).1, none)
  | .closeOutbound => (x.closeOutbound, none)
  | .close e => (x.close e, none)
  | .abort e => (x.abort e, none)

/-- Take steps one after the other. -/
def run (x : Exchange) (steps : List Step) : Exchange :=
  steps.foldl (fun x step => (x.take step).1) x

@[simp] theorem run_nil (x : Exchange) : x.run [] = x := rfl

@[simp] theorem run_cons (x : Exchange) (step : Step) (later : List Step) :
    x.run (step :: later) = (x.take step).1.run later := rfl

/-- A run goes on where its first part ended. -/
theorem run_append (x : Exchange) (first later : List Step) :
    x.run (first ++ later) = (x.run first).run later :=
  List.foldl_append

/-- The handle that an outcome gives, if it is one. -/
def handles : Option (Outcome Handle) → List Handle
  | some (.ok h) => [h]
  | some (.error _) => []
  | none => []

/-- The handles that the calls of a run give, in order. -/
def issued (x : Exchange) : List Step → List Handle
  | [] => []
  | step :: later => handles (x.take step).2 ++ issued (x.take step).1 later

/-! ### What one step does to the requests -/

/-- An exchange goes on by an operation that settles requests. -/
structure Settled (x y : Exchange) : Prop where
  slots : y.slots = x.slots
  settles : ∃ notices, y.log = x.log ++ notices ∧ x.board.Settles (y.board, notices)

/-- An exchange goes on by an operation that extends a request. -/
structure Extended (x y : Exchange) : Prop where
  slots : y.slots = x.slots
  extension : ∃ notices, y.log = x.log ++ notices ∧ x.board.Extends (y.board, notices)

/-- The handle that the next request gets. -/
def nextHandle (x : Exchange) : Handle := ⟨.ofNat x.board.nextSequence, x.slots⟩

/-- The next request of an exchange gets an id of its own. -/
structure Ready (x : Exchange) : Prop where
  distinct : x.board.pending.Distinct
  unused : x.board.pending.get? x.nextHandle.sequence = none

/-- What a step other than an arriving frame does to the requests, by its outcome. -/
inductive Effect (x y : Exchange) : Option (Outcome Handle) → Prop where
  /-- It is no call, and settles requests. -/
  | settles (h : Settled x y) : Effect x y none
  /-- The call is refused: the requests are as before, and nobody is answered. -/
  | refuses {e : Refusal} (pending : y.board.pending = x.board.pending) (log : y.log = x.log)
    (counter : x.board.nextSequence ≤ y.board.nextSequence) (slots : x.slots ≤ y.slots) :
    Effect x y (some (.error e))
  /-- The call is accepted: its request has the next id and a new slot, and no parts yet. -/
  | accepts {entry : Pending}
    (pending : y.board.pending = x.board.pending ++ [(x.nextHandle.sequence, entry)])
    (respond : entry.respond = x.nextHandle.slot) (parts : entry.parts = []) (log : y.log = x.log)
    (counter : y.board.nextSequence = x.board.nextSequence + 1) (slots : y.slots = x.slots + 1) :
    Effect x y (some (.ok x.nextHandle))

/-- An exchange goes on without a change to its requests, its log or its counts. -/
structure Alike (x y : Exchange) : Prop where
  pending : y.board.pending = x.board.pending
  counter : y.board.nextSequence = x.board.nextSequence
  log : y.log = x.log
  slots : y.slots = x.slots

/-- An exchange goes on alike when nothing is done to it. -/
theorem Alike.refl (x : Exchange) : Alike x x := ⟨rfl, rfl, rfl, rfl⟩

/-- Where nothing changes, nothing is settled. -/
theorem Alike.settled {x y : Exchange} (h : Alike x y) : Settled x y :=
  ⟨h.slots, [], by rw [h.log, List.append_nil], .of_pending_eq h.counter h.pending rfl⟩

/-- An operation of the board that settles requests settles them on the exchange. -/
theorem Settled.onBoard {x : Exchange} {step : Board × List Notice} (h : x.board.Settles step) :
    Settled x (x.onBoard step) :=
  ⟨rfl, step.2, rfl, h⟩

/-- What became of a write settles at most the request it carried, or all of them. -/
theorem settled_written {x : Exchange} (hx : x.board.pending.Distinct) (o : Outgoing)
    (result : Except FrameError Unit) : Settled x (x.written o result) := by
  cases result with
  | ok _ => exact (Alike.refl x).settled
  | error e =>
    simp only [written]
    split
    · exact ⟨rfl, _, rfl, x.board.settles_close (.ofFrame e)⟩
    · split
      · next sequence _ => exact .onBoard (Board.settles_fail hx sequence (.ofFrame e))
      · exact (Alike.refl x).settled

/-- A step of the worker settles at most the request it carried, or all of them. -/
theorem settled_work {x : Exchange} (hx : x.board.pending.Distinct)
    (result : Except FrameError Unit) :
    Settled x (x.work (fun _ _ => ((), result)) ()).1 := by
  rw [work]
  split
  · exact (Alike.refl x).settled
  · exact Alike.settled ⟨rfl, rfl, rfl, rfl⟩
  · next o outbound _ =>
    let y : Exchange := { x with outbound }
    have hy : Settled y (y.written o result) := settled_written (x := y) hx o result
    exact ⟨hy.slots, hy.settles⟩

/-- Making a slot, registering a request and queueing its frame is refused or accepted as a
whole. -/
theorem effect_dispatch {x : Exchange} (hx : x.Ready) (now : Moment) (r : Request)
    (timeout : Timespan) (listener : Option Nat) :
    Effect x (x.dispatch now r timeout listener).1
      (some (x.dispatch now r timeout listener).2) := by
  rw [dispatch]
  dsimp only
  rw [Board.register]
  cases x.board.closeReason with
  | some e => exact .refuses rfl rfl (Nat.le_refl _) (Nat.le_succ _)
  | none =>
    dsimp only
    cases (r.toPacket (.ofNat x.board.nextSequence)).encode with
    | error e => exact .refuses rfl rfl (Nat.le_succ _) (Nat.le_succ _)
    | ok payload =>
      dsimp only
      cases now.plus? timeout with
      | none => exact .refuses rfl rfl (Nat.le_succ _) (Nat.le_succ _)
      | some deadline =>
        dsimp only
        split
        · exact .refuses (Table.erase_insert _ hx.unused) rfl (Nat.le_succ _) (Nat.le_succ _)
        · exact .accepts (Table.insert_of_get?_eq_none _ hx.unused) rfl rfl rfl rfl rfl

/-- What is done to the listeners before and after a call does not change its effect. -/
theorem Effect.congr {x x' y y' : Exchange} {outcome : Outcome Handle}
    (h : Effect x y (some outcome)) (hx : Alike x' x) (hy : Alike y y') :
    Effect x' y' (some outcome) := by
  cases h with
  | refuses pending log counter slots =>
    refine .refuses ?_ ?_ ?_ ?_
    · exact hy.pending.trans (pending.trans hx.pending)
    · exact hy.log.trans (log.trans hx.log)
    · rw [hy.counter, ← hx.counter]
      exact counter
    · rw [hy.slots, ← hx.slots]
      exact slots
  | accepts pending respond parts log counter slots =>
    have hnext : x.nextHandle = x'.nextHandle := by
      rw [nextHandle, nextHandle, hx.counter, hx.slots]
    rw [hnext]
    rw [hnext] at pending respond
    refine .accepts ?_ respond parts ?_ ?_ ?_
    · rw [hy.pending, pending, hx.pending]
    · exact hy.log.trans (log.trans hx.log)
    · rw [hy.counter, counter, hx.counter]
    · rw [hy.slots, slots, hx.slots]

/-- A subscription is refused or accepted as a whole. -/
theorem effect_subscribe {x : Exchange} (hx : x.Ready) (now : Moment) (stem : String)
    (timeout : Timespan) :
    Effect x (x.subscribe now stem timeout).1
      (some ((x.subscribe now stem timeout).2.map (·.2))) := by
  rw [subscribe]
  cases x.board.closeReason with
  | some e => exact .refuses rfl rfl (Nat.le_refl _) (Nat.le_refl _)
  | none =>
    dsimp only
    let y : Exchange := { x with board := (x.board.addListener stem).1 }
    have hy : y.Ready := ⟨hx.distinct, hx.unused⟩
    have hxy : Alike x y := ⟨rfl, rfl, rfl, rfl⟩
    have heffect := effect_dispatch hy now (.plain .subscribe stem) timeout
      (some (x.board.addListener stem).2)
    revert heffect
    generalize y.dispatch now (.plain .subscribe stem) timeout
      (some (x.board.addListener stem).2) = called
    intro heffect
    obtain ⟨z, outcome⟩ := called
    cases outcome with
    | ok h => exact heffect.congr hxy (.refl z)
    | error refusal =>
      cases refusal with
      | failed e => exact heffect.congr hxy ⟨rfl, rfl, rfl, rfl⟩
      | beyondClock => exact heffect.congr hxy ⟨rfl, rfl, rfl, rfl⟩

/-- The end of a subscription is refused or accepted as a whole. -/
theorem effect_unsubscribe {x : Exchange} (hx : x.Ready) (now : Moment) (stem : String)
    (timeout : Timespan) :
    Effect x (x.unsubscribe now stem timeout).1 (some (x.unsubscribe now stem timeout).2) := by
  rw [unsubscribe]
  cases x.board.closeReason with
  | some e => exact .refuses rfl rfl (Nat.le_refl _) (Nat.le_refl _)
  | none =>
    let y : Exchange := { x with board := x.board.removeStem stem }
    have hy : y.Ready := ⟨hx.distinct, hx.unused⟩
    exact (effect_dispatch hy now (.plain .unsubscribe stem) timeout none).congr
      ⟨rfl, rfl, rfl, rfl⟩ (.refl _)

/-- A frame that is no request leaves the requests alone. -/
theorem alike_sendFrame (x : Exchange) (f : Frame) : Alike x (x.sendFrame f).1 := by
  rcases x.sendFrame_cases f with h | ⟨_, _, -, h⟩
  · rw [h]
    exact .refl x
  · rw [h]
    exact ⟨rfl, rfl, rfl, rfl⟩

/-- Collecting a reply leaves the requests alone. -/
theorem alike_collect (x : Exchange) (h : Handle) : Alike x (x.collect h).1 := by
  obtain ⟨collected, hcollect⟩ := x.exists_collected h
  rw [hcollect]
  exact ⟨rfl, rfl, rfl, rfl⟩

/-- A step that takes no frame settles requests, refuses a call or accepts one. -/
theorem take_effect {x : Exchange} (hx : x.Ready) {step : Step} (hstep : step.isRoute = false) :
    Effect x (x.take step).1 (x.take step).2 := by
  cases step with
  | request now r timeout => exact effect_dispatch hx now r timeout none
  | subscribe now stem timeout => exact effect_subscribe hx now stem timeout
  | unsubscribe now stem timeout => exact effect_unsubscribe hx now stem timeout
  | sendFrame f => exact .settles (alike_sendFrame x f).settled
  | removeListener id => exact .settles (Alike.settled ⟨rfl, rfl, rfl, rfl⟩)
  | dropStream id => exact .settles (Alike.settled ⟨rfl, rfl, rfl, rfl⟩)
  | collect h => exact .settles (alike_collect x h).settled
  | receive id => exact .settles (Alike.settled ⟨rfl, rfl, rfl, rfl⟩)
  | route now f => cases hstep
  | sweep now => exact .settles (.onBoard (x.board.settles_sweep now))
  | work result => exact .settles (settled_work hx.distinct result)
  | closeOutbound => exact .settles (Alike.settled ⟨rfl, rfl, rfl, rfl⟩)
  | close e => exact .settles (.onBoard (x.board.settles_close e))
  | abort e => exact .settles ⟨rfl, _, rfl, x.board.settles_close e⟩

/-- An arriving frame settles requests or extends one. -/
theorem route_settled_or_extended {x : Exchange} (hx : x.Ready) (now : Moment) (f : Frame) :
    Settled x (x.route now f) ∨ Extended x (x.route now f) := by
  rcases Board.route_settles_or_extends hx.distinct now x.pushSpan f with h | h
  · exact Or.inl (.onBoard h)
  · exact Or.inr ⟨rfl, _, rfl, h⟩

/-- What any step does to the outstanding handles, by the handles it gives out. -/
inductive Move (x y : Exchange) : List Handle → Prop where
  /-- No handle is given out, and none is forgotten. -/
  | conserves {notices : List Notice} (board : x.board.Conserves (y.board, notices))
    (log : y.log = x.log ++ notices) (counter : x.board.nextSequence ≤ y.board.nextSequence)
    (slots : x.slots ≤ y.slots) : Move x y []
  /-- The next handle is given out, and its request is outstanding. -/
  | accepts (outstanding : y.board.outstanding = x.board.outstanding ++ [x.nextHandle])
    (log : y.log = x.log) (counter : y.board.nextSequence = x.board.nextSequence + 1)
    (slots : y.slots = x.slots + 1) : Move x y [x.nextHandle]

theorem Settled.move {x y : Exchange} (h : Settled x y) : Move x y [] := by
  obtain ⟨hslots, notices, hlog, hsettles⟩ := h
  exact .conserves hsettles.conserves hlog (Nat.le_of_eq hsettles.counter.symm)
    (Nat.le_of_eq hslots.symm)

theorem Extended.move {x y : Exchange} (h : Extended x y) : Move x y [] := by
  obtain ⟨hslots, notices, hlog, hextends⟩ := h
  exact .conserves hextends.conserves hlog (Nat.le_of_eq hextends.counter.symm)
    (Nat.le_of_eq hslots.symm)

theorem Effect.move {x y : Exchange} {outcome : Option (Outcome Handle)}
    (h : Effect x y outcome) : Move x y (handles outcome) := by
  cases h with
  | settles h => exact h.move
  | refuses pending log counter slots =>
    have hout : y.board.outstanding = x.board.outstanding := by
      rw [Board.outstanding, pending, Board.outstanding]
    have hboard : x.board.Conserves (y.board, []) := .of_outstanding_eq hout rfl
    exact .conserves hboard (by rw [log, List.append_nil]) counter slots
  | accepts pending respond parts log counter slots =>
    refine .accepts ?_ log counter slots
    rw [Board.outstanding, pending, List.map_append, List.map_singleton, respond]
    rfl

theorem Move.counter_le {x y : Exchange} {new : List Handle} (h : Move x y new) :
    x.board.nextSequence ≤ y.board.nextSequence := by
  cases h with
  | conserves board log counter slots => exact counter
  | accepts outstanding log counter slots =>
    rw [counter]
    exact Nat.le_succ _

theorem Move.log_prefix {x y : Exchange} {new : List Handle} (h : Move x y new) :
    x.log <+: y.log := by
  cases h with
  | conserves board log counter slots =>
    rw [log]
    exact List.prefix_append _ _
  | accepts outstanding log counter slots => exact ⟨[], by rw [log, List.append_nil]⟩

/-- Every step conserves the outstanding handles, or gives out the next one. -/
theorem take_move {x : Exchange} (hx : x.Ready) (step : Step) :
    Move x (x.take step).1 (handles (x.take step).2) := by
  by_cases hroute : step.isRoute = true
  · cases step with
    | route now f =>
      rcases route_settled_or_extended hx now f with h | h
      · exact h.move
      · exact h.move
    | _ => cases hroute
  · exact (take_effect hx (by simpa using hroute)).move

/-- Only calls, frames, looks at the clock, writes and ends send anything. -/
theorem log_take {x : Exchange} (hx : x.Ready) {step : Step} (hroute : step.isRoute = false)
    (hending : step.isEnding = false) : (x.take step).1.log = x.log := by
  have hcall : ∀ {y : Exchange} {outcome : Outcome Handle},
      Effect x y (some outcome) → y.log = x.log := by
    intro y outcome h
    cases h with
    | refuses pending log counter slots => exact log
    | accepts pending respond parts log counter slots => exact log
  cases step with
  | request now r timeout => exact hcall (effect_dispatch hx now r timeout none)
  | subscribe now stem timeout => exact hcall (effect_subscribe hx now stem timeout)
  | unsubscribe now stem timeout => exact hcall (effect_unsubscribe hx now stem timeout)
  | sendFrame f => exact (alike_sendFrame x f).log
  | collect h => exact (alike_collect x h).log
  | removeListener id | dropStream id | receive id | closeOutbound => rfl
  | route now f => cases hroute
  | sweep now | work result | close e | abort e => cases hending

end MercuryLink.Exchange
