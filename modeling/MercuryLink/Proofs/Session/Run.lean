import MercuryLink.Proofs.Exchange.Queueing
import MercuryLink.Proofs.Stream.Sending
import MercuryLink.Mercury.Session

/-!
# Runs of a session

Callers, the receive loop, the clock and the worker of a session act in any order. A step is what
one of them does before another has its turn: so the receive loop takes one frame at a time, or
fails, and closing a session and ending its link fall into their parts, which are also steps of
their own. One step takes place while another is under way: the end of the link, which the receive
loop may bring about while the worker is writing a frame.

What a step does to the stream is said once, by `Effect`: it leaves the stream and what is queued
for it alone, save for frames queued behind, or the worker turns away the first frame that waits or
sends it.
-/

namespace MercuryLink.Session

/-- One step of a run. -/
inductive Step where
  /-- Something is asked of the session. -/
  | ask (a : Ask)
  /-- The frame of a call is queued that was let in before. -/
  | enqueue (o : Outgoing)
  /-- A call is finished, if its reply has come. -/
  | finish (c : Call)
  /-- Messages are taken. -/
  | messages (listener : Nat)
  /-- A stream of messages is dropped. -/
  | dropStream (listener : Nat)
  /-- Something arrives. -/
  | receive (a : Arrival)
  /-- A single frame is taken of what arrives. -/
  | handle (f : Frame)
  /-- A failure ends the receiving, and the link. -/
  | fail (e : FrameError)
  /-- The clock goes on. -/
  | elapse (span : Timespan)
  /-- The worker takes the oldest frame that is queued. -/
  | work
  /-- The worker does so, and a failure ends the link after so many of its calls to the stream. -/
  | cut (calls : Nat) (e : FrameError)
  /-- The board is closed. -/
  | closeBoard (e : LinkError)
  /-- No more frames are accepted. -/
  | closeOutbound
  /-- The stream is shut down. -/
  | shutDown
  /-- The session is closed, without anything in between. -/
  | close

/-- Let the link end while the worker is writing: the stream answers so many calls as it would
have, and then fails. -/
def cut (s : Session) (calls : Nat) (e : FrameError) : Session :=
  match s.exchange.outbound.next? with
  | some (.run _ o, outbound) =>
    let writes := s.outlet.sink.writes.take calls ++ [.fault brokenPipe]
    let (outlet, result) := { s.outlet with sink.writes := writes }.send o.frame
    let x := ({ s.exchange with outbound }.abort (.ofFrame e)).written o result
    { s with exchange := x, outlet := severed outlet x, receiving := false }
  | _ => s.work.fail e

/-- Take a step. -/
def take (s : Session) : Step → Session
  | .ask a => (s.ask a).1
  | .enqueue o =>
    match s.exchange.outbound.submit? o with
    | none => s
    | some (_, outbound) => s.withExchange { s.exchange with outbound }
  | .finish c => (s.finish c).1
  | .messages listener => (s.messages listener).1
  | .dropStream listener => s.dropStream listener
  | .receive a => s.receive a
  | .handle f => s.handle f
  | .fail e => s.fail e
  | .elapse span => s.elapse span
  | .work => s.work
  | .cut calls e => s.cut calls e
  | .closeBoard e => s.withExchange (s.exchange.close e)
  | .closeOutbound => s.withExchange s.exchange.closeOutbound
  | .shutDown => { s with outlet.sink := s.outlet.sink.sever brokenPipe }
  | .close => s.close

/-- Take steps one after the other. -/
def run (s : Session) (steps : List Step) : Session := steps.foldl take s

/-- The frames that are queued, oldest first. -/
def queued (s : Session) : List Frame := s.exchange.outbound.waiting.map (·.2.frame)

/-- The frames that a run submits, in order: those that each step leaves in the queue behind the
ones that were there before. -/
def submissions (s : Session) : List Step → List Frame
  | [] => []
  | step :: later =>
    (s.take step).queued.drop s.queued.length ++ submissions (s.take step) later

/-! ### What a step does to the stream -/

/-- A session goes on without the worker: nothing is written, and frames may be queued. -/
structure Quiet (s s' : Session) (new : List (Nat × Outgoing)) : Prop where
  outlet : s.outlet.Rests s'.outlet
  queues : s.exchange.Queues s'.exchange new

/-- The link has ended for good: the board, the queue and the stream are closed. -/
structure Ended (s : Session) : Prop where
  board : s.exchange.isClosed = true
  queue : s.exchange.outbound.closed = true
  stream : s.outlet.sink.broken.isSome = true

/-- A session goes on, and some frames are submitted. -/
inductive Effect (s s' : Session) : List Frame → Prop where
  /-- Nothing is written. -/
  | rests {new : List (Nat × Outgoing)} (quiet : Quiet s s' new) :
    Effect s s' (new.map (·.2.frame))
  /-- The first frame is turned away. -/
  | turnsAway {first : Nat × Outgoing} (outlet : s.outlet.Rests s'.outlet)
    (queue : s.exchange.outbound.Shrinks s'.exchange.outbound first)
    (closed : s.exchange.isClosed = true → s'.exchange.isClosed = true)
    (rejecting : s.exchange.outbound.isRejecting = true) : Effect s s' []
  /-- The first frame is sent; a failure other than for its size ends the link. -/
  | sends {first : Nat × Outgoing} {result : Except FrameError Unit}
    (outlet : s.outlet.Sends first.2.frame s'.outlet result)
    (queue : s.exchange.outbound.Shrinks s'.exchange.outbound first)
    (closed : s.exchange.isClosed = true → s'.exchange.isClosed = true)
    (running : s.exchange.outbound.isRejecting = false)
    (ends : ∀ e, result = .error e → e.isTooLarge = false → s'.Ended) : Effect s s' []

/-- A session goes on by one effect, or by several that submit nothing. -/
inductive Effects (s : Session) : Session → List Frame → Prop where
  | one {s' : Session} {new : List Frame} (effect : Effect s s' new) : Effects s s' new
  | more {s' s'' : Session} (first : Effects s s' []) (effect : Effect s' s'' []) : Effects s s'' []

theorem Quiet.refl (s : Session) : Quiet s s [] := ⟨.refl _, .refl _⟩

theorem Quiet.trans {s s' s'' : Session} {new new' : List (Nat × Outgoing)} (h : Quiet s s' new)
    (h' : Quiet s' s'' new') : Quiet s s'' (new ++ new') :=
  ⟨h.outlet.trans h'.outlet, h.queues.trans h'.queues⟩

/-- New frames are queued behind the others. -/
theorem queued_of_grows {s s' : Session} {new : List (Nat × Outgoing)}
    (h : s.exchange.outbound.Grows s'.exchange.outbound new) :
    s'.queued = s.queued ++ new.map (·.2.frame) := by
  rw [queued, queued, h.waiting, List.map_append]

/-- What is taken off the queue was its first frame. -/
theorem queued_of_shrinks {s s' : Session} {first : Nat × Outgoing}
    (h : s.exchange.outbound.Shrinks s'.exchange.outbound first) :
    s.queued = first.2.frame :: s'.queued := by
  rw [queued, queued, h.waiting, List.map_cons]

/-- Where nothing is submitted, what is queued afterwards was queued before. -/
theorem Effect.queued_suffix {s s' : Session} (h : Effect s s' []) : s'.queued <:+ s.queued := by
  generalize hnew : ([] : List Frame) = new at h
  cases h with
  | @rests new quiet =>
    have hsame : s'.queued = s.queued := by
      rw [queued_of_grows quiet.queues.outbound, ← hnew, List.append_nil]
    exact hsame ▸ List.suffix_refl _
  | turnsAway outlet queue =>
    rw [queued_of_shrinks queue]
    exact List.suffix_cons _ _
  | sends outlet queue =>
    rw [queued_of_shrinks queue]
    exact List.suffix_cons _ _

/-- The frames submitted are those left behind what was queued before. -/
theorem Effects.new_eq {s s' : Session} {new : List Frame} (h : Effects s s' new) :
    s'.queued.drop s.queued.length = new := by
  have hsuffix : ∀ {t : Session}, t.queued <:+ s.queued → t.queued.drop s.queued.length = [] :=
    fun h => List.drop_of_length_le h.length_le
  have hmore : ∀ {t : Session} {new : List Frame}, Effects s t new → new = [] →
      t.queued <:+ s.queued := by
    intro t new h
    induction h with
    | one effect => exact fun hnew => (hnew ▸ effect).queued_suffix
    | more first effect ih => exact fun _ => effect.queued_suffix.trans (ih rfl)
  cases h with
  | more first effect => exact hsuffix (effect.queued_suffix.trans (hmore first rfl))
  | one effect =>
    cases effect with
    | rests quiet =>
      rw [queued_of_grows quiet.queues.outbound]
      exact List.drop_left
    | turnsAway outlet queue closed rejecting =>
      exact hsuffix (Effect.turnsAway outlet queue closed rejecting).queued_suffix
    | sends outlet queue closed running ends =>
      exact hsuffix (Effect.sends outlet queue closed running ends).queued_suffix

/-- No effect changes the largest payload that is sent. -/
theorem Effect.limit_eq {s s' : Session} {new : List Frame} (h : Effect s s' new) :
    s'.outlet.limit = s.outlet.limit := by
  cases h with
  | rests quiet => exact quiet.outlet.limit
  | turnsAway outlet => exact outlet.limit
  | sends outlet =>
    cases outlet with
    | refused large rests => exact rests.limit
    | exhausted fits full rests => exact rests.limit
    | broken fits split puts => exact puts.limit
    | whole fits sound puts => exact puts.limit

/-! ### What calls and arrivals fall into -/

/-- Finishing a call collects its reply, and then removes the listener of a subscription that has
failed. -/
theorem finish_cases (s : Session) (c : Call) :
    let collected := s.withExchange (s.exchange.collect c.handle).1
    (s.finish c).1 = collected ∨ ∃ listener stem h, c = .subscribe listener stem h ∧
      (s.finish c).1 = collected.withExchange (collected.exchange.removeListener listener) := by
  rw [finish]
  generalize s.exchange.collect c.handle = found
  obtain ⟨x, reply⟩ := found
  cases reply with
  | none => exact Or.inl rfl
  | some reply =>
    cases c with
    | request h | unsubscribe h => exact Or.inl rfl
    | subscribe listener stem h =>
      simp only [conclude]
      split
      · exact Or.inl rfl
      · exact Or.inr ⟨listener, stem, h, rfl, rfl⟩

/-- What arrives is ignored, ends the receiving or the link, or brings bytes. -/
theorem receive_cases (s : Session) (a : Arrival) :
    s.receive a = s ∨ s.receive a = { s with receiving := false } ∨
      (∃ e, e.isTooLarge = false ∧ s.receive a = s.fail e) ∨
      ∃ chunk, s.receive a = s.takeBytes chunk := by
  rw [receive.eq_def]
  split
  · exact Or.inl rfl
  · split
    · exact Or.inr (Or.inr (Or.inl ⟨_, rfl, rfl⟩))
    · exact Or.inr (Or.inr (Or.inr ⟨_, rfl⟩))
    · rw [takeFault]
      split
      · exact Or.inl rfl
      · split
        · split
          · exact Or.inr (Or.inl rfl)
          · exact Or.inl rfl
        · exact Or.inr (Or.inr (Or.inl ⟨_, rfl, rfl⟩))

/-! ### Without the worker -/

/-- Shutting the stream down writes nothing. -/
theorem rests_severed (o : Outlet) (x : Exchange) : o.Rests (severed o x) := by
  rw [severed]
  split
  · exact ⟨rfl, rfl, rfl, fun _ => rfl⟩
  · exact .refl o

/-- An exchange that has ended the link leaves no stream to write to. -/
theorem broken_severed (o : Outlet) {x : Exchange} (h : x.severed = true) :
    (severed o x).sink.broken.isSome = true := by
  rw [severed, if_pos h]
  rfl

section Quiet

variable {s : Session}

/-- What the exchange queues is all that is queued. -/
theorem quiet_withExchange {x : Exchange} {new : List (Nat × Outgoing)}
    (h : s.exchange.Queues x new) : Quiet s (s.withExchange x) new :=
  ⟨rests_severed _ _, h⟩

/-- Asking queues at most the frame of a request. -/
theorem quiet_ask (s : Session) (a : Ask) : ∃ new, Quiet s (s.ask a).1 new := by
  cases a with
  | request r timeout =>
    obtain ⟨new, h⟩ := s.exchange.queues_dispatch s.now r timeout none
    exact ⟨new, quiet_withExchange h⟩
  | subscribe stem =>
    obtain ⟨new, h⟩ := s.exchange.queues_subscribe s.now stem s.settings.subscribeSpan
    exact ⟨new, quiet_withExchange h⟩
  | unsubscribe stem =>
    obtain ⟨new, h⟩ := s.exchange.queues_unsubscribe s.now stem s.settings.subscribeSpan
    exact ⟨new, quiet_withExchange h⟩

/-- Finishing a call queues nothing. -/
theorem quiet_finish (s : Session) (c : Call) : Quiet s (s.finish c).1 [] := by
  have hcollect : Quiet s (s.withExchange (s.exchange.collect c.handle).1) [] :=
    quiet_withExchange (s.exchange.queues_collect c.handle)
  rcases s.finish_cases c with h | ⟨listener, -, -, -, h⟩
  · rwa [h]
  · rw [h]
    exact hcollect.trans (quiet_withExchange (.of_reason (.refl _) rfl))

/-- A frame that is taken queues at most its answer. -/
theorem quiet_handle (s : Session) (f : Frame) : ∃ new, Quiet s (s.handle f) new := by
  rw [handle]
  split
  · obtain ⟨new, h⟩ := s.exchange.queues_sendFrame ⟨Command.pong, f.payload⟩
    exact ⟨new, quiet_withExchange h⟩
  · split
    · exact ⟨[], .refl _, .refl _⟩
    · split
      · exact ⟨[], quiet_withExchange (s.exchange.queues_route s.now f)⟩
      · exact ⟨[], .refl s⟩

/-- A failure queues nothing. -/
theorem quiet_fail (s : Session) (e : FrameError) : Quiet s (s.fail e) [] :=
  ⟨rests_severed s.outlet (s.exchange.abort (.ofFrame e)), s.exchange.queues_abort (.ofFrame e)⟩

/-- Frames that are taken queue at most their answers. -/
theorem quiet_handleAll (s : Session) (frames : List Frame) :
    ∃ new, Quiet s (frames.foldl handle s) new := by
  induction frames generalizing s with
  | nil => exact ⟨[], .refl s⟩
  | cons f later ih =>
    obtain ⟨new, h⟩ := s.quiet_handle f
    obtain ⟨new', h'⟩ := ih (s.handle f)
    exact ⟨_, h.trans h'⟩

/-- What arrives queues at most answers. -/
theorem quiet_receive (s : Session) (a : Arrival) : ∃ new, Quiet s (s.receive a) new := by
  rcases s.receive_cases a with h | h | ⟨e, -, h⟩ | ⟨chunk, h⟩
  · rw [h]
    exact ⟨[], .refl s⟩
  · rw [h]
    exact ⟨[], .refl _, .refl _⟩
  · rw [h]
    exact ⟨[], s.quiet_fail e⟩
  · rw [h, takeBytes]
    generalize s.opener.drain (s.buffer ++ chunk) = drained
    obtain ⟨new, h⟩ :=
      quiet_handleAll { s with opener := drained.opener, buffer := drained.rest } drained.frames
    have h : Quiet s _ new := ⟨h.outlet, h.queues⟩
    split
    · exact ⟨_, h⟩
    · exact ⟨_, h.trans (quiet_fail _ _)⟩

/-- The clock queues nothing. -/
theorem quiet_elapse (s : Session) (span : Timespan) : Quiet s (s.elapse span) [] := by
  simp only [elapse]
  split
  · exact ⟨.refl _, .refl _⟩
  · exact ⟨rests_severed _ _, s.exchange.queues_sweep _⟩

end Quiet

/-! ### The worker -/

/-- Noting how a frame was sent ends the link if the sending has failed, but not if the frame was
too large. What was done to the exchange in the meantime is nothing, or an end of the link. -/
theorem effect_written {s s' : Session} {first : Nat × Outgoing} {later : List (Nat × Outgoing)}
    {outlet : Outlet} {result : Except FrameError Unit} {x : Exchange}
    (hwaiting : s.exchange.outbound.waiting = first :: later)
    (hrunning : s.exchange.outbound.isRejecting = false)
    (hsends : s.outlet.Sends first.2.frame outlet result)
    (hx : Exchange.Queues { s.exchange with outbound.waiting := later } x [])
    (hexchange : s'.exchange = x.written first.2 result)
    (houtlet : s'.outlet = severed outlet s'.exchange) : Effect s s' [] := by
  have hwritten := hx.trans (x.queues_written first.2 result)
  rw [← hexchange] at hwritten
  have htaken : s.exchange.outbound.Shrinks { s.exchange.outbound with waiting := later } first :=
    ⟨hwaiting, rfl, rfl, id⟩
  refine .sends (houtlet ▸ hsends.congr (.refl _) (rests_severed _ _))
    (htaken.trans hwritten.outbound) hwritten.closed hrunning ?_
  rintro e rfl hkind
  rw [Exchange.written_error _ _ hkind] at hexchange
  refine ⟨?_, ?_, ?_⟩
  · rw [hexchange]
    rfl
  · rw [hexchange]
    rfl
  · rw [houtlet]
    exact broken_severed _ (by rw [hexchange]; rfl)

/-- A step of the worker. -/
theorem effect_work {s : Session} (hlimit : s.outlet.limit ≤ Frame.maxPayload) :
    Effect s s.work [] := by
  cases hwaiting : s.exchange.outbound.waiting with
  | nil =>
    simp only [work, Exchange.work_of_nil _ _ hwaiting]
    exact .rests (quiet_withExchange (.refl _))
  | cons first later =>
    cases hrejecting : s.exchange.outbound.isRejecting with
    | true =>
      simp only [work, Exchange.work_of_rejecting _ _ hwaiting hrejecting]
      exact .turnsAway (rests_severed _ _) ⟨hwaiting, rfl, rfl, id⟩ id hrejecting
    | false =>
      simp only [work, Exchange.work_of_running _ _ hwaiting hrejecting]
      exact effect_written hwaiting hrejecting (Outlet.sends_send hlimit first.2.frame) (.refl _) rfl rfl

/-- An effect that submits nothing, and then a quiet one. -/
theorem Effects.quiet {s s' s'' : Session} (h : Effects s s' []) (h' : Quiet s' s'' []) :
    Effects s s'' [] :=
  .more h (.rests h')

/-- A step of the worker during which the link ends. -/
theorem effects_cut {s : Session} (hlimit : s.outlet.limit ≤ Frame.maxPayload) (calls : Nat)
    (e : FrameError) : Effects s (s.cut calls e) [] := by
  have hafter : Effects s (s.work.fail e) [] := (Effects.one (effect_work hlimit)).quiet
    (s.work.quiet_fail e)
  cases hwaiting : s.exchange.outbound.waiting with
  | nil =>
    simp only [cut, WorkQueue.next?_of_nil hwaiting]
    exact hafter
  | cons first later =>
    cases hrejecting : s.exchange.outbound.isRejecting with
    | true =>
      simp only [cut, WorkQueue.next?_of_cons hwaiting, hrejecting, if_true]
      exact hafter
    | false =>
      simp only [cut, WorkQueue.next?_of_cons hwaiting, hrejecting, Bool.false_eq_true, if_false]
      let o : Outlet :=
        { s.outlet with
          sink.writes := s.outlet.sink.writes.take calls ++ [.fault brokenPipe] }
      have ho : s.outlet.Rests o := ⟨rfl, rfl, rfl, id⟩
      have hlimit : o.limit ≤ Frame.maxPayload := hlimit
      have hsends := (Outlet.sends_send hlimit first.2.frame).congr ho (.refl _)
      exact .one (effect_written hwaiting hrejecting hsends
        (Exchange.queues_abort _ (.ofFrame e)) rfl rfl)

/-- Any number of steps of the worker. -/
theorem effects_workSteps {s s' : Session} (n : Nat) (h : Effects s s' [])
    (hlimit : s'.outlet.limit ≤ Frame.maxPayload) : Effects s (workSteps n s') [] := by
  induction n generalizing s' with
  | zero => exact h
  | succ n ih =>
    have hwork := effect_work hlimit
    exact ih (.more h hwork) (hwork.limit_eq ▸ hlimit)

/-- Closing a session submits nothing. -/
theorem effects_close {s : Session} (hlimit : s.outlet.limit ≤ Frame.maxPayload) :
    Effects s s.close [] := by
  rw [close]
  split
  · exact .one (.rests (.refl s))
  · let t : Session := { s with closed := true }
    have ht : Quiet s t [] := ⟨.refl _, .refl _⟩
    have hboard := ht.trans (quiet_withExchange (t.exchange.queues_close .closed))
    have hqueue := hboard.trans (quiet_withExchange (t.withExchange _).exchange.queues_closeOutbound)
    exact (effects_workSteps _ (.one (.rests hqueue)) (hqueue.outlet.limit ▸ hlimit)).quiet
      (quiet_fail _ _)

/-- Every step has one of these effects, or several that submit nothing. -/
theorem take_effects {s : Session} (hlimit : s.outlet.limit ≤ Frame.maxPayload) (step : Step) :
    Effects s (s.take step) ((s.take step).queued.drop s.queued.length) := by
  have hnew : ∀ {new}, Effects s (s.take step) new →
      Effects s (s.take step) ((s.take step).queued.drop s.queued.length) := by
    intro new h
    rwa [h.new_eq]
  have hquiet : (∃ new, Quiet s (s.take step) new) →
      Effects s (s.take step) ((s.take step).queued.drop s.queued.length) := by
    rintro ⟨new, h⟩
    exact hnew (.one (.rests h))
  cases step with
  | ask a => exact hquiet (s.quiet_ask a)
  | enqueue o =>
    refine hquiet ?_
    rw [take]
    split
    · exact ⟨[], .refl s⟩
    · next haccepted =>
      exact ⟨_, quiet_withExchange (.of_reason (WorkQueue.grows_submit? haccepted) rfl)⟩
  | finish c => exact hquiet ⟨[], s.quiet_finish c⟩
  | messages listener => exact hquiet ⟨[], quiet_withExchange (.of_reason (.refl _) rfl)⟩
  | dropStream listener => exact hquiet ⟨[], quiet_withExchange (.of_reason (.refl _) rfl)⟩
  | receive a => exact hquiet (s.quiet_receive a)
  | handle f => exact hquiet (s.quiet_handle f)
  | fail e => exact hquiet ⟨[], s.quiet_fail e⟩
  | elapse span => exact hquiet ⟨[], s.quiet_elapse span⟩
  | work => exact hnew (.one (effect_work hlimit))
  | cut calls e => exact hnew (effects_cut hlimit calls e)
  | closeBoard e => exact hquiet ⟨[], quiet_withExchange (s.exchange.queues_close e)⟩
  | closeOutbound => exact hquiet ⟨[], quiet_withExchange s.exchange.queues_closeOutbound⟩
  | shutDown => exact hquiet ⟨[], ⟨rfl, rfl, rfl, fun _ => rfl⟩, .refl _⟩
  | close => exact hnew (effects_close hlimit)

end MercuryLink.Session
