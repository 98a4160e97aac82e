import MercuryLink.Proofs.Exchange.Closing

/-!
# What the steps of an exchange queue

Every step but those of the worker leaves what is queued where it stands: it may queue frames
behind it, and it may close the queue or the board, but never open them again.
-/

namespace MercuryLink

namespace WorkQueue

variable {τ : Type}

/-- A queue goes on with new tasks behind those that wait. -/
structure Grows (q q' : WorkQueue τ) (new : List (Nat × τ)) : Prop where
  waiting : q'.waiting = q.waiting ++ new
  submitted : q'.submitted = q.submitted + new.length
  policy : q'.policy = q.policy
  closed : q.closed = true → q'.closed = true

/-- A queue goes on without the first task that waits. -/
structure Shrinks (q q' : WorkQueue τ) (first : Nat × τ) : Prop where
  waiting : q.waiting = first :: q'.waiting
  submitted : q'.submitted = q.submitted
  policy : q'.policy = q.policy
  closed : q.closed = true → q'.closed = true

theorem Grows.refl (q : WorkQueue τ) : Grows q q [] := ⟨(List.append_nil _).symm, rfl, rfl, id⟩

theorem Grows.trans {q q' q'' : WorkQueue τ} {new new' : List (Nat × τ)} (h : Grows q q' new)
    (h' : Grows q' q'' new') : Grows q q'' (new ++ new') where
  waiting := by rw [h'.waiting, h.waiting, List.append_assoc]
  submitted := by rw [h'.submitted, h.submitted, List.length_append, Nat.add_assoc]
  policy := h'.policy.trans h.policy
  closed := fun hclosed => h'.closed (h.closed hclosed)

/-- What becomes of a queue later does not bring a task back. -/
theorem Shrinks.trans {q q' q'' : WorkQueue τ} {first : Nat × τ} (h : Shrinks q q' first)
    (h' : Grows q' q'' []) : Shrinks q q'' first where
  waiting := by rw [h.waiting, h'.waiting, List.append_nil]
  submitted := by rw [h'.submitted, h.submitted, List.length_nil, Nat.add_zero]
  policy := h'.policy.trans h.policy
  closed := fun hclosed => h'.closed (h.closed hclosed)

/-- A queue that turns tasks away goes on turning them away. -/
theorem isRejecting_mono {q q' : WorkQueue τ} (hpolicy : q'.policy = q.policy)
    (hclosed : q.closed = true → q'.closed = true) (h : q.isRejecting = true) :
    q'.isRejecting = true := by
  rw [isRejecting, Bool.and_eq_true] at h ⊢
  rw [hpolicy]
  exact ⟨hclosed h.1, h.2⟩

/-- A task that is accepted waits behind the others. -/
theorem grows_submit? {q q' : WorkQueue τ} {task : τ} {ordinal : Nat}
    (h : q.submit? task = some (ordinal, q')) : Grows q q' [(q.submitted, task)] := by
  rw [submit?] at h
  split at h
  · cases h
  · cases h
    exact ⟨rfl, rfl, rfl, id⟩

/-- Closing a queue queues nothing. -/
theorem grows_close (q : WorkQueue τ) : Grows q q.close [] :=
  ⟨(List.append_nil _).symm, rfl, rfl, fun _ => rfl⟩

end WorkQueue

namespace Exchange

/-- An exchange goes on with new frames in its queue, and nothing that was closed is open. -/
structure Queues (x y : Exchange) (new : List (Nat × Outgoing)) : Prop where
  outbound : x.outbound.Grows y.outbound new
  closed : x.isClosed = true → y.isClosed = true

theorem Queues.refl (x : Exchange) : Queues x x [] := ⟨.refl _, id⟩

theorem Queues.trans {x y z : Exchange} {new new' : List (Nat × Outgoing)} (h : Queues x y new)
    (h' : Queues y z new') : Queues x z (new ++ new') :=
  ⟨h.outbound.trans h'.outbound, fun hclosed => h'.closed (h.closed hclosed)⟩

/-- Where the reason stays, only the queue counts. -/
theorem Queues.of_reason {x y : Exchange} {new : List (Nat × Outgoing)}
    (houtbound : x.outbound.Grows y.outbound new)
    (hreason : y.board.closeReason = x.board.closeReason) : Queues x y new := by
  refine ⟨houtbound, ?_⟩
  rw [isClosed, isClosed, Board.isClosed, Board.isClosed, hreason]
  exact id

/-- A call queues at most the frame of its request. -/
theorem queues_dispatch (x : Exchange) (now : Moment) (r : Request) (timeout : Timespan)
    (listener : Option Nat) : ∃ new, Queues x (x.dispatch now r timeout listener).1 new := by
  obtain ⟨board, hreason, h | ⟨_, _, _, haccepted, h⟩⟩ := x.dispatch_cases now r timeout listener
  · rw [h]
    exact ⟨[], .of_reason (.refl _) hreason⟩
  · rw [h]
    exact ⟨_, .of_reason (WorkQueue.grows_submit? haccepted) hreason⟩

/-- A subscription queues at most the frame of its request. -/
theorem queues_subscribe (x : Exchange) (now : Moment) (stem : String) (timeout : Timespan) :
    ∃ new, Queues x (x.subscribe now stem timeout).1 new := by
  rw [subscribe]
  split
  · exact ⟨[], .refl x⟩
  · let y : Exchange := { x with board := (x.board.addListener stem).1 }
    obtain ⟨new, hdispatch⟩ := y.queues_dispatch now (.plain .subscribe stem) timeout
      (some (x.board.addListener stem).2)
    refine ⟨new, ?_⟩
    dsimp only
    split
    · exact ⟨hdispatch.outbound, hdispatch.closed⟩
    · exact ⟨hdispatch.outbound, hdispatch.closed⟩
    · exact ⟨hdispatch.outbound, hdispatch.closed⟩

/-- The end of a subscription queues at most the frame of its request. -/
theorem queues_unsubscribe (x : Exchange) (now : Moment) (stem : String) (timeout : Timespan) :
    ∃ new, Queues x (x.unsubscribe now stem timeout).1 new := by
  rw [unsubscribe]
  split
  · exact ⟨[], .refl x⟩
  · let y : Exchange := { x with board := x.board.removeStem stem }
    obtain ⟨new, hdispatch⟩ := y.queues_dispatch now (.plain .unsubscribe stem) timeout none
    exact ⟨new, hdispatch.outbound, hdispatch.closed⟩

/-- A frame that is no request is queued at most. -/
theorem queues_sendFrame (x : Exchange) (f : Frame) : ∃ new, Queues x (x.sendFrame f).1 new := by
  rcases x.sendFrame_cases f with h | ⟨_, _, haccepted, h⟩
  · rw [h]
    exact ⟨[], .refl x⟩
  · rw [h]
    exact ⟨_, .of_reason (WorkQueue.grows_submit? haccepted) rfl⟩

/-- Queueing a frame queues it behind the others, unless the exchange or its queue is closed. -/
theorem waiting_sendFrame (x : Exchange) (f : Frame) :
    ∃ new, (x.sendFrame f).1.outbound.waiting = x.outbound.waiting ++ new ∧
      new.map (·.2) = if !x.isClosed && !x.outbound.closed then [⟨f, none⟩] else [] := by
  rw [sendFrame, isClosed, Board.isClosed]
  cases x.board.closeReason with
  | some e => exact ⟨[], (List.append_nil _).symm, rfl⟩
  | none =>
    rw [WorkQueue.submit?]
    cases x.outbound.closed with
    | true => exact ⟨[], (List.append_nil _).symm, rfl⟩
    | false => exact ⟨[(x.outbound.submitted, ⟨f, none⟩)], rfl, rfl⟩

/-- It does not use the board. -/
theorem sendFrame_leaves_board (x : Exchange) (f : Frame) :
    (x.sendFrame f).1.board = x.board ∧ (x.sendFrame f).1.log = x.log := by
  rcases x.sendFrame_cases f with h | ⟨_, _, -, h⟩
  · rw [h]
    exact ⟨rfl, rfl⟩
  · rw [h]
    exact ⟨rfl, rfl⟩

/-- Taking a frame queues nothing. -/
theorem queues_route (x : Exchange) (now : Moment) (f : Frame) : Queues x (x.route now f) [] :=
  .of_reason (.refl _) (x.board.closeReason_route now x.pushSpan f)

/-- Looking for what has expired queues nothing. -/
theorem queues_sweep (x : Exchange) (now : Moment) : Queues x (x.sweep now).1 [] :=
  .of_reason (.refl _) rfl

/-- Collecting a reply queues nothing. -/
theorem queues_collect (x : Exchange) (h : Handle) : Queues x (x.collect h).1 [] := by
  obtain ⟨collected, hcollect⟩ := x.exists_collected h
  rw [hcollect]
  exact .of_reason (.refl _) rfl

/-- Closing the board queues nothing. -/
theorem queues_close (x : Exchange) (e : LinkError) : Queues x (x.close e) [] :=
  ⟨.refl _, fun _ => rfl⟩

/-- Closing the queue queues nothing. -/
theorem queues_closeOutbound (x : Exchange) : Queues x x.closeOutbound [] :=
  .of_reason x.outbound.grows_close rfl

/-- Ending the link queues nothing. -/
theorem queues_abort (x : Exchange) (e : LinkError) : Queues x (x.abort e) [] :=
  ⟨x.outbound.grows_close, fun _ => rfl⟩

/-- Nor does noting how a write went. -/
theorem queues_written (x : Exchange) (o : Outgoing) (result : Except FrameError Unit) :
    Queues x (x.written o result) [] := by
  rcases x.written_cases o result with ⟨e, h⟩ | ⟨id, e, h⟩ | h
  · rw [h]
    exact x.queues_abort e
  · rw [h]
    exact .of_reason (.refl _) (x.board.closeReason_fail id e)
  · rw [h]
    exact .refl x

/-- A write that fails otherwise than for the size of its frame ends the link. -/
theorem written_error (x : Exchange) (o : Outgoing) {e : FrameError} (h : e.isTooLarge = false) :
    x.written o (.error e) = x.abort (.ofFrame e) := by
  simp only [written, LinkError.isFatal_ofFrame, h, Bool.not_false, if_true]

end Exchange

end MercuryLink
