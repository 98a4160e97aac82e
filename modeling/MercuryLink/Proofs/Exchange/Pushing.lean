import MercuryLink.Proofs.Exchange.Listening

/-!
# The pushes in part

The table of pushes in part is changed by four operations: a packet that is not the last joins a
push, the last takes it off the board, a frame that is no packet discards it, and so does a look at
the clock that finds it expired. What a frame does is said once, by `Pushes`. Responses have a table
of their own, so a response with the id of a push does not touch it, and neither does any other step
of an open exchange.
-/

namespace MercuryLink

namespace Table

variable {ν : Type} {t : Table ν}

/-- Ids stay distinct when entries are removed. -/
theorem Distinct.filter (ht : t.Distinct) (keep : SequenceId × ν → Bool) :
    Distinct (t.filter keep) :=
  ht.sublist (List.filter_sublist.map _)

/-- Ids stay distinct when an entry is added. -/
theorem Distinct.insert (ht : t.Distinct) (id : SequenceId) (value : ν) :
    (t.insert id value).Distinct := by
  rw [Distinct, Table.insert, List.map_append, List.nodup_append]
  refine ⟨ht.filter _, List.nodup_singleton _, ?_⟩
  intro other hother other' hother' heq
  obtain ⟨entry, hentry, rfl⟩ := List.mem_map.1 hother
  have hne : entry.1 ≠ id := by simpa [erase] using (List.mem_filter.1 hentry).2
  exact hne (heq.trans (List.mem_singleton.1 hother'))

/-- Where ids are distinct, a look-up among the entries kept finds the entry if it is kept. -/
theorem Distinct.get?_filter (ht : t.Distinct) (keep : ν → Bool) (id : SequenceId) :
    get? (t.filter fun entry => keep entry.2) id = (t.get? id).filter keep := by
  ext value
  rw [(ht.filter _).get?_eq_some_iff, List.mem_filter, Option.filter_eq_some_iff,
    ht.get?_eq_some_iff]

end Table

/-! ### Frames of pushes -/

/-- What a frame brings to a push. -/
inductive PushFrame where
  /-- A packet. -/
  | intact (p : Packet)
  /-- A payload that is no packet but shows an id. -/
  | broken (id : SequenceId)

/-- The push that a frame belongs to. -/
def PushFrame.id : PushFrame → SequenceId
  | intact p => p.sequence
  | broken id => id

/-- What becomes of a push in part by a frame that belongs to it: it ends, or the parts of the frame
join it. Where the clock cannot show when the push would be given up it stays as it is. -/
def PushFrame.after (now : Moment) (span : Timespan) (push : Option PartialPush) :
    PushFrame → Option PartialPush
  | intact p =>
    if p.isFinal then none
    else
      match now.plus? span with
      | none => push
      | some deadline => some ⟨(push.map (·.parts)).getD [] ++ p.parts, deadline⟩
  | broken _ => none

/-- What a frame brings to a push, if it is one of a push and shows which. -/
def Frame.push? (f : Frame) : Option PushFrame :=
  if f.command = Command.mercuryEvent then
    match Packet.decode f.payload with
    | .ok p => some (.intact p)
    | .error _ => (Packet.peekSequence? f.payload).map .broken
  else none

/-- What becomes of the push of an id by a frame, which may belong to it or not. -/
def Frame.pushAfter (now : Moment) (span : Timespan) (id : SequenceId)
    (push : Option PartialPush) (f : Frame) : Option PartialPush :=
  match f.push? with
  | some frame => if frame.id = id then frame.after now span push else push
  | none => push

namespace Board

open Exchange (messages)

/-! ### What a frame does to the pushes -/

/-- Taking a packet of a push changes the push of its id only. -/
theorem pushes_takePush (b : Board) (now : Moment) (span : Timespan) (p : Packet) :
    (b.takePush now span p).1.pushes =
      if p.isFinal then b.pushes.erase p.sequence
      else
        match now.plus? span with
        | none => b.pushes
        | some deadline =>
          b.pushes.insert p.sequence ⟨b.earlierParts p.sequence ++ p.parts, deadline⟩ := by
  rw [takePush]
  dsimp only
  split
  · split
    · rfl
    · rfl
  · cases now.plus? span with
    | none => rfl
    | some deadline => rfl

/-- The last packet of a push takes the push off the board, and delivers its message if its parts
are one. -/
theorem takePush_of_final (b : Board) (now : Moment) (span : Timespan) {p : Packet}
    (hfinal : p.isFinal = true) :
    b.takePush now span p =
      match Message.ofParts p.sequence (b.earlierParts p.sequence ++ p.parts) with
      | .error _ => ({ b with pushes := b.pushes.erase p.sequence }, [])
      | .ok m => { b with pushes := b.pushes.erase p.sequence }.deliver m := by
  rw [takePush]
  exact if_pos hfinal

/-- Any other packet of a push leaves the listeners as they are and sends nothing. -/
theorem takePush_of_not_final (b : Board) (now : Moment) (span : Timespan) {p : Packet}
    (hfinal : p.isFinal = false) :
    (b.takePush now span p).1.listeners = b.listeners ∧ (b.takePush now span p).2 = [] := by
  rw [takePush, hfinal, if_neg Bool.false_ne_true]
  split
  · exact ⟨rfl, rfl⟩
  · exact ⟨rfl, rfl⟩

/-- A delivery sends copies of its message only. -/
theorem messages_deliver (b : Board) (m : Message) (id : Nat) :
    ∀ sent ∈ messages (b.deliver m).2 id, sent = m := by
  intro sent hsent
  obtain ⟨notice, hnotice, hshown⟩ := List.mem_filterMap.1 hsent
  obtain ⟨l, -, rfl⟩ := List.mem_map.1 hnotice
  by_cases hid : l.id = id
  · simpa [hid] using hshown.symm
  · simp [hid] at hshown

/-- A failure of one request keeps the pushes, and sends no message to a listener. -/
theorem pushes_fail (b : Board) (sequence : SequenceId) (e : LinkError) :
    (b.fail sequence e).1.pushes = b.pushes ∧ ∀ id, messages (b.fail sequence e).2 id = [] := by
  rw [fail]
  split
  · exact ⟨rfl, fun _ => rfl⟩
  · exact ⟨rfl, fun _ => rfl⟩

/-- A response frame keeps the pushes, of whatever id, and sends no message to a listener. -/
theorem pushes_takeResponse (b : Board) (p : Packet) :
    (b.takeResponse p).1.pushes = b.pushes ∧ ∀ id, messages (b.takeResponse p).2 id = [] := by
  rw [takeResponse]
  split
  · exact ⟨rfl, fun _ => rfl⟩
  · next entry _ =>
    dsimp only
    split
    · obtain ⟨⟨listeners, hboard⟩, hnotices⟩ := b.exists_completed p.sequence entry _
      rw [hboard, hnotices]
      exact ⟨rfl, fun _ => rfl⟩
    · exact ⟨rfl, fun _ => rfl⟩

/-- What a frame does to the pushes. -/
inductive Pushes (b : Board) (now : Moment) (span : Timespan) (f : Frame)
    (step : Board × List Notice) : Prop where
  /-- It is no frame of a push, keeps the pushes and sends no message. -/
  | keeps (shows : f.push? = none) (pushes : step.1.pushes = b.pushes)
    (silent : ∀ id, messages step.2 id = [])
  /-- It is a packet of a push. -/
  | takes {p : Packet} (shows : f.push? = some (.intact p)) (step : step = b.takePush now span p)
  /-- It is no packet, discards the push of the id that it shows and sends nothing. -/
  | discards {id : SequenceId} (shows : f.push? = some (.broken id))
    (step : step = ({ b with pushes := b.pushes.erase id }, []))

/-- Every frame does one of these things to the pushes. -/
theorem pushes_route (b : Board) (now : Moment) (span : Timespan) (f : Frame) :
    Pushes b now span f (b.route now span f) := by
  have hresponse : f.command.isResponse = true → ¬f.command = Command.mercuryEvent := by
    intro hresponse hevent
    rw [hevent] at hresponse
    revert hresponse
    decide
  rw [route]
  cases hdecode : Packet.decode f.payload with
  | error e =>
    dsimp only
    rw [takeBroken]
    cases hpeek : Packet.peekSequence? f.payload with
    | none =>
      refine .keeps ?_ rfl fun _ => rfl
      rw [Frame.push?, hdecode, hpeek, Option.map_none, ite_self]
    | some sequence =>
      dsimp only
      split
      · next hanswer =>
        obtain ⟨hpushes, hsilent⟩ := b.pushes_fail sequence (.ofPacket e)
        exact .keeps (if_neg (hresponse hanswer)) hpushes hsilent
      · split
        · next hevent =>
          refine .discards ?_ rfl
          rw [Frame.push?, if_pos hevent, hdecode, hpeek, Option.map_some]
        · next hother => exact .keeps (if_neg hother) rfl fun _ => rfl
  | ok p =>
    dsimp only
    split
    · next hanswer =>
      obtain ⟨hpushes, hsilent⟩ := b.pushes_takeResponse p
      exact .keeps (if_neg (hresponse hanswer)) hpushes hsilent
    · split
      · next hevent =>
        refine .takes ?_ rfl
        rw [Frame.push?, if_pos hevent, hdecode]
      · next hother => exact .keeps (if_neg hother) rfl fun _ => rfl

/-- A packet of a push is taken as such. -/
theorem route_of_intact (b : Board) (now : Moment) (span : Timespan) {f : Frame} {p : Packet}
    (hf : f.push? = some (.intact p)) : b.route now span f = b.takePush now span p := by
  cases b.pushes_route now span f with
  | keeps shows pushes silent =>
    rw [hf] at shows
    cases shows
  | takes shows step =>
    rw [hf] at shows
    cases shows
    exact step
  | discards shows step =>
    rw [hf] at shows
    cases shows

/-- A frame changes the push that it belongs to, and no other. -/
theorem get?_pushes_route (b : Board) (now : Moment) (span : Timespan) (f : Frame)
    (id : SequenceId) :
    (b.route now span f).1.pushes.get? id = f.pushAfter now span id (b.pushes.get? id) := by
  rw [Frame.pushAfter]
  cases b.pushes_route now span f with
  | keeps shows pushes silent => rw [shows, pushes]
  | @discards shown shows step =>
    rw [shows, step]
    dsimp only
    by_cases hid : (PushFrame.broken shown).id = id
    · rw [if_pos hid, ← hid]
      exact Table.get?_erase_self _ _
    · rw [if_neg hid]
      exact Table.get?_erase_of_ne _ (Ne.symm hid)
  | @takes p shows step =>
    rw [shows, step, pushes_takePush]
    dsimp only
    by_cases hid : (PushFrame.intact p).id = id
    · rw [if_pos hid, ← hid, PushFrame.after]
      split
      · exact Table.get?_erase_self _ _
      · cases now.plus? span with
        | none => rfl
        | some deadline => exact Table.get?_insert_self _ _ _
    · rw [if_neg hid]
      split
      · exact Table.get?_erase_of_ne _ (Ne.symm hid)
      · split
        · rfl
        · exact Table.get?_insert_of_ne _ _ (Ne.symm hid)

/-- Ids of pushes stay distinct. -/
theorem distinct_route {b : Board} (hb : b.pushes.Distinct) (now : Moment) (span : Timespan)
    (f : Frame) : (b.route now span f).1.pushes.Distinct := by
  cases b.pushes_route now span f with
  | keeps shows pushes silent => rwa [pushes]
  | discards shows step =>
    rw [step]
    exact hb.filter _
  | @takes p shows step =>
    rw [step, pushes_takePush]
    split
    · exact hb.filter _
    · split
      · exact hb
      · exact hb.insert _ _

end Board

namespace Exchange

/-! ### What the other steps keep -/

/-- An exchange goes on without a change to its pushes and without a message to a listener, and is
not closed. -/
structure Passes (x y : Exchange) : Prop where
  reason : y.board.closeReason = x.board.closeReason
  pushes : y.board.pushes = x.board.pushes
  span : y.pushSpan = x.pushSpan
  messages : ∀ id, messages y.log id = messages x.log id

theorem Passes.refl (x : Exchange) : Passes x x := ⟨rfl, rfl, rfl, fun _ => rfl⟩

/-- Sending a request passes the pushes by. -/
theorem passes_dispatch (x : Exchange) (now : Moment) (r : Request) (timeout : Timespan)
    (listener : Option Nat) : Passes x (x.dispatch now r timeout listener).1 := by
  have hpushes : (x.board.register now r timeout x.slots listener).1.pushes = x.board.pushes := by
    obtain ⟨nextSequence, pending, hboard⟩ :=
      x.board.exists_registered now r timeout x.slots listener
    rw [hboard]
  have hreason := x.board.closeReason_register now r timeout x.slots listener
  rw [dispatch]
  dsimp only
  split
  · exact ⟨hreason, hpushes, rfl, fun _ => rfl⟩
  · split
    · exact ⟨hreason, hpushes, rfl, fun _ => rfl⟩
    · exact ⟨hreason, hpushes, rfl, fun _ => rfl⟩

/-- Subscribing passes the pushes by. -/
theorem passes_subscribe (x : Exchange) (now : Moment) (stem : String) (timeout : Timespan) :
    Passes x (x.subscribe now stem timeout).1 := by
  rw [subscribe]
  split
  · exact .refl x
  · obtain ⟨hreason, hpushes, hspan, hmessages⟩ :=
      passes_dispatch { x with board := (x.board.addListener stem).1 } now
        (.plain .subscribe stem) timeout (some (x.board.addListener stem).2)
    dsimp only
    split
    · exact ⟨hreason, hpushes, hspan, hmessages⟩
    · exact ⟨hreason, hpushes, hspan, hmessages⟩
    · exact ⟨hreason, hpushes, hspan, hmessages⟩

/-- Unsubscribing passes the pushes by. -/
theorem passes_unsubscribe (x : Exchange) (now : Moment) (stem : String) (timeout : Timespan) :
    Passes x (x.unsubscribe now stem timeout).1 := by
  rw [unsubscribe]
  split
  · exact .refl x
  · obtain ⟨hreason, hpushes, hspan, hmessages⟩ :=
      passes_dispatch { x with board := x.board.removeStem stem } now
        (.plain .unsubscribe stem) timeout none
    exact ⟨hreason, hpushes, hspan, hmessages⟩

/-- An exchange goes on closed: its pushes are forgotten, without a message to a listener. -/
structure Forgets (x y : Exchange) : Prop where
  closed : y.board.closeReason ≠ none
  pushes : y.board.pushes = []
  span : y.pushSpan = x.pushSpan
  messages : ∀ id, messages y.log id = messages x.log id

/-- An end forgets the pushes. -/
theorem forgets_abort (x : Exchange) (e : LinkError) : Forgets x (x.abort e) := by
  refine ⟨Option.some_ne_none _, rfl, rfl, fun id => ?_⟩
  change messages (x.log ++ (x.board.close e).2) id = messages x.log id
  rw [messages_append, Board.close, messages_replies _ fun _ => .error e, List.append_nil]

/-- What became of a write passes the pushes by, or is an end. -/
theorem passes_or_forgets_written (x : Exchange) (o : Outgoing) (result : Except FrameError Unit) :
    Passes x (x.written o result) ∨ Forgets x (x.written o result) := by
  rcases x.written_cases o result with ⟨why, h⟩ | ⟨id, why, h⟩ | h
  · rw [h]
    exact Or.inr (x.forgets_abort why)
  · rw [h]
    obtain ⟨hpushes, hsilent⟩ := x.board.pushes_fail id why
    refine Or.inl ⟨x.board.closeReason_fail id why, hpushes, rfl, ?_⟩
    intro listener
    rw [onBoard, messages_append, hsilent, List.append_nil]
  · rw [h]
    exact Or.inl (.refl x)

/-- Whether a step is neither an arriving frame nor a look at the clock. -/
def Step.isAside : Step → Bool
  | .route _ _ | .sweep _ => false
  | _ => true

/-- Whether a step may end the link. -/
def Step.mayEnd : Step → Bool
  | .close _ | .abort _ | .work _ => true
  | _ => false

/-- Every other step passes the pushes by, or is an end. -/
theorem passes_or_forgets_take (x : Exchange) {step : Step} (hstep : step.isAside = true) :
    Passes x (x.take step).1 ∨ step.mayEnd = true ∧ Forgets x (x.take step).1 := by
  cases step with
  | request now r timeout => exact Or.inl (passes_dispatch x now r timeout none)
  | subscribe now stem timeout => exact Or.inl (passes_subscribe x now stem timeout)
  | unsubscribe now stem timeout => exact Or.inl (passes_unsubscribe x now stem timeout)
  | sendFrame f =>
    rcases x.sendFrame_cases f with h | ⟨_, _, -, h⟩
    · rw [take, h]
      exact Or.inl (.refl x)
    · rw [take, h]
      exact Or.inl ⟨rfl, rfl, rfl, fun _ => rfl⟩
  | removeListener id | dropStream id | receive id | closeOutbound =>
    exact Or.inl ⟨rfl, rfl, rfl, fun _ => rfl⟩
  | collect h =>
    obtain ⟨collected, hcollect⟩ := x.exists_collected h
    rw [take, hcollect]
    exact Or.inl ⟨rfl, rfl, rfl, fun _ => rfl⟩
  | route now f | sweep now => cases hstep
  | close e =>
    obtain ⟨hclosed, hpushes, hspan, hmessages⟩ := x.forgets_abort e
    exact Or.inr ⟨rfl, hclosed, hpushes, hspan, hmessages⟩
  | abort e => exact Or.inr ⟨rfl, x.forgets_abort e⟩
  | work result =>
    obtain ⟨outbound, -, hwork | ⟨o, hwork⟩⟩ := x.work_cases result
    · rw [take, hwork]
      exact Or.inl ⟨rfl, rfl, rfl, fun _ => rfl⟩
    · rw [take, hwork]
      rcases passes_or_forgets_written { x with outbound } o result with h | h
      · exact Or.inl ⟨h.reason, h.pushes, h.span, h.messages⟩
      · exact Or.inr ⟨rfl, h.closed, h.pushes, h.span, h.messages⟩

/-- A step that leaves an exchange open is no end. -/
theorem passes_take {x : Exchange} {step : Step} (hstep : step.isAside = true)
    (hopen : (x.take step).1.board.closeReason = none) : Passes x (x.take step).1 :=
  (passes_or_forgets_take x hstep).resolve_right fun h => h.2.closed hopen

/-- An exchange that is open was open before. -/
theorem open_of_take {x : Exchange} {step : Step}
    (hopen : (x.take step).1.board.closeReason = none) : x.board.closeReason = none := by
  cases hstep : step.isAside with
  | true => rw [← (passes_take hstep hopen).reason, hopen]
  | false =>
    cases step with
    | route now f =>
      rw [← hopen]
      exact (x.board.closeReason_route now x.pushSpan f).symm
    | sweep now => exact hopen
    | _ => cases hstep

end Exchange

end MercuryLink
