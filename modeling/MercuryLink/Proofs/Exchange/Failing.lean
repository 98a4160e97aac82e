import MercuryLink.Proofs.Exchange.Turns

/-!
# Failures of requests and the end of the link

Of the uses of a board only closing it answers with a failure that concerns the link as a whole:
a late response times out, one that is no message or a frame that was not written fails its own
request. So as long as the board is open, each failure concerned one request. Closing an open board
answers whoever still waits with its reason, and nobody is answered by later uses.
-/

namespace MercuryLink

namespace Board

/-- Every failure that notices answer with concerns one request. -/
def Local (log : List Notice) : Prop :=
  ∀ slot e, Notice.reply slot (.error e) ∈ log → e.isFatal = false

theorem local_nil : Local [] := nofun

theorem Local.append {log later : List Notice} (h : Local log) (h' : Local later) :
    Local (log ++ later) := by
  intro slot e hmem
  exact (List.mem_append.1 hmem).elim (h slot e) (h' slot e)

/-- A single failure that concerns one request. -/
theorem local_reply {slot : Slot} {e : LinkError} (he : e.isFatal = false) :
    Local [.reply slot (.error e)] := by
  intro slot' e' hmem
  cases List.mem_singleton.1 hmem
  exact he

/-- A response is no failure. -/
theorem local_message (slot : Slot) (m : Message) : Local [.reply slot (.ok m)] := by
  intro slot' e hmem
  cases List.mem_singleton.1 hmem

/-- Nor is a push. -/
theorem local_pushes (found : List Listener) (m : Message) :
    Local (found.map fun l => .push l.id m) := by
  intro slot e hmem
  obtain ⟨l, -, hl⟩ := List.mem_map.1 hmem
  cases hl

/-- A failure answers with what it was given. -/
theorem local_fail {e : LinkError} (he : e.isFatal = false) (b : Board) (sequence : SequenceId) :
    Local (b.fail sequence e).2 := by
  rw [fail]
  split
  · exact local_reply he
  · exact local_nil

/-- A response that is no message fails its own request. -/
theorem local_complete (b : Board) (sequence : SequenceId) (entry : Pending)
    (parts : List Bytes) : Local (b.complete sequence entry parts).2 := by
  rw [(complete_eq b sequence entry parts).2.2]
  cases Message.ofParts sequence parts with
  | error e =>
    have hlocal : (LinkError.ofMessage e).isFatal = false := rfl
    exact local_reply hlocal
  | ok m => exact local_message entry.respond m

/-- A frame fails the request that it answers, if it does. -/
theorem local_route (b : Board) (now : Moment) (span : Timespan) (f : Frame) :
    Local (b.route now span f).2 := by
  rw [route]
  split
  · next e _ =>
    have hlocal : (LinkError.ofPacket e).isFatal = false := rfl
    rw [takeBroken]
    split
    · exact local_nil
    · next sequence _ =>
      split
      · exact local_fail hlocal b sequence
      · split
        · exact local_nil
        · exact local_nil
  · next p _ =>
    split
    · rw [takeResponse]
      split
      · exact local_nil
      · next entry _ =>
        dsimp only
        split
        · exact local_complete b p.sequence entry _
        · exact local_nil
    · split
      · rw [takePush]
        dsimp only
        split
        · split
          · exact local_nil
          · exact local_pushes _ _
        · split
          · exact local_nil
          · exact local_nil
      · exact local_nil

/-- Requests that have expired time out, one by one. -/
theorem local_sweep (b : Board) (now : Moment) : Local (b.sweep now).2 := by
  intro slot e hmem
  obtain ⟨entry, -, hentry⟩ := List.mem_map.1 hmem
  cases hentry
  rfl

/-- The reason for which a use closes the board. -/
def Turn.reason? : Turn → Option LinkError
  | .close e => some e
  | _ => none

/-- No other use than closing closes a board, or opens it. -/
theorem closeReason_turn (b : Board) {t : Turn} (hreason : t.reason? = none) :
    (b.turn t).1.closeReason = b.closeReason := by
  cases t with
  | listen stem | unlisten stem =>
    simp only [turn]
    split
    · rfl
    · rfl
  | removeListener id | dropStream id | withdraw sequence | sweep now => rfl
  | register now r timeout respond listener =>
    exact b.closeReason_register now r timeout respond listener
  | fail sequence e => exact b.closeReason_fail sequence e
  | route now span f => exact b.closeReason_route now span f
  | close e => cases hreason

/-- A board that is closed keeps its reason through any uses. -/
theorem closeReason_turns {b : Board} {e : LinkError} (h : b.closeReason = some e)
    (ts : List Turn) : (b.turns ts).1.closeReason = some e := by
  induction ts generalizing b with
  | nil => exact h
  | cons t later ih =>
    refine ih ?_
    cases hreason : t.reason? with
    | none => exact (b.closeReason_turn hreason).trans h
    | some why =>
      cases t with
      | close other =>
        change some (b.closeReason.getD other) = some e
        rw [h, Option.getD_some]
      | _ => cases hreason

/-- Any other use than closing fails requests one by one. -/
theorem local_turn {ends : LinkError → Prop} (b : Board) {t : Turn} (ht : t.Within ends)
    (hreason : t.reason? = none) : Local (b.turn t).2 := by
  cases t with
  | listen stem | unlisten stem =>
    simp only [turn]
    split
    · exact local_nil
    · exact local_nil
  | removeListener id | dropStream id | withdraw sequence => exact local_nil
  | register now r timeout respond listener => exact local_nil
  | fail sequence e => exact local_fail ht b sequence
  | route now span f => exact local_route b now span f
  | sweep now => exact local_sweep b now
  | close e => cases hreason

/-- A board that was closed answers nobody any more. -/
theorem Shut.turn {b : Board} {e : LinkError} (h : b.Shut e) (t : Turn) :
    (b.turn t).1.Shut e ∧ (b.turn t).2 = [] := by
  have hidle : ∀ {step : Board × List Notice}, b.Idles step → step.1.Shut e ∧ step.2 = [] := by
    rintro step ⟨⟨pushes, hkept⟩, hsilent⟩
    rw [hkept]
    exact ⟨⟨h.reason, h.pending, h.listeners⟩, hsilent⟩
  have hclosed : b.isClosed = true := by rw [isClosed, h.reason, Option.isSome_some]
  cases t with
  | listen stem | unlisten stem =>
    simp only [Board.turn, hclosed, if_true, and_true]
    exact h
  | removeListener id =>
    refine ⟨⟨h.reason, h.pending, ?_⟩, rfl⟩
    change b.listeners.filter _ = []
    rw [h.listeners, List.filter_nil]
  | dropStream id => exact ⟨⟨h.reason, h.pending, h.listeners⟩, rfl⟩
  | withdraw sequence =>
    refine ⟨⟨h.reason, ?_, h.listeners⟩, rfl⟩
    change b.pending.erase sequence = []
    rw [h.pending]
    rfl
  | register now r timeout respond listener =>
    simp only [Board.turn, register, h.reason, and_true]
    exact h
  | fail sequence why =>
    rw [Board.turn, h.fail sequence why]
    exact ⟨h, rfl⟩
  | route now span f => exact hidle (h.route now span f)
  | sweep now => exact hidle (h.sweep now)
  | close why => exact hidle (h.close why)

theorem Shut.turns {b : Board} {e : LinkError} (h : b.Shut e) (ts : List Turn) :
    (b.turns ts).1.Shut e ∧ (b.turns ts).2 = [] := by
  induction ts generalizing b with
  | nil => exact ⟨h, rfl⟩
  | cons t later ih =>
    obtain ⟨hnext, hsilent⟩ := h.turn t
    obtain ⟨hlast, hlater⟩ := ih hnext
    refine ⟨hlast, ?_⟩
    rw [Board.turns, hsilent, hlater, List.append_nil]

/-- As long as a board is open, its uses fail requests one by one. -/
theorem local_turns {ends : LinkError → Prop} {b : Board} {ts : List Turn}
    (hts : ∀ t ∈ ts, t.Within ends) (hopen : (b.turns ts).1.closeReason = none) :
    Local (b.turns ts).2 := by
  induction ts generalizing b with
  | nil => exact local_nil
  | cons t later ih =>
    have hlater := ih (b := (b.turn t).1) (fun t ht => hts t (List.mem_cons_of_mem _ ht)) hopen
    cases hreason : t.reason? with
    | none => exact (b.local_turn (hts t List.mem_cons_self) hreason).append hlater
    | some e =>
      cases t with
      | close why =>
        -- No later use opens the board again.
        have hclosed : (b.turn (.close why)).1.closeReason = some (b.closeReason.getD why) := rfl
        rw [turns, closeReason_turns hclosed] at hopen
        cases hopen
      | _ => cases hreason

/-- A board that was open is closed for a reason that may end the link. -/
theorem mayEnd_of_turns {ends : LinkError → Prop} {b : Board} (hopen : b.closeReason = none)
    {ts : List Turn} (hts : ∀ t ∈ ts, t.Within ends) {e : LinkError}
    (hclosed : (b.turns ts).1.closeReason = some e) : ends e := by
  induction ts generalizing b with
  | nil =>
    rw [turns, hopen] at hclosed
    cases hclosed
  | cons t later ih =>
    cases hreason : t.reason? with
    | none =>
      exact ih ((b.closeReason_turn hreason).trans hopen)
        (fun t ht => hts t (List.mem_cons_of_mem _ ht)) hclosed
    | some why =>
      cases t with
      | close why =>
        have hfirst : (b.turn (.close why)).1.closeReason = some why := by
          rw [turn, close, hopen, Option.getD_none]
        rw [turns, closeReason_turns hfirst] at hclosed
        exact Option.some.inj hclosed ▸ hts _ List.mem_cons_self
      | _ => cases hreason

end Board

namespace Exchange

/-! ### What has happened to an exchange -/

section Goes

variable {ends : LinkError → Prop} {policy : ShutdownPolicy} {span : Timespan} {x : Exchange}

/-- As long as an exchange is open, every failure concerned one request. -/
theorem Goes.requests (h : Goes ends (empty policy span) x) (hopen : x.board.closeReason = none) :
    Board.Local x.log := by
  obtain ⟨uses, hwithin, hboard, hlog⟩ := h
  rw [hlog]
  exact Board.local_turns hwithin (hboard ▸ hopen)

/-- An exchange is closed only for a reason that may end the link. -/
theorem Goes.mayEnd (h : Goes ends (empty policy span) x) {e : LinkError}
    (hclosed : x.board.closeReason = some e) : ends e := by
  obtain ⟨uses, hwithin, hboard, -⟩ := h
  exact Board.mayEnd_of_turns rfl hwithin (hboard ▸ hclosed)

end Goes

/-! ### The step that ends an exchange -/

section Ends

variable {x y z : Exchange} {e : LinkError} {uses : List Board.Turn}

/-- Whatever uses of its board follow the end of an exchange, nobody is answered any more. -/
theorem Ends.turns (h : Ends x y e) (hturns : Turns uses y z) : Ends x z e := by
  obtain ⟨hshut, hsilent⟩ := h.shut.turns uses
  refine ⟨hturns.board ▸ hshut, ?_⟩
  rw [hturns.log, hsilent, List.append_nil, h.log]

/-- An exchange goes on: it is open or closed as it was before, or it was open and ends. -/
inductive StaysOrEnds (x y : Exchange) : Prop where
  | stays (reason : y.board.closeReason = x.board.closeReason)
  | ends {e : LinkError} (unclosed : x.board.closeReason = none) (ends : Ends x y e)

/-- Going from open to closed is an end. -/
theorem StaysOrEnds.ends_of_closed (h : StaysOrEnds x y) (hopen : x.board.closeReason = none)
    (hclosed : y.board.closeReason = some e) : Ends x y e := by
  cases h with
  | stays reason =>
    rw [hclosed, hopen] at reason
    cases reason
  | @ends why unclosed ends =>
    have hwhy : why = e := Option.some.inj (ends.shut.reason.symm.trans hclosed)
    exact hwhy ▸ ends

/-- A closed exchange keeps its reason. -/
theorem StaysOrEnds.closed (h : StaysOrEnds x y) (hclosed : x.board.closeReason = some e) :
    y.board.closeReason = some e := by
  cases h with
  | stays reason => exact reason.trans hclosed
  | ends unclosed ends =>
    rw [unclosed] at hclosed
    cases hclosed

/-- Only the board and the log matter. -/
theorem StaysOrEnds.of_eq (h : StaysOrEnds y z) (hboard : y.board = x.board)
    (hlog : y.log = x.log) : StaysOrEnds x z := by
  cases h with
  | stays reason => exact .stays (reason.trans (congrArg Board.closeReason hboard))
  | ends unclosed ends => exact .ends (hboard ▸ unclosed) ⟨ends.shut, hboard ▸ hlog ▸ ends.log⟩

/-- Once the board is closed, no later use changes the reason. -/
theorem Turns.closeReason (h : Turns (.close e :: uses) x y) :
    y.board.closeReason = some (x.board.closeReason.getD e) := by
  have hclosed : (x.board.turn (.close e)).1.closeReason = some (x.board.closeReason.getD e) := rfl
  rw [h.board, Board.turns]
  exact Board.closeReason_turns hclosed uses

/-- Closing the board ends an open exchange, whatever uses follow; a closed one stays closed. -/
theorem Turns.staysOrEnds (h : Turns (.close e :: uses) x y) : StaysOrEnds x y := by
  cases hreason : x.board.closeReason with
  | some why =>
    refine .stays ?_
    rw [h.closeReason, hreason, Option.getD_some]
  | none =>
    have hlater : Turns uses (x.close e) y := by
      refine ⟨h.board, ?_⟩
      rw [h.log, Board.turns, ← List.append_assoc]
      rfl
    exact .ends hreason ((ends_close hreason e).turns hlater)

/-- What became of a write ends the link, or leaves it open. -/
theorem staysOrEnds_written (x : Exchange) (o : Outgoing) (result : Except FrameError Unit) :
    StaysOrEnds x (x.written o result) := by
  rcases x.written_cases o result with ⟨e, h⟩ | ⟨id, e, h⟩ | h
  · rw [h]
    exact (Turns.turn (t := .close e) rfl rfl).staysOrEnds
  · rw [h]
    exact .stays (x.board.closeReason_fail id e)
  · rw [h]
    exact .stays rfl

/-- So does a step of the worker. -/
theorem staysOrEnds_work {ω : Type} (write : ω → Frame → ω × Except FrameError Unit) (x : Exchange)
    (sink : ω) : StaysOrEnds x (x.work write sink).1 := by
  rw [work]
  split
  · exact .stays rfl
  · exact .stays rfl
  · next o outbound _ => exact (staysOrEnds_written { x with outbound } o _).of_eq rfl rfl

end Ends

end Exchange

end MercuryLink
