import MercuryLink.Proofs.Session.Run
import MercuryLink.Proofs.Exchange.Failing

/-!
# What goes on beside the receive loop

Callers, the clock, the worker and the owner of a session share its board with the receive loop, but
not what the loop keeps for itself. A step of theirs falls into uses of the board that take no
frame. It leaves the opener and the country alone, and it may end the receiving but not take it up
again.
-/

namespace MercuryLink

namespace Board

/-- Whether a use takes a frame. -/
def Turn.isRoute : Turn → Bool
  | .route _ _ _ => true
  | _ => false

/-- Callers, the clock and the worker take no frame. -/
theorem Turn.admits_isRoute : Admits (·.isRoute = false) := by
  refine ⟨?_, fun _ _ _ => rfl, fun _ _ => rfl⟩
  intro t ht
  cases t with
  | route now span f => cases ht
  | _ => rfl

end Board

namespace Exchange

/-! ### Which frames the board is given -/

/-- An exchange goes on by uses of its board, of which these take a frame, in order. -/
structure Routes (given : List Board.Turn) (x y : Exchange) : Prop where
  turns : ∃ uses : List Board.Turn, uses.filter Board.Turn.isRoute = given ∧ Turns uses x y
  span : y.pushSpan = x.pushSpan

section Routes

variable {given later : List Board.Turn} {x y z : Exchange}

theorem Routes.refl (x : Exchange) : Routes [] x x := ⟨⟨[], rfl, .of_eq rfl rfl⟩, rfl⟩

theorem Routes.trans (h : Routes given x y) (h' : Routes later y z) :
    Routes (given ++ later) x z := by
  obtain ⟨first, hfirst, hturns⟩ := h.turns
  obtain ⟨next, hnext, hturns'⟩ := h'.turns
  refine ⟨⟨first ++ next, ?_, hturns.append hturns'⟩, h'.span.trans h.span⟩
  rw [List.filter_append, hfirst, hnext]

/-- Uses that take no frame. -/
theorem Uses.noRoutes (h : Uses (·.isRoute = false) x y) : Routes [] x y := by
  obtain ⟨uses, hnone, hturns⟩ := h.turns
  refine ⟨⟨uses, List.filter_eq_nil_iff.2 ?_, hturns⟩, h.span⟩
  intro t ht
  rw [hnone t ht]
  exact Bool.false_ne_true

/-- Uses that take a frame each. -/
theorem Turns.routes (h : Turns given x y) (hroutes : ∀ t ∈ given, t.isRoute = true)
    (hspan : y.pushSpan = x.pushSpan) : Routes given x y :=
  ⟨⟨given, List.filter_eq_self.2 hroutes, h⟩, hspan⟩

/-- An exchange that is closed keeps its reason. -/
theorem Routes.closeReason (h : Routes given x y) {e : LinkError}
    (hclosed : x.board.closeReason = some e) : y.board.closeReason = some e := by
  obtain ⟨uses, -, hturns⟩ := h.turns
  rw [hturns.board]
  exact Board.closeReason_turns hclosed uses

end Routes

end Exchange

/-- Sending a frame keeps the limit of an outlet. -/
theorem Outlet.limit_send (o : Outlet) (f : Frame) : (o.send f).1.limit = o.limit := by
  rw [send]
  split
  · rfl
  · split
    · rfl
    · dsimp only
      split
      · rfl
      · rfl

/-- So does a step of the worker. -/
theorem Exchange.limit_work (x : Exchange) (outlet : Outlet) :
    (x.work Outlet.send outlet).2.limit = outlet.limit := by
  rw [work]
  split
  · rfl
  · rfl
  · exact outlet.limit_send _

namespace Session

/-- Whether a step takes what arrives. -/
def Step.isInbound : Step → Bool
  | .receive _ | .handle _ => true
  | _ => false

/-- What a step ends the link with from outside, or closes the board with. -/
def Step.reason? : Step → Option LinkError
  | .fail e | .cut _ e => some (.ofFrame e)
  | .closeBoard e => some e
  | _ => none

/-- A session goes on beside the receive loop, by uses of its board. -/
structure Beside (allowed : Board.Turn → Prop) (s s' : Session) : Prop where
  exchange : Exchange.Uses allowed s.exchange s'.exchange
  opener : s'.opener = s.opener
  country : s'.country = s.country
  limit : s'.outlet.limit = s.outlet.limit
  receiving : s'.receiving = true → s.receiving = true

section Beside

variable {allowed : Board.Turn → Prop} {s s' s'' : Session}

/-- A session with the same exchange and the same limit. -/
theorem Beside.of_eq (hexchange : s'.exchange = s.exchange) (hopener : s'.opener = s.opener)
    (hcountry : s'.country = s.country) (hlimit : s'.outlet.limit = s.outlet.limit)
    (hreceiving : s'.receiving = s.receiving) : Beside allowed s s' :=
  ⟨hexchange ▸ .refl _, hopener, hcountry, hlimit, fun h => hreceiving ▸ h⟩

theorem Beside.refl (s : Session) : Beside allowed s s := .of_eq rfl rfl rfl rfl rfl

theorem Beside.trans (h : Beside allowed s s') (h' : Beside allowed s' s'') :
    Beside allowed s s'' where
  exchange := h.exchange.trans h'.exchange
  opener := h'.opener.trans h.opener
  country := h'.country.trans h.country
  limit := h'.limit.trans h.limit
  receiving := fun hreceiving => h.receiving (h'.receiving hreceiving)

/-- What the exchange does is all that is done. -/
theorem beside_withExchange {x : Exchange} (h : Exchange.Uses allowed s.exchange x) :
    Beside allowed s (s.withExchange x) :=
  ⟨h, rfl, rfl, (rests_severed _ _).limit, id⟩

/-- A failure ends the receiving with what it means for the link. -/
theorem beside_fail {e : FrameError} (he : allowed (.close (.ofFrame e))) (s : Session) :
    Beside allowed s (s.fail e) :=
  ⟨Exchange.uses_abort he s.exchange, rfl, rfl, (rests_severed _ _).limit,
    fun hreceiving => absurd hreceiving Bool.false_ne_true⟩

variable (h : Board.Turn.Admits allowed)

include h

theorem beside_ask (s : Session) (a : Ask) : Beside allowed s (s.ask a).1 := by
  cases a with
  | request r timeout =>
    exact beside_withExchange (Exchange.uses_dispatch h _ s.now r timeout none)
  | subscribe stem => exact beside_withExchange (Exchange.uses_subscribe h _ s.now stem _)
  | unsubscribe stem => exact beside_withExchange (Exchange.uses_unsubscribe h _ s.now stem _)

/-- Finishing a call may remove a listener. -/
theorem beside_finish (s : Session) (c : Call) : Beside allowed s (s.finish c).1 := by
  have hcollect : Beside allowed s (s.withExchange (s.exchange.collect c.handle).1) :=
    beside_withExchange (Exchange.uses_collect _ c.handle)
  rcases s.finish_cases c with hfinish | ⟨listener, -, -, -, hfinish⟩
  · rwa [hfinish]
  · rw [hfinish]
    exact hcollect.trans (beside_withExchange (Exchange.uses_removeListener h _ listener))

theorem beside_elapse (s : Session) (span : Timespan) : Beside allowed s (s.elapse span) := by
  simp only [elapse]
  split
  · exact .of_eq rfl rfl rfl rfl rfl
  · exact ⟨Exchange.uses_sweep h _ _, rfl, rfl, (rests_severed _ _).limit, id⟩

theorem beside_work (s : Session) : Beside allowed s s.work :=
  ⟨Exchange.uses_work h Outlet.send s.exchange s.outlet, rfl, rfl,
    (rests_severed _ _).limit.trans (Exchange.limit_work _ _), id⟩

theorem beside_workSteps (n : Nat) (s : Session) : Beside allowed s (workSteps n s) := by
  induction n generalizing s with
  | zero => exact .refl s
  | succ n ih => exact (beside_work h s).trans (ih s.work)

/-- A failure to read may end the link while the worker is writing. -/
theorem beside_cut {e : FrameError} (he : allowed (.close (.ofFrame e))) (s : Session)
    (calls : Nat) : Beside allowed s (s.cut calls e) := by
  rw [cut]
  split
  · next o outbound _ =>
    have hqueue : Exchange.Uses allowed s.exchange { s.exchange with outbound } :=
      .of_eq rfl rfl rfl
    have hended := hqueue.trans (Exchange.uses_abort he _)
    exact ⟨hended.trans (Exchange.uses_written h _ o _), rfl, rfl,
      (rests_severed _ _).limit.trans (Outlet.limit_send _ _),
      fun hreceiving => absurd hreceiving Bool.false_ne_true⟩
  · exact (beside_work h s).trans (beside_fail he s.work)

/-- The link ends before the worker notes how its write went. -/
theorem turns_cut (s : Session) (calls : Nat) (e : FrameError) :
    ∃ uses, Exchange.Turns (.close (.ofFrame e) :: uses) s.exchange (s.cut calls e).exchange := by
  have hfail : Exchange.Turns [.close (.ofFrame e)] s.work.exchange (s.work.fail e).exchange :=
    .turn rfl rfl
  cases hwaiting : s.exchange.outbound.waiting with
  | nil =>
    have hwork : s.work.exchange = s.exchange := by rw [work, Exchange.work_of_nil _ _ hwaiting]
    rw [hwork] at hfail
    rw [cut, WorkQueue.next?_of_nil hwaiting]
    exact ⟨[], hfail⟩
  | cons first later =>
    cases hrejecting : s.exchange.outbound.isRejecting with
    | true =>
      have hwork : s.work.exchange = { s.exchange with outbound.waiting := later } := by
        rw [work, Exchange.work_of_rejecting _ _ hwaiting hrejecting]
      rw [hwork] at hfail
      simp only [cut, WorkQueue.next?_of_cons hwaiting, hrejecting, if_true]
      exact ⟨[], hfail.board, hfail.log⟩
    | false =>
      simp only [cut, WorkQueue.next?_of_cons hwaiting, hrejecting, Bool.false_eq_true, if_false]
      let ended := { s.exchange with outbound.waiting := later }.abort (.ofFrame e)
      have hended : Exchange.Turns [.close (.ofFrame e)] s.exchange ended := .turn rfl rfl
      obtain ⟨uses, -, hwritten⟩ := (Exchange.uses_written h ended first.2 _).turns
      exact ⟨uses, hended.append hwritten⟩

/-- The owner of a session closes it. -/
theorem beside_close (s : Session) : Beside allowed s s.close := by
  rw [close]
  split
  · exact .refl s
  · let t : Session := { s with closed := true }
    have ht : Beside allowed s t := .of_eq rfl rfl rfl rfl rfl
    have hboard : Beside allowed s (t.withExchange (t.exchange.close .closed)) :=
      ht.trans (beside_withExchange (Exchange.uses_close (h.closes _ rfl) t.exchange))
    have hqueue := hboard.trans (beside_withExchange (Exchange.uses_closeOutbound _))
    -- The worker drains the queue, and the receive loop sees its stream end.
    exact (hqueue.trans (beside_workSteps h _ _)).trans (beside_fail (h.closes _ rfl) _)

/-- A step that takes nothing of what arrives goes on beside the receive loop. -/
theorem beside_take {step : Step} (hstep : step.isInbound = false)
    (hends : ∀ e, step.reason? = some e → allowed (.close e)) (s : Session) :
    Beside allowed s (s.take step) := by
  cases step with
  | ask a => exact beside_ask h s a
  | enqueue o =>
    rw [take]
    split
    · exact .refl s
    · exact beside_withExchange (.of_eq rfl rfl rfl)
  | finish c => exact beside_finish h s c
  | messages listener => exact beside_withExchange (.of_eq rfl rfl rfl)
  | dropStream listener => exact beside_withExchange (Exchange.uses_dropStream h _ listener)
  | receive a | handle f => cases hstep
  | fail e => exact beside_fail (hends _ rfl) s
  | elapse span => exact beside_elapse h s span
  | work => exact beside_work h s
  | cut calls e => exact beside_cut h (hends _ rfl) s calls
  | closeBoard e => exact beside_withExchange (Exchange.uses_close (hends _ rfl) _)
  | closeOutbound => exact beside_withExchange (Exchange.uses_closeOutbound _)
  | shutDown => exact .of_eq rfl rfl rfl rfl rfl
  | close => exact beside_close h s

end Beside

/-- No such step takes a frame. -/
theorem beside_noRoutes (s : Session) (step : {step : Step // step.isInbound = false}) :
    Beside (·.isRoute = false) s (s.take step.1) :=
  beside_take Board.Turn.admits_isRoute step.2 (fun _ _ => rfl) s

end Session

end MercuryLink
