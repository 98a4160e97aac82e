import MercuryLink.Proofs.Session.Loop
import MercuryLink.Proofs.Stream.Latching

/-!
# What the receive loop does

What the receive loop of a session does is told by the frames that it has handled: which answers it
has queued, which frames the board was given, and which country was announced last. No frame that
opens is above the limit, which is that of the outbound half as well. A failure that ends the
receiving closes the board, and nothing is handled after it.
-/

namespace MercuryLink

namespace Opener

/-! ### The size of what opens -/

/-- An opener waits for no body above its limit. -/
def Bounded (o : Opener) : Prop :=
  ∀ command length nonce cipher, o.phase = .body command length nonce cipher → length ≤ o.limit

/-- An opener before a header waits for no body. -/
theorem Bounded.of_header {o : Opener} (h : o.phase = .header) : o.Bounded := by
  intro command length nonce cipher hbody
  rw [h] at hbody
  cases hbody

/-- An attempt leaves an opener that waits for no body above its limit, and opens no frame above
it. -/
structure Bounds (o : Opener) (a : Attempt) : Prop where
  bounded : a.opener.Bounded
  frame : ∀ f, a.outcome = .ok (some f) → f.payload.length ≤ o.limit

/-- An attempt that fails opens no frame. -/
theorem Bounds.of_error {o : Opener} {a : Attempt} {e : FrameError} (h : a.opener.Bounded)
    (herror : a.outcome = .error e) : o.Bounds a := by
  refine ⟨h, ?_⟩
  intro f hf
  rw [herror] at hf
  cases hf

/-- Nor does one that waits for more. -/
theorem Bounds.of_none {o : Opener} {a : Attempt} (h : a.opener.Bounded)
    (hnone : a.outcome = .ok none) : o.Bounds a := by
  refine ⟨h, ?_⟩
  intro f hf
  rw [hnone] at hf
  cases hf

theorem bounds_openBody {o : Opener} {length : Nat} (hlength : length ≤ o.limit)
    (command : Command) (nonce : UInt32) (cipher : Shannon.State) (source : Bytes) :
    o.Bounds (o.openBody command length nonce cipher source) := by
  refine ⟨?_, ?_⟩
  · rw [openBody]
    split
    · rintro _ _ _ _ ⟨⟩
      exact hlength
    · dsimp only
      split
      · exact .of_header rfl
      · exact .of_header rfl
  · intro f hf
    rw [(eq_wireBody_of_openBody hf).2.1]
    exact hlength

theorem bounds_openHeader {o : Opener} (ho : o.Bounded) (source : Bytes) :
    o.Bounds (o.openHeader source) := by
  rw [openHeader.eq_def]
  split
  · split
    · exact .of_error ho rfl
    · dsimp only
      split
      · exact .of_error ho rfl
      · next hfits =>
        have hbody := bounds_openBody (o := { o with count := o.count + 1 }) (Nat.le_of_not_lt hfits)
        exact ⟨(hbody _ _ _ _).bounded, (hbody _ _ _ _).frame⟩
  · exact .of_none ho rfl

theorem bounds_next {o : Opener} (ho : o.Bounded) (source : Bytes) : o.Bounds (o.next source) := by
  rw [next]
  split
  · exact .of_error ho rfl
  · split
    · exact bounds_openHeader ho source
    · next hphase => exact bounds_openBody (ho _ _ _ _ hphase) _ _ _ source

/-- An opener goes on with the same limit, and waits for no body above it if it did not before. -/
structure Keeps (o o' : Opener) : Prop where
  limit : o'.limit = o.limit
  bounded : o.Bounded → o'.Bounded

theorem Keeps.refl (o : Opener) : o.Keeps o := ⟨rfl, id⟩

end Opener

namespace Session

/-! ### What a move does -/

/-- What a move of the receive loop does: nothing but to wait for more, or it handles a frame that
fits the limit, or a failure ends the receiving that refuses at most what is above the limit. -/
inductive Does (s : Session) : Option Handling → Option FrameError → Session → Prop where
  | waits {opener : Opener} {buffer : Bytes} {receiving : Bool} (keeps : s.opener.Keeps opener) :
    Does s none none { s with opener, buffer, receiving }
  | handles {opener : Opener} {buffer : Bytes} {f : Frame} (keeps : s.opener.Keeps opener)
    (fits : s.opener.Bounded → f.payload.length ≤ s.opener.limit) :
    Does s (some ⟨f, s.now, s.accepts⟩) none ({ s with opener, buffer }.handle f)
  | fails {opener : Opener} {buffer : Bytes} {e : FrameError} (keeps : s.opener.Keeps opener)
    (refuses : e.Refuses s.opener.limit) :
    Does s none (some e) ({ s with opener, buffer }.fail e)

theorem does_next (s : Session) : Does s (s.handling? .next) (s.failure? .next) s.openNext := by
  cases h : s.receiving with
  | false =>
    rw [openNext_of_stopped h, handling?, failure?, h]
    exact .waits (.refl _)
  | true =>
    rw [handling?, failure?, if_neg (not_stopped h), if_neg (not_stopped h)]
    generalize hnext : s.opener.next s.buffer = attempt
    obtain ⟨opener, rest, outcome⟩ := attempt
    have hkeeps : s.opener.Keeps opener := by
      refine ⟨?_, fun hbounded => ?_⟩
      · have hlimit := (s.opener.minds_next s.buffer).limit
        rwa [hnext] at hlimit
      · have hafter := (Opener.bounds_next hbounded s.buffer).bounded
        rwa [hnext] at hafter
    cases outcome with
    | error e =>
      rw [openNext_of_error h hnext]
      exact .fails hkeeps ((s.opener.minds_next s.buffer).refuses e (by rw [hnext]))
    | ok found =>
      cases found with
      | none =>
        rw [openNext_of_none h hnext]
        exact .waits hkeeps
      | some f =>
        rw [openNext_of_some h hnext]
        refine .handles hkeeps fun hbounded => ?_
        exact (Opener.bounds_next hbounded s.buffer).frame f (by rw [hnext])

theorem does_read (s : Session) (a : Arrival) :
    Does s none (s.failure? (.read a)) (s.readOnce a) := by
  rw [failure?]
  cases h : s.receiving with
  | false =>
    rw [readOnce_of_stopped h]
    exact .waits (.refl _)
  | true =>
    rw [readOnce.eq_def, h]
    cases a with
    | bytes chunk =>
      cases chunk with
      | nil => exact .fails (.refl _) (.of_isTooLarge rfl)
      | cons b bs => exact .waits (.refl _)
    | fault f =>
      change Does s none (if f.isTransient || f.isIdle then none else some (.io f)) (s.takeFault f)
      rw [takeFault]
      cases f.isTransient with
      | true => exact .waits (.refl _)
      | false =>
        cases f.isIdle with
        | false => exact .fails (.refl _) (.of_isTooLarge rfl)
        | true =>
          cases s.exchange.isClosed with
          | true => exact .waits (.refl _)
          | false => exact .waits (.refl _)

theorem does_advance (s : Session) {m : Move} (hloop : m.isLoop = true) :
    Does s (s.handling? m) (s.failure? m) (s.advance m) := by
  cases m with
  | next => exact s.does_next
  | read a => exact s.does_read a
  | beside step => cases hloop

/-- What the handling of a frame does to a session. -/
structure Handles (s : Session) (h : Handling) (t : Session) : Prop where
  opener : t.opener = s.opener
  limit : t.outlet.limit = s.outlet.limit
  country : t.country = h.country?.or s.country
  turns : Exchange.Turns (h.route? s.exchange.pushSpan).toList s.exchange t.exchange
  span : t.exchange.pushSpan = s.exchange.pushSpan
  waiting : ∃ new, t.exchange.outbound.waiting = s.exchange.outbound.waiting ++ new ∧
    new.map (·.2) = h.answer?.toList

theorem handles_handle (s : Session) (f : Frame) :
    Handles s ⟨f, s.now, s.accepts⟩ (s.handle f) := by
  rw [handle]
  split
  · next hping =>
    have hroute : f.command.isMercury = false := by rw [hping]; rfl
    have hcountry : ¬f.command = Command.countryCode := by rw [hping]; decide
    have huses : s.exchange.Uses (·.isRoute = false)
        (s.exchange.sendFrame ⟨Command.pong, f.payload⟩).1 := Exchange.uses_sendFrame _ _
    refine ⟨rfl, (rests_severed _ _).limit, ?_, ?_, huses.span, ?_⟩
    · rw [Handling.country?, if_neg hcountry]
      rfl
    · obtain ⟨hboard, hlog⟩ := s.exchange.sendFrame_leaves_board ⟨Command.pong, f.payload⟩
      rw [Handling.route?, if_neg (by rw [hroute]; decide)]
      exact .of_eq hboard hlog
    · obtain ⟨new, hwaiting, hnew⟩ := s.exchange.waiting_sendFrame ⟨Command.pong, f.payload⟩
      refine ⟨new, hwaiting, hnew.trans ?_⟩
      rw [Handling.answer?]
      simp only [hping, decide_true, Bool.and_true, accepts, isOpen]
      split
      · rfl
      · rfl
  · next hping =>
    have hsilent : (Handling.answer? ⟨f, s.now, s.accepts⟩).toList = [] := by
      rw [Handling.answer?, if_neg (by simp [hping])]
      rfl
    split
    · next hcountry =>
      have hroute : f.command.isMercury = false := by rw [hcountry]; rfl
      refine ⟨rfl, rfl, ?_, ?_, rfl, [], (List.append_nil _).symm, hsilent.symm⟩
      · rw [Handling.country?, if_pos hcountry]
        rfl
      · rw [Handling.route?, if_neg (by rw [hroute]; decide)]
        exact .of_eq rfl rfl
    · next hcountry =>
      have hkept : s.country = (Handling.country? ⟨f, s.now, s.accepts⟩).or s.country := by
        rw [Handling.country?, if_neg hcountry]
        rfl
      split
      · next hmercury =>
        refine ⟨rfl, (rests_severed _ _).limit, hkept, ?_, rfl, [], (List.append_nil _).symm,
          hsilent.symm⟩
        rw [Handling.route?, if_pos hmercury]
        exact .turn (t := .route s.now s.exchange.pushSpan f) rfl rfl
      · next hmercury =>
        refine ⟨rfl, rfl, hkept, ?_, rfl, [], (List.append_nil _).symm, hsilent.symm⟩
        rw [Handling.route?, if_neg hmercury]
        exact .of_eq rfl rfl

/-- What a move leaves of a session, if it handles this frame, or none. -/
structure Progress (s : Session) (handled : Option Handling) (t : Session) : Prop where
  opener : s.opener.Keeps t.opener
  fits : s.opener.Bounded → ∀ h ∈ handled, h.frame.payload.length ≤ s.opener.limit
  limit : t.outlet.limit = s.outlet.limit
  country : t.country = (handled.bind Handling.country?).or s.country
  routes : s.exchange.Routes (handled.bind (Handling.route? s.exchange.pushSpan)).toList t.exchange

section Does

variable {s t : Session} {handled : Option Handling} {failure : Option FrameError}

/-- The board is used for the frame that is handled, and for no other. -/
theorem Does.turns {h : Handling} (hdoes : Does s (some h) failure t) :
    Exchange.Turns (h.route? s.exchange.pushSpan).toList s.exchange t.exchange := by
  cases hdoes with
  | @handles opener buffer f keeps fits =>
    have hturns := (handles_handle { s with opener, buffer } f).turns
    exact ⟨hturns.board, hturns.log⟩

/-- A Mercury frame that is handled is taken by the board, once. -/
theorem Does.takes {h : Handling} (hdoes : Does s (some h) failure t)
    (hmercury : h.frame.command.isMercury = true) :
    t.exchange.board = (s.exchange.board.turn (.route h.now s.exchange.pushSpan h.frame)).1 ∧
      t.exchange.log =
        s.exchange.log ++ (s.exchange.board.turn (.route h.now s.exchange.pushSpan h.frame)).2 := by
  have hturns := hdoes.turns
  rw [Handling.route?, if_pos hmercury] at hturns
  exact hturns.single

/-- A move that handles nothing only closes the board, if it meets a failure. -/
theorem Does.closes (hdoes : Does s none failure t) :
    Exchange.Turns (failure.map fun e => .close (.ofFrame e)).toList s.exchange t.exchange := by
  cases hdoes with
  | waits keeps => exact .of_eq rfl rfl
  | @fails opener buffer e => exact .turn (t := .close (.ofFrame e)) rfl rfl

theorem Does.progress (h : Does s handled failure t) : Progress s handled t := by
  cases h with
  | waits keeps => exact ⟨keeps, nofun, rfl, rfl, .refl _⟩
  | @handles opener buffer f keeps fits =>
    have hhandles := handles_handle { s with opener, buffer } f
    have hroutes := hhandles.turns.routes (fun _ => Handling.isRoute_of_route?) hhandles.span
    refine ⟨?_, ?_, hhandles.limit, hhandles.country, hroutes⟩
    · rw [hhandles.opener]
      exact keeps
    · rintro hbounded _ ⟨⟩
      exact fits hbounded
  | @fails opener buffer e keeps =>
    have hclose : (Board.Turn.close (.ofFrame e)).isRoute = false := rfl
    have hends : Beside (·.isRoute = false) { s with opener, buffer } _ := beside_fail hclose _
    exact ⟨keeps, nofun, hends.limit, rfl, hends.exchange.noRoutes⟩

/-- The receive loop queues answers behind what waits, and nothing else. -/
theorem Does.waiting (h : Does s handled failure t) :
    ∃ new, t.exchange.outbound.waiting = s.exchange.outbound.waiting ++ new ∧
      new.map (·.2) = (handled.bind Handling.answer?).toList := by
  cases h with
  | waits | fails => exact ⟨[], (List.append_nil _).symm, rfl⟩
  | @handles opener buffer f keeps fits =>
    exact (handles_handle { s with opener, buffer } f).waiting

/-- A failure ends the receiving, and closes the board unless it is closed. -/
theorem Does.ends {e : FrameError} (h : Does s handled (some e) t) :
    t.receiving = false ∧ t.closeReason = some (s.closeReason.getD (.ofFrame e)) := by
  cases h with
  | fails => exact ⟨rfl, rfl⟩

end Does

/-- What goes on beside the receive loop handles nothing. -/
theorem Beside.progress {s t : Session} (h : Beside (·.isRoute = false) s t) :
    Progress s none t := by
  refine ⟨?_, nofun, h.limit, h.country, h.exchange.noRoutes⟩
  rw [h.opener]
  exact .refl _

theorem progress_advance (s : Session) (m : Move) : Progress s (s.handling? m) (s.advance m) := by
  cases m with
  | next | read a => exact (s.does_advance rfl).progress
  | beside step => exact (s.beside_noRoutes step).progress

/-! ### What moves have done -/

/-- What a single value gives, if there is one. -/
theorem filterMap_toList {α β : Type} (f : α → Option β) (a : Option α) :
    a.toList.filterMap f = (a.bind f).toList := by
  cases a with
  | none => rfl
  | some a =>
    rw [Option.toList_some, List.filterMap_cons, Option.bind_some]
    cases f a with
    | none => rfl
    | some b => rfl

/-- A session started with some settings serves the frames it has handled. -/
structure Serves (settings : SessionSettings) (handled : List Handling) (s : Session) : Prop where
  inbound : s.opener.limit = settings.frame.payloadLimit
  bounded : s.opener.Bounded
  outbound : s.outlet.limit = settings.frame.payloadLimit
  fits : ∀ h ∈ handled, h.frame.payload.length ≤ settings.frame.payloadLimit
  country : s.country = (handled.filterMap Handling.country?).getLast?
  routes : (Exchange.empty settings.policy settings.pushSpan).Routes
    (handled.filterMap (Handling.route? settings.pushSpan)) s.exchange

section Serves

variable {settings : SessionSettings} {handled : List Handling} {s t : Session}

theorem Serves.progress (hs : Serves settings handled s) {h : Option Handling}
    (hstep : Progress s h t) : Serves settings (handled ++ h.toList) t where
  inbound := hstep.opener.limit.trans hs.inbound
  bounded := hstep.opener.bounded hs.bounded
  outbound := hstep.limit.trans hs.outbound
  fits := by
    intro h' hmem
    rcases List.mem_append.1 hmem with hbefore | hnew
    · exact hs.fits h' hbefore
    · exact hs.inbound ▸ hstep.fits hs.bounded h' (Option.mem_toList.1 hnew)
  country := by
    rw [hstep.country, hs.country, List.filterMap_append, filterMap_toList, List.getLast?_append]
    cases h.bind Handling.country? with
    | none => rfl
    | some country => rfl
  routes := by
    rw [List.filterMap_append, filterMap_toList]
    have hspan : s.exchange.pushSpan = settings.pushSpan := hs.routes.span
    exact hs.routes.trans (hspan ▸ hstep.routes)

theorem Serves.advanceAll (hs : Serves settings handled s) (moves : List Move) :
    Serves settings (handled ++ s.handlings moves) (s.advanceAll moves) := by
  induction moves generalizing handled s with
  | nil =>
    rw [handlings, List.append_nil]
    exact hs
  | cons m later ih =>
    rw [handlings, ← List.append_assoc]
    exact ih (hs.progress (s.progress_advance m))

end Serves

/-- A session that has ended keeps its reason. -/
theorem closeReason_advanceAll {s : Session} {e : LinkError} (h : s.closeReason = some e)
    (moves : List Move) : (s.advanceAll moves).closeReason = some e := by
  induction moves generalizing s with
  | nil => exact h
  | cons m later ih => exact ih ((s.progress_advance m).routes.closeReason h)

end Session

end MercuryLink
