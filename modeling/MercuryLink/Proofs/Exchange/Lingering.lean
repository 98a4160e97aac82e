import MercuryLink.Proofs.Exchange.Assembling

/-!
# Pushes in part behind an end

An end forgets the pushes in part, and no call is accepted after it. But frames are taken as before,
and taking one does not ask whether the exchange is closed: a frame that begins a push puts it on
the board again. It stays there to no purpose. Its last frame finds no listener, and what looks at
the clock stops with the exchange. The board then holds what has joined behind the end, as one that
was never used would.
-/

namespace MercuryLink.Exchange

/-- A step that closes an exchange forgets its pushes. -/
theorem forgets_of_end {x : Exchange} {step : Step} {e : LinkError}
    (hopen : x.board.closeReason = none)
    (hclosed : (x.take step).1.board.closeReason = some e) : Forgets x (x.take step).1 := by
  have hchanges : (x.take step).1.board.closeReason ≠ x.board.closeReason := by
    rw [hopen, hclosed]
    exact Option.some_ne_none e
  cases hstep : step.isAside with
  | true =>
    rcases passes_or_forgets_take x hstep with hpasses | ⟨-, hforgets⟩
    · exact absurd hpasses.reason hchanges
    · exact hforgets
  | false =>
    cases step with
    | route now f => exact absurd (x.board.closeReason_route now x.pushSpan f) hchanges
    | sweep now => exact absurd rfl hchanges
    | _ => cases hstep

/-- A push that nothing joins is not held. -/
theorem joinedSince_eq_nil {span : Timespan} {id : SequenceId} {steps : List Step}
    (h : ∀ step ∈ steps, step.joins? span id = none) : joinedSince span id steps = [] :=
  List.filterMap_eq_nil_iff.2 fun step hstep => h step ((sinceReset_suffix span id steps).subset hstep)

/-- **What joins a push behind an end stays.** The step that closes an exchange leaves no push in
part. From there on the board holds what has joined since the last end: in all later steps, if none
of them ends the link once more. So it holds a push only if some frame behind the end began one, and
stays empty if none does. Nothing of it is ever sent, and every further end forgets it. -/
theorem pushes_behind_end (policy : ShutdownPolicy) (span : Timespan) (before : List Step)
    (ending : Step) (e : LinkError) (later : List Step)
    (hopen : ((empty policy span).run before).board.closeReason = none)
    (hclosed : ((empty policy span).run (before ++ [ending])).board.closeReason = some e) :
    let y := (empty policy span).run (before ++ ending :: later)
    let z := (empty policy span).run (before ++ [ending])
    z.board.pushes = [] ∧
    (∃ since, since <:+ later ∧
      (∀ id, y.board.pushes.get? id = joined? (joinedSince span id since)) ∧
      ((∀ step ∈ later, step.mayEnd = false) → since = later)) ∧
    (∀ id, (∀ step ∈ later, step.joins? span id = none) → y.board.pushes.get? id = none) ∧
    ((∀ step ∈ later, ∀ id, step.joins? span id = none) → y.board.pushes = []) ∧
    y.board.closeReason = some e ∧ y.log = z.log ∧
    ∀ why, (y.close why).board.pushes = [] ∧ (y.abort why).board.pushes = [] := by
  intro y z
  let x := (empty policy span).run before
  have hstep : z = (x.take ending).1 := by simp only [x, z, run_append, run_cons, run_nil]
  have hlater : y = z.run later := by
    rw [hstep]
    simp only [x, y, run_append, run_cons]
  have hclosed' : (x.take ending).1.board.closeReason = some e := hstep ▸ hclosed
  have hforgets : Forgets x z := hstep ▸ forgets_of_end hopen hclosed'
  have hshut : z.board.Shut e := (hstep ▸ ends_take hopen hclosed' : Ends x z e).shut
  have hrests : Rests z y := hlater ▸ rests_run hshut later
  obtain ⟨_, -, hearlier, -⟩ := holds_run_empty policy span before
  obtain ⟨since, hsince, hholds, hall⟩ :=
    holds_run (hforgets.span.trans hearlier.waits) hforgets.pushes later
  rw [← hlater] at hholds
  have hnone : ∀ id, (∀ step ∈ later, step.joins? span id = none) →
      y.board.pushes.get? id = none := by
    intro id hno
    rw [hholds.pushes, joinedSince_eq_nil fun step hmem => hno step (hsince.subset hmem)]
    rfl
  refine ⟨hforgets.pushes, ⟨since, hsince, hholds.pushes, hall⟩, hnone, ?_,
    (hrests.shut hshut).reason, hrests.log, fun why => ⟨rfl, rfl⟩⟩
  intro hno
  refine List.eq_nil_iff_forall_not_mem.2 fun entry hentry => ?_
  have habsent := hnone entry.1 fun step hmem => hno step hmem entry.1
  exact Table.get?_eq_none_iff.1 habsent entry hentry rfl

/-- A push in part is forgotten by the end; a response that comes behind the end begins none. -/
theorem pushes_behind_end_response :
    let y := (empty .drain (.ofSeconds 30)).run
      ([.route ⟨0⟩ ⟨Command.mercuryEvent, [0, 1, 9, 0, 0, 1, 0, 1, 97]⟩] ++ .close .closed ::
        [.route ⟨0⟩ ⟨Command.mercuryRequest, [0, 1, 9, 0, 0, 1, 0, 1, 97]⟩])
    y.board.closeReason = some .closed ∧ y.board.pushes = [] := by
  have h := pushes_behind_end .drain (.ofSeconds 30)
    [.route ⟨0⟩ ⟨Command.mercuryEvent, [0, 1, 9, 0, 0, 1, 0, 1, 97]⟩] (.close .closed) .closed
    [.route ⟨0⟩ ⟨Command.mercuryRequest, [0, 1, 9, 0, 0, 1, 0, 1, 97]⟩]
    (by decide +kernel) (by decide +kernel)
  obtain ⟨-, -, -, hnone, hreason, -⟩ := h
  refine ⟨hreason, hnone ?_⟩
  intro step hstep id
  obtain rfl := List.mem_singleton.1 hstep
  rfl

/-- A frame that begins a push behind the end leaves it on the board of the closed exchange. -/
theorem push_begins_behind_end :
    let y := (empty .drain (.ofSeconds 30)).run
      [.close .closed, .route ⟨0⟩ ⟨Command.mercuryEvent, [0, 1, 9, 0, 0, 1, 0, 1, 97]⟩]
    y.board.closeReason = some .closed ∧ y.board.pushes = [([9], ⟨[[97]], .ofMillis 30000⟩)] := by
  decide +kernel

end MercuryLink.Exchange
