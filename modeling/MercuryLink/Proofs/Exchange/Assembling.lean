import Mathlib.Data.List.Induction
import MercuryLink.Proofs.Exchange.Pushing

/-!
# How a push is put together

Seen from the history of one id, three of the operations on pushes in part are the same: the last
frame of a push, a frame that is no packet, and a look at the clock that finds the push expired all
reset it. What the last frame completes are the parts of all frames that have joined since the last
reset, and nothing else that an exchange does changes them. `sinceReset` reads this off the steps of
a run alone, and the invariant `Assembles` says that an open exchange holds exactly that. Nothing
remembers a push that was discarded: what still arrives of it is the beginning of another one.
-/

namespace MercuryLink

namespace Exchange

/-! ### The history of a push -/

/-- What a step adds to the push of an id: the parts of a packet that is not the last, and when the
push is given up from then on. Where the clock cannot show that moment the call breaks off and adds
nothing. -/
def Step.joins? (span : Timespan) (id : SequenceId) : Step → Option PartialPush
  | .route now f =>
    match f.push?, now.plus? span with
    | some (.intact p), some deadline =>
      if p.sequence = id ∧ p.isFinal = false then some ⟨p.parts, deadline⟩ else none
    | _, _ => none
  | _ => none

/-- What frames make up that join a push one after the other: their parts in this order, to be given
up when the last says so. -/
def joined? (frames : List PartialPush) : Option PartialPush :=
  frames.getLast?.map fun last => ⟨frames.flatMap (·.parts), last.deadline⟩

/-- Whether a step resets the push of an id, by the steps since it was reset before: its last frame,
a frame that shows the id but is no packet, and a look at the clock that finds it expired do. -/
def Step.resets (span : Timespan) (id : SequenceId) (since : List Step) : Step → Bool
  | .route _ f =>
    match f.push? with
    | some (.intact p) => p.sequence = id && p.isFinal
    | some (.broken shown) => shown = id
    | none => false
  | .sweep now => (joined? (since.filterMap (Step.joins? span id))).any (!·.isFresh now)
  | _ => false

/-- The steps of a run since the push of an id was last reset. -/
def sinceReset (span : Timespan) (id : SequenceId) (steps : List Step) : List Step :=
  steps.foldl (fun since step => if step.resets span id since then [] else since ++ [step]) []

/-- What has joined the push of an id since it was last reset. -/
def joinedSince (span : Timespan) (id : SequenceId) (steps : List Step) : List PartialPush :=
  (sinceReset span id steps).filterMap (Step.joins? span id)

/-- The parts that have joined the push of an id since it was last reset. -/
def partsSince (span : Timespan) (id : SequenceId) (steps : List Step) : List Bytes :=
  (joinedSince span id steps).flatMap (·.parts)

/-- Whether a step may change the push of an id: a frame for it, or a look at the clock. -/
def Step.concerns (id : SequenceId) : Step → Bool
  | .route _ f => f.push?.any (·.id = id)
  | .sweep _ => true
  | _ => false

/-- The message that a step completes, which is the last frame of a push. -/
def Step.completes? (span : Timespan) (before : List Step) : Step → Option Message
  | .route _ f =>
    match f.push? with
    | some (.intact p) =>
      if p.isFinal then
        (Message.ofParts p.sequence (partsSince span p.sequence before ++ p.parts)).toOption
      else none
    | _ => none
  | _ => none

/-- The messages that the steps of a run complete, in order, behind those of `before`. -/
def completed (span : Timespan) : List Step → List Step → List Message
  | _, [] => []
  | before, step :: later =>
    (step.completes? span before).toList ++ completed span (before ++ [step]) later

section History

variable {span : Timespan} {id : SequenceId} {steps : List Step} {step : Step}

/-- The parts of what has joined. -/
theorem parts_joined? (frames : List PartialPush) :
    ((joined? frames).map (·.parts)).getD [] = frames.flatMap (·.parts) := by
  cases frames using List.reverseRecOn with
  | nil => rfl
  | append_singleton frames last =>
    rw [joined?, List.getLast?_concat, Option.map_some, Option.map_some, Option.getD_some]

/-- One more step resets a push or goes behind the steps since then. -/
theorem sinceReset_concat (span : Timespan) (id : SequenceId) (steps : List Step) (step : Step) :
    sinceReset span id (steps ++ [step]) =
      if step.resets span id (sinceReset span id steps) then []
      else sinceReset span id steps ++ [step] := by
  rw [sinceReset, List.foldl_concat, ← sinceReset]

/-- The steps since a push was last reset are the last ones. -/
theorem sinceReset_suffix (span : Timespan) (id : SequenceId) (steps : List Step) :
    sinceReset span id steps <:+ steps := by
  induction steps using List.reverseRecOn with
  | nil => exact List.suffix_rfl
  | append_singleton steps step ih =>
    rw [sinceReset_concat]
    split
    · exact List.nil_suffix
    · obtain ⟨earlier, hearlier⟩ := ih
      exact ⟨earlier, by rw [← List.append_assoc, hearlier]⟩

/-- What joins a push is a packet that is not its last. -/
theorem Step.exists_of_joins? {frame : PartialPush} (h : step.joins? span id = some frame) :
    ∃ now f p, step = .route now f ∧ f.push? = some (.intact p) ∧ p.sequence = id ∧
      p.isFinal = false ∧ frame.parts = p.parts ∧ now.plus? span = some frame.deadline := by
  cases step with
  | route now f =>
    rw [joins?] at h
    split at h
    · next p deadline hf hdeadline =>
      split at h
      · next hjoins =>
        cases h
        exact ⟨now, f, p, rfl, hf, hjoins.1, hjoins.2, rfl, hdeadline⟩
      · cases h
    · cases h
  | _ => cases h

/-- What is to be given up at some moment was joined last by the frame that says so. -/
theorem exists_last_of_joined? {push : PartialPush}
    (h : joined? (joinedSince span id steps) = some push) :
    ∃ before last after frame, steps = before ++ last :: after ∧
      last.joins? span id = some frame ∧ frame.deadline = push.deadline ∧
      ∀ step ∈ after, step.joins? span id = none := by
  obtain ⟨frame, hlast, rfl⟩ := Option.map_eq_some_iff.1 h
  obtain ⟨frames, hframes⟩ := List.getLast?_eq_some_iff.1 hlast
  obtain ⟨earlier, hearlier⟩ := sinceReset_suffix span id steps
  obtain ⟨first, second, hsince, -, hsecond⟩ := List.filterMap_eq_append_iff.1 hframes
  obtain ⟨between, last, after, rfl, -, hjoins, hafter⟩ := List.filterMap_eq_cons_iff.1 hsecond
  refine ⟨earlier ++ (first ++ between), last, after, frame, ?_, hjoins, rfl, ?_⟩
  · rw [← hearlier, hsince, List.append_assoc, List.append_assoc]
  · exact List.filterMap_eq_nil_iff.1 hafter

/-- Nothing before a reset is left. -/
theorem sinceReset_of_resets (h : step.resets span id (sinceReset span id steps) = true)
    (later : List Step) :
    sinceReset span id (steps ++ step :: later) = sinceReset span id later := by
  have hreset : sinceReset span id (steps ++ [step]) = [] := by rw [sinceReset_concat, if_pos h]
  rw [List.append_cons, sinceReset, List.foldl_append, ← sinceReset, hreset, sinceReset]

/-- After a reset nothing has joined. -/
theorem joinedSince_of_resets (h : step.resets span id (sinceReset span id steps) = true) :
    joinedSince span id (steps ++ [step]) = [] := by
  rw [joinedSince, sinceReset_concat, if_pos h, List.filterMap_nil]

/-- What joins goes behind what has joined before. -/
theorem joinedSince_concat (h : step.resets span id (sinceReset span id steps) = false) :
    joinedSince span id (steps ++ [step]) =
      joinedSince span id steps ++ (step.joins? span id).toList := by
  rw [joinedSince, sinceReset_concat, h, if_neg Bool.false_ne_true, List.filterMap_append,
    ← joinedSince]
  cases hjoins : step.joins? span id with
  | none => rw [List.filterMap_cons_none hjoins, List.filterMap_nil, Option.toList_none]
  | some frame => rw [List.filterMap_cons_some hjoins, List.filterMap_nil, Option.toList_some]

/-- A frame that does not concern a push belongs to another one, if to any. -/
theorem Step.id_ne_of_not_concerns {now : Moment} {f : Frame}
    (h : (Step.route now f).concerns id = false) {frame : PushFrame} (hf : f.push? = some frame) :
    frame.id ≠ id := by
  rwa [concerns, hf, Option.any_some, decide_eq_false_iff_not] at h

/-- A step that does not concern a push does not reset it. -/
theorem Step.resets_of_not_concerns (h : step.concerns id = false) (since : List Step) :
    step.resets span id since = false := by
  cases step with
  | route now f =>
    rw [resets]
    cases hf : f.push? with
    | none => rfl
    | some frame =>
      have hother := id_ne_of_not_concerns h hf
      cases frame with
      | intact p => exact Bool.and_eq_false_imp.2 fun hid => absurd (of_decide_eq_true hid) hother
      | broken shown => exact decide_eq_false hother
  | sweep now => cases h
  | _ => rfl

/-- A step that does not concern a push adds nothing to it. -/
theorem Step.joins?_of_not_concerns (h : step.concerns id = false) :
    step.joins? span id = none := by
  cases step with
  | route now f =>
    rw [joins?]
    cases hf : f.push? with
    | none => rfl
    | some frame =>
      have hother := id_ne_of_not_concerns h hf
      cases frame with
      | intact p =>
        cases now.plus? span with
        | none => rfl
        | some deadline => exact if_neg fun hboth => hother hboth.1
      | broken shown => rfl
  | _ => rfl

/-- A step that does not concern a push leaves what has joined it. -/
theorem joinedSince_of_not_concerns (h : step.concerns id = false) :
    joinedSince span id (steps ++ [step]) = joinedSince span id steps := by
  rw [joinedSince_concat (Step.resets_of_not_concerns h _), Step.joins?_of_not_concerns h,
    Option.toList_none, List.append_nil]

/-- A frame ends what has joined its push, or joins it. -/
theorem joined?_route (span : Timespan) (id : SequenceId) (steps : List Step) (now : Moment)
    (f : Frame) :
    joined? (joinedSince span id (steps ++ [.route now f])) =
      f.pushAfter now span id (joined? (joinedSince span id steps)) := by
  rw [Frame.pushAfter]
  cases hconcerns : (Step.route now f).concerns id with
  | false =>
    rw [joinedSince_of_not_concerns hconcerns]
    cases hf : f.push? with
    | none => rfl
    | some frame => exact (if_neg (Step.id_ne_of_not_concerns hconcerns hf)).symm
  | true =>
    obtain ⟨frame, hf, hid⟩ : ∃ frame, f.push? = some frame ∧ frame.id = id := by
      simpa [Step.concerns, Option.any_eq_true] using hconcerns
    rw [hf]
    dsimp only
    rw [if_pos hid]
    cases frame with
    | broken shown =>
      have hresets : (Step.route now f).resets span id (sinceReset span id steps) = true := by
        rw [Step.resets, hf]
        exact decide_eq_true hid
      rw [joinedSince_of_resets hresets]
      rfl
    | intact p =>
      have hresets : (Step.route now f).resets span id (sinceReset span id steps) =
          p.isFinal := by
        have hshown : decide (p.sequence = id) = true := decide_eq_true hid
        rw [Step.resets, hf]
        dsimp only
        rw [hshown, Bool.true_and]
      rw [PushFrame.after]
      cases hfinal : p.isFinal with
      | true =>
        rw [joinedSince_of_resets (hresets.trans hfinal)]
        rfl
      | false =>
        rw [joinedSince_concat (hresets.trans hfinal), Step.joins?, hf, if_neg Bool.false_ne_true]
        cases now.plus? span with
        | none =>
          dsimp only
          rw [Option.toList_none, List.append_nil]
        | some deadline =>
          dsimp only
          rw [if_pos ⟨hid, hfinal⟩, Option.toList_some, parts_joined?, joined?,
            List.getLast?_concat, List.flatMap_append, List.flatMap_singleton]
          rfl

/-- A look at the clock ends what has joined a push if it finds that expired. -/
theorem joined?_sweep (span : Timespan) (id : SequenceId) (steps : List Step) (now : Moment) :
    joined? (joinedSince span id (steps ++ [.sweep now])) =
      (joined? (joinedSince span id steps)).filter (·.isFresh now) := by
  have hresets : (Step.sweep now).resets span id (sinceReset span id steps) =
      (joined? (joinedSince span id steps)).any (!·.isFresh now) := rfl
  have hstays : (joined? (joinedSince span id steps)).any (!·.isFresh now) = false →
      joinedSince span id (steps ++ [.sweep now]) = joinedSince span id steps := by
    intro hfresh
    rw [joinedSince_concat (hresets.trans hfresh)]
    exact List.append_nil _
  cases hjoined : joined? (joinedSince span id steps) with
  | none => rw [hstays (by rw [hjoined, Option.any_none]), hjoined, Option.filter_none]
  | some p =>
    cases hfresh : p.isFresh now with
    | true =>
      have hkept : (some p).filter (·.isFresh now) = some p := Option.filter_some_pos hfresh
      rw [hstays (by rw [hjoined, Option.any_some, hfresh, Bool.not_true]), hjoined, hkept]
    | false =>
      have hgone : (some p).filter (·.isFresh now) = none := Option.filter_some_neg hfresh
      rw [hjoined, Option.any_some, hfresh, Bool.not_false] at hresets
      rw [joinedSince_of_resets hresets, hgone]
      rfl

/-- Only the steps that concern a push matter to what joins it. -/
theorem filterMap_joins?_filter (span : Timespan) (id : SequenceId) (since : List Step) :
    (since.filter (·.concerns id)).filterMap (Step.joins? span id) =
      since.filterMap (Step.joins? span id) := by
  rw [List.filterMap_filter]
  refine List.filterMap_congr fun step _ => ?_
  split
  · rfl
  · next hnot => rw [Step.joins?_of_not_concerns (Bool.eq_false_iff.2 hnot)]

/-- Whether a step resets a push depends on the steps that concern it only. -/
theorem Step.resets_filter (span : Timespan) (id : SequenceId) (since : List Step) (step : Step) :
    step.resets span id (since.filter (·.concerns id)) = step.resets span id since := by
  cases step with
  | sweep now => rw [resets, resets, filterMap_joins?_filter]
  | _ => rfl

/-- The history of a push is made of the steps that concern it. -/
theorem sinceReset_filter (span : Timespan) (id : SequenceId) (steps : List Step) :
    sinceReset span id (steps.filter (·.concerns id)) =
      (sinceReset span id steps).filter (·.concerns id) := by
  induction steps using List.reverseRecOn with
  | nil => rfl
  | append_singleton steps step ih =>
    cases hstep : step.concerns id with
    | true =>
      have hkept : [step].filter (·.concerns id) = [step] := by simp [hstep]
      rw [List.filter_append, hkept, sinceReset_concat, sinceReset_concat, ih, Step.resets_filter]
      split
      · rfl
      · rw [List.filter_append, hkept]
    | false =>
      have hleft : [step].filter (·.concerns id) = [] := by simp [hstep]
      have hstays : step.resets span id (sinceReset span id steps) = false :=
        Step.resets_of_not_concerns hstep _
      rw [List.filter_append, hleft, List.append_nil, ih, sinceReset_concat, hstays,
        if_neg Bool.false_ne_true, List.filter_append, hleft, List.append_nil]

/-- What has joined a push depends on the steps that concern it only. -/
theorem joinedSince_filter (span : Timespan) (id : SequenceId) (steps : List Step) :
    joinedSince span id (steps.filter (·.concerns id)) = joinedSince span id steps := by
  rw [joinedSince, sinceReset_filter, filterMap_joins?_filter, joinedSince]

/-- What one more step completes goes behind what was completed before. -/
theorem completed_concat (span : Timespan) (before steps : List Step) (step : Step) :
    completed span before (steps ++ [step]) =
      completed span before steps ++ (step.completes? span (before ++ steps)).toList := by
  induction steps generalizing before with
  | nil => simp [completed]
  | cons first steps ih => simp [completed, ih]

end History

/-! ### Runs -/

/-- An exchange holds the pushes that have joined, in the given steps, since their last resets. -/
structure Holds (span : Timespan) (steps : List Step) (x : Exchange) : Prop where
  waits : x.pushSpan = span
  distinct : x.board.pushes.Distinct
  pushes : ∀ id, x.board.pushes.get? id = joined? (joinedSince span id steps)

section Holds

variable {span : Timespan} {steps : List Step} {x : Exchange}

/-- An exchange without pushes holds what no steps have brought. -/
theorem holds_nil (hwaits : x.pushSpan = span) (hpushes : x.board.pushes = []) :
    Holds span [] x := by
  refine ⟨hwaits, ?_, ?_⟩
  · rw [hpushes]
    exact List.nodup_nil
  · intro id
    rw [hpushes, Table.get?_nil]
    rfl

/-- A step that passes the pushes by. -/
theorem Holds.passes (h : Holds span steps x) {y : Exchange} (hxy : Passes x y) {step : Step}
    (hstep : step.isAside = true) : Holds span (steps ++ [step]) y := by
  have hconcerns : ∀ id, step.concerns id = false := by
    intro id
    cases step with
    | route now f | sweep now => cases hstep
    | _ => rfl
  refine ⟨hxy.span.trans h.waits, hxy.pushes ▸ h.distinct, ?_⟩
  intro id
  rw [hxy.pushes, h.pushes, joinedSince_of_not_concerns (hconcerns id)]

/-- A look at the clock removes the pushes that it finds expired, and leaves the others. -/
theorem Holds.sweep (h : Holds span steps x) (now : Moment) :
    Holds span (steps ++ [.sweep now]) (x.sweep now).1 := by
  refine ⟨h.waits, h.distinct.filter _, ?_⟩
  intro id
  change Table.get? (x.board.pushes.filter fun entry => entry.2.isFresh now) id = _
  rw [h.distinct.get?_filter (·.isFresh now), h.pushes, joined?_sweep]

/-- A frame changes the push that it belongs to. -/
theorem Holds.route (h : Holds span steps x) (now : Moment) (f : Frame) :
    Holds span (steps ++ [.route now f]) (x.route now f) := by
  refine ⟨h.waits, Board.distinct_route h.distinct now x.pushSpan f, ?_⟩
  intro id
  change (x.board.route now x.pushSpan f).1.pushes.get? id = _
  rw [Board.get?_pushes_route, joined?_route, h.pushes, h.waits]

/-- One more step joins the history of the pushes, or is an end. -/
theorem Holds.take (h : Holds span steps x) (step : Step) :
    Holds span (steps ++ [step]) (x.take step).1 ∨
      step.mayEnd = true ∧ Forgets x (x.take step).1 := by
  cases hstep : step.isAside with
  | true => exact (passes_or_forgets_take x hstep).imp_left fun hpasses => h.passes hpasses hstep
  | false =>
    cases step with
    | route now f => exact Or.inl (h.route now f)
    | sweep now => exact Or.inl (h.sweep now)
    | _ => cases hstep

/-- From no pushes on, an exchange holds what has joined in the steps since the last end: in all of
them, if none may be one. -/
theorem holds_run (hwaits : x.pushSpan = span) (hpushes : x.board.pushes = [])
    (steps : List Step) : ∃ since, since <:+ steps ∧ Holds span since (x.run steps) ∧
      ((∀ step ∈ steps, step.mayEnd = false) → since = steps) := by
  induction steps using List.reverseRecOn with
  | nil => exact ⟨[], List.suffix_rfl, holds_nil hwaits hpushes, fun _ => rfl⟩
  | append_singleton steps step ih =>
    obtain ⟨since, hsince, hholds, hall⟩ := ih
    rw [run_append]
    rcases hholds.take step with hstep | ⟨hend, hforgets⟩
    · obtain ⟨earlier, hearlier⟩ := hsince
      refine ⟨since ++ [step], ⟨earlier, by rw [← List.append_assoc, hearlier]⟩, hstep, ?_⟩
      intro hnone
      rw [hall fun other hother => hnone other (List.mem_append_left _ hother)]
    · refine ⟨[], List.nil_suffix, holds_nil (hforgets.span.trans hholds.waits) hforgets.pushes,
        ?_⟩
      intro hnone
      rw [hnone step (List.mem_append_right _ (List.mem_singleton_self _))] at hend
      cases hend

/-- So the table of a run from the start holds what was joined since it was emptied last. -/
theorem holds_run_empty (policy : ShutdownPolicy) (span : Timespan) (steps : List Step) :
    ∃ since, since <:+ steps ∧ Holds span since ((empty policy span).run steps) ∧
      ((∀ step ∈ steps, step.mayEnd = false) → since = steps) := by
  have hwaits : (empty policy span).pushSpan = span := rfl
  exact holds_run hwaits rfl steps

end Holds

/-- After some steps an open exchange holds the pushes that have joined since their last resets, and
its streams were sent what those steps completed at most. -/
structure Assembles (span : Timespan) (steps : List Step) (x : Exchange) : Prop where
  waits : x.pushSpan = span
  distinct : x.board.pushes.Distinct
  pushes : ∀ id, x.board.pushes.get? id = joined? (joinedSince span id steps)
  sent : ∀ id, (messages x.log id).Sublist (completed span [] steps)

section Assembles

variable {span : Timespan} {steps : List Step} {x : Exchange}

/-- The parts of a push that are on the board. -/
theorem Assembles.earlierParts (h : Assembles span steps x) (id : SequenceId) :
    x.board.earlierParts id = partsSince span id steps := by
  rw [Board.earlierParts, h.pushes, parts_joined?, partsSince]

/-- What an exchange assembles it holds. -/
theorem Assembles.holds (h : Assembles span steps x) : Holds span steps x :=
  ⟨h.waits, h.distinct, h.pushes⟩

/-- What an exchange holds it assembles, if its streams were sent no more than was completed. -/
theorem Holds.assembles (h : Holds span steps x)
    (hsent : ∀ id, (messages x.log id).Sublist (completed span [] steps)) :
    Assembles span steps x :=
  ⟨h.waits, h.distinct, h.pushes, hsent⟩

/-- A step that sends no message. -/
theorem Assembles.sent_of_silent (h : Assembles span steps x) {y : Exchange} (step : Step)
    (hsilent : ∀ id, messages y.log id = messages x.log id) (id : Nat) :
    (messages y.log id).Sublist (completed span [] (steps ++ [step])) := by
  rw [hsilent, completed_concat]
  exact (h.sent id).trans (List.sublist_append_left _ _)

/-- A step that passes the pushes by. -/
theorem Assembles.passes (h : Assembles span steps x) {y : Exchange} (hxy : Passes x y)
    {step : Step} (hstep : step.isAside = true) : Assembles span (steps ++ [step]) y :=
  (h.holds.passes hxy hstep).assembles (h.sent_of_silent step hxy.messages)

/-- A look at the clock sends no message to a listener. -/
theorem Assembles.sweep (h : Assembles span steps x) (now : Moment) :
    Assembles span (steps ++ [.sweep now]) (x.sweep now).1 := by
  refine (h.holds.sweep now).assembles (h.sent_of_silent (.sweep now) fun id => ?_)
  rw [Exchange.sweep, onBoard, messages_append, Board.sweep,
    messages_replies _ fun entry => .error (.timeout entry.timeout), List.append_nil]

/-- A frame sends to a stream at most the message that it completes. -/
theorem Assembles.sent_route (h : Assembles span steps x) (htidy : x.board.Tidy) (now : Moment)
    (f : Frame) (id : Nat) :
    (messages (x.board.route now x.pushSpan f).2 id).Sublist
      ((Step.route now f).completes? span steps).toList := by
  have honce := (Board.relists_route x.board now x.pushSpan f).once htidy id
  cases x.board.pushes_route now x.pushSpan f with
  | keeps shows pushes silent =>
    rw [silent id]
    exact List.nil_sublist _
  | discards shows step =>
    rw [step]
    exact List.nil_sublist _
  | @takes p shows step =>
    rw [step] at honce ⊢
    rw [Step.completes?, shows]
    dsimp only
    cases hfinal : p.isFinal with
    | false =>
      rw [(Board.takePush_of_not_final x.board now x.pushSpan hfinal).2]
      exact List.nil_sublist _
    | true =>
      rw [Board.takePush_of_final x.board now x.pushSpan hfinal, h.earlierParts] at honce ⊢
      rw [if_pos rfl]
      revert honce
      cases Message.ofParts p.sequence (partsSince span p.sequence steps ++ p.parts) with
      | error e => exact fun _ => List.nil_sublist _
      | ok m =>
        intro honce
        rw [List.eq_replicate_of_mem (Board.messages_deliver _ m id)]
        exact (List.replicate_sublist_replicate m).2 honce

/-- Taking a frame. -/
theorem Assembles.route (h : Assembles span steps x) (htidy : x.board.Tidy) (now : Moment)
    (f : Frame) : Assembles span (steps ++ [.route now f]) (x.route now f) := by
  refine (h.holds.route now f).assembles fun id => ?_
  rw [Exchange.route, onBoard, messages_append, completed_concat]
  exact (h.sent id).append (h.sent_route htidy now f id)

end Assembles

/-- The board of a run is tidy. -/
theorem tidy_run (policy : ShutdownPolicy) (span : Timespan) (steps : List Step) :
    ((empty policy span).run steps).board.Tidy := by
  have hgoes : Goes (fun _ => True) (empty policy span) ((empty policy span).run steps) :=
    goes_run (fun _ => trivial) _ steps
  obtain ⟨uses, -, hboard, -⟩ := hgoes
  rw [hboard]
  exact Board.tidy_empty.turns uses

/-- A run that leaves an exchange open holds what has joined its pushes. -/
theorem assembles_run (policy : ShutdownPolicy) (span : Timespan) {steps : List Step}
    (hopen : ((empty policy span).run steps).board.closeReason = none) :
    Assembles span steps ((empty policy span).run steps) := by
  induction steps using List.reverseRecOn with
  | nil => exact ⟨rfl, List.nodup_nil, fun _ => rfl, fun _ => List.Sublist.refl []⟩
  | append_singleton steps step ih =>
    rw [run_append] at hopen ⊢
    have h := ih (open_of_take hopen)
    cases hstep : step.isAside with
    | true => exact h.passes (passes_take hstep hopen) hstep
    | false =>
      cases step with
      | route now f => exact h.route (tidy_run policy span steps) now f
      | sweep now => exact h.sweep now
      | _ => cases hstep

/-- The last frame of a push takes it off the board, and delivers its message if its parts are
one. -/
theorem route_of_final (x : Exchange) (now : Moment) {f : Frame} {p : Packet}
    (hf : f.push? = some (.intact p)) (hfinal : p.isFinal = true) :
    let y : Exchange := { x with board.pushes := x.board.pushes.erase p.sequence }
    x.route now f =
      match Message.ofParts p.sequence (x.board.earlierParts p.sequence ++ p.parts) with
      | .error _ => y
      | .ok m => y.onBoard (y.board.deliver m) := by
  intro y
  rw [Exchange.route, Board.route_of_intact _ _ _ hf, Board.takePush_of_final _ _ _ hfinal]
  cases Message.ofParts p.sequence (x.board.earlierParts p.sequence ++ p.parts) with
  | error e =>
    dsimp only
    rw [onBoard, List.append_nil]
  | ok m => rfl

/-- **A push is made of what has joined it since its last reset.** As long as an exchange is open,
the last frame of a push is read as the message of the parts that have joined the push of its id
since it was last reset, in order of arrival, with its own parts behind them. If they are no message
the push is dropped, and if they are the message is delivered. Any other frame of a push sends
nothing. What has joined depends on the frames that show the id and on the looks at the clock alone:
two runs that agree on these hold the same parts, whatever else they do. Every stream is sent
messages in the order of the frames that complete them. -/
theorem pushes_follow_arrivals (policy : ShutdownPolicy) (span : Timespan) (steps : List Step)
    (hopen : ((empty policy span).run steps).board.closeReason = none) :
    let x := (empty policy span).run steps
    (∀ now f p, f.push? = some (.intact p) → p.isFinal = true →
      let y : Exchange := { x with board.pushes := x.board.pushes.erase p.sequence }
      x.route now f =
        match Message.ofParts p.sequence (partsSince span p.sequence steps ++ p.parts) with
        | .error _ => y
        | .ok m => y.onBoard (y.board.deliver m)) ∧
    (∀ now f p, f.push? = some (.intact p) → p.isFinal = false →
      (x.route now f).log = x.log ∧ (x.route now f).board.listeners = x.board.listeners) ∧
    (∀ id, x.board.earlierParts id = partsSince span id steps) ∧
    (∀ id policy' others,
      ((empty policy' span).run others).board.closeReason = none →
      others.filter (·.concerns id) = steps.filter (·.concerns id) →
      ((empty policy' span).run others).board.earlierParts id = x.board.earlierParts id) ∧
    ∀ id, (messages x.log id).Sublist (completed span [] steps) := by
  intro x
  have h : Assembles span steps x := assembles_run policy span hopen
  refine ⟨?_, ?_, h.earlierParts, ?_, h.sent⟩
  · intro now f p hf hfinal
    rw [← h.earlierParts]
    exact x.route_of_final now hf hfinal
  · intro now f p hf hfinal
    obtain ⟨hlisteners, hsilent⟩ := x.board.takePush_of_not_final now x.pushSpan hfinal
    rw [Exchange.route, Board.route_of_intact _ _ _ hf]
    refine ⟨?_, hlisteners⟩
    rw [onBoard, hsilent, List.append_nil]
  · intro id policy' others hothers hsame
    have h' := assembles_run policy' span hothers
    rw [h.earlierParts, h'.earlierParts, partsSince, partsSince, ← joinedSince_filter, hsame,
      joinedSince_filter]

deriving instance DecidableEq for Notice

/-- Neither another push nor a response with the same id comes into a push in two frames. -/
theorem pushes_follow_arrivals_interleaved :
    let x := (empty .drain (.ofSeconds 1)).run
      [.subscribe ⟨0⟩ "a" (.ofSeconds 5),
        .route ⟨0⟩ ⟨Command.mercuryEvent, [0, 1, 9, 0, 0, 1, 0, 3, 10, 1, 97]⟩,
        .route ⟨0⟩ ⟨Command.mercuryEvent, [0, 1, 7, 0, 0, 1, 0, 1, 5]⟩,
        .route ⟨0⟩ ⟨Command.mercuryRequest, [0, 1, 9, 1, 0, 1, 0, 1, 6]⟩]
    x.board.closeReason = none ∧
      (x.route ⟨0⟩ ⟨Command.mercuryEvent, [0, 1, 9, 1, 0, 1, 0, 1, 8]⟩).log =
        [.push 0 ⟨[9], "a", 0, none, [], [[8]]⟩] := by
  intro x
  have hopen : x.board.closeReason = none := by decide +kernel
  have h := (pushes_follow_arrivals .drain (.ofSeconds 1) _ hopen).1 ⟨0⟩
    ⟨Command.mercuryEvent, [0, 1, 9, 1, 0, 1, 0, 1, 8]⟩ ⟨[9], 1, [[8]]⟩ rfl (by decide)
  refine ⟨hopen, ?_⟩
  rw [h]
  decide +kernel

/-! ### Pushes that lost frames -/

/-- Whether a step discards what has joined the push of an id: a frame that shows the id but is no
packet, and a look at the clock that finds the push expired do. -/
def Step.discards (span : Timespan) (id : SequenceId) (before : List Step) : Step → Bool
  | .route _ f =>
    match f.push? with
    | some (.broken shown) => shown = id
    | _ => false
  | .sweep now => (joined? (joinedSince span id before)).any (!·.isFresh now)
  | _ => false

/-- What discards a push resets it. -/
theorem Step.resets_of_discards {span : Timespan} {id : SequenceId} {before : List Step}
    {step : Step} (h : step.discards span id before = true) :
    step.resets span id (sinceReset span id before) = true := by
  cases step with
  | route now f =>
    rw [discards] at h
    rw [resets]
    revert h
    rcases f.push? with _ | ⟨p | shown⟩
    · exact nofun
    · exact nofun
    · exact fun h => h
  | sweep now => exact h
  | _ => cases h

/-- An exchange that is open was open all along. -/
theorem open_of_run {x : Exchange} {first later : List Step}
    (hopen : (x.run (first ++ later)).board.closeReason = none) :
    (x.run first).board.closeReason = none := by
  induction later using List.reverseRecOn with
  | nil => rwa [List.append_nil] at hopen
  | append_singleton later step ih =>
    rw [← List.append_assoc, run_append] at hopen
    exact ih (open_of_take hopen)

/-- **What is left of a push that lost frames stands alone.** A push has begun, and what has joined
it was discarded before its last frame. Nothing of that comes back: the last frame is read with what
has joined since. If the first part of this does not decode as a header nothing is sent, and no
listener changes. But nothing marks the rest as a rest, so if that part does decode, the rest is
delivered as the push that it looks like. -/
theorem remainder_stands_alone (policy : ShutdownPolicy) (span : Timespan) (before : List Step)
    (discard : Step) (tail : List Step) (now : Moment) (f : Frame) (p : Packet)
    (hopen : ((empty policy span).run (before ++ discard :: tail)).board.closeReason = none)
    (hbegun : joinedSince span p.sequence before ≠ [])
    (hdiscard : discard.discards span p.sequence before = true)
    (hf : f.push? = some (.intact p)) (hfinal : p.isFinal = true) :
    let x := (empty policy span).run (before ++ discard :: tail)
    let y : Exchange := { x with board.pushes := x.board.pushes.erase p.sequence }
    let remainder := partsSince span p.sequence tail ++ p.parts
    ((empty policy span).run before).board.pushes.get? p.sequence ≠ none ∧
    ((empty policy span).run (before ++ [discard])).board.pushes.get? p.sequence = none ∧
    ((∀ header payload h, remainder = header :: payload → Header.decode header ≠ .ok h) →
      x.route now f = y) ∧
    ∀ header payload h, remainder = header :: payload → Header.decode header = .ok h →
      x.route now f = y.onBoard (y.board.deliver (.ofHeader p.sequence h payload)) := by
  intro x y remainder
  have hresets := Step.resets_of_discards hdiscard
  have hjoined : partsSince span p.sequence (before ++ discard :: tail) =
      partsSince span p.sequence tail := by
    rw [partsSince, joinedSince, sinceReset_of_resets hresets, ← joinedSince, ← partsSince]
  have hroute : x.route now f =
      match Message.ofParts p.sequence remainder with
      | .error _ => y
      | .ok m => y.onBoard (y.board.deliver m) := by
    have h := x.route_of_final now hf hfinal
    rwa [(assembles_run policy span hopen).earlierParts, hjoined] at h
  refine ⟨?_, ?_, ?_, ?_⟩
  · rw [(assembles_run policy span (open_of_run hopen)).pushes, joined?]
    intro hnone
    exact hbegun (List.getLast?_eq_none_iff.1 (Option.map_eq_none_iff.1 hnone))
  · rw [List.append_cons] at hopen
    rw [(assembles_run policy span (open_of_run hopen)).pushes, joinedSince_of_resets hresets]
    rfl
  · intro hno
    rw [hroute]
    cases hremainder : remainder with
    | nil => rfl
    | cons header payload =>
      rw [Message.ofParts]
      cases hdecode : Header.decode header with
      | error e => rfl
      | ok h => exact absurd hdecode (hno header payload h hremainder)
  · intro header payload h hremainder hdecode
    rw [hroute, hremainder, Message.ofParts, hdecode]

/-- A push in two frames loses the first, by a late look at the clock as by a frame that is no
packet, and the message of the second alone is delivered. -/
theorem remainder_is_delivered :
    let begun : List Step :=
      [.subscribe ⟨0⟩ "a" (.ofSeconds 5),
        .route ⟨0⟩ ⟨Command.mercuryEvent, [0, 1, 9, 0, 0, 2, 0, 3, 10, 1, 97, 0, 1, 5]⟩]
    let last : Frame := ⟨Command.mercuryEvent, [0, 1, 9, 1, 0, 2, 0, 3, 10, 1, 97, 0, 1, 8]⟩
    let parts : List Bytes := [[10, 1, 97], [8]]
    let m : Message := ⟨[9], "a", 0, none, [], [[8]]⟩
    joinedSince (.ofSeconds 1) [9] begun ≠ [] ∧ last.push? = some (.intact ⟨[9], 1, parts⟩) ∧
    Message.ofParts [9] parts = .ok m ∧
    ∀ discard ∈ [Step.sweep (.ofMillis 2000),
        Step.route ⟨0⟩ ⟨Command.mercuryEvent, [0, 1, 9, 1, 0, 2]⟩],
      discard.discards (.ofSeconds 1) [9] begun = true ∧
      messages (((empty .drain (.ofSeconds 1)).run (begun ++ [discard])).route (.ofMillis 2000)
        last).log 0 = [m] := by
  intro begun last parts m
  refine ⟨by decide +kernel, rfl, by decide +kernel, ?_⟩
  intro discard hdiscard
  simp only [List.mem_cons, List.not_mem_nil, or_false] at hdiscard
  rcases hdiscard with rfl | rfl
  · exact ⟨by decide +kernel, by decide +kernel⟩
  · exact ⟨by decide +kernel, by decide +kernel⟩

/-- The rest of a push that was found expired, whose first part is no header, is dropped. -/
theorem remainder_stands_alone_headless :
    let x := (empty .drain (.ofSeconds 1)).run
      ([.subscribe ⟨0⟩ "a" (.ofSeconds 5),
        .route ⟨0⟩ ⟨Command.mercuryEvent, [0, 1, 9, 0, 0, 2, 0, 3, 10, 1, 97, 0, 1, 5]⟩] ++
        .sweep (.ofMillis 2000) :: [])
    x.board.closeReason = none ∧
      (x.route (.ofMillis 2000) ⟨Command.mercuryEvent, [0, 1, 9, 1, 0, 1, 0, 1, 8]⟩).log = [] := by
  intro x
  have hopen : x.board.closeReason = none := by decide +kernel
  have hbegun : joinedSince (.ofSeconds 1) [9] [.subscribe ⟨0⟩ "a" (.ofSeconds 5),
      .route ⟨0⟩ ⟨Command.mercuryEvent, [0, 1, 9, 0, 0, 2, 0, 3, 10, 1, 97, 0, 1, 5]⟩] ≠ [] := by
    decide +kernel
  have h := (remainder_stands_alone .drain (.ofSeconds 1) _ (.sweep (.ofMillis 2000)) []
    (.ofMillis 2000) ⟨Command.mercuryEvent, [0, 1, 9, 1, 0, 1, 0, 1, 8]⟩ ⟨[9], 1, [[8]]⟩
    hopen hbegun (by decide +kernel) rfl (by decide)).2.2.1
  refine ⟨hopen, ?_⟩
  rw [h]
  · decide +kernel
  · intro header payload record hparts hdecode
    cases hparts
    have hheadless : (Header.decode [8]).toOption = none := by decide +kernel
    rw [hdecode] at hheadless
    cases hheadless

end Exchange

end MercuryLink
