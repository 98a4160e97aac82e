import MercuryLink.Proofs.Exchange.Run

/-!
# Every request is answered once

The counts of ids and slots only grow, and a request takes the next of both. So an id that was used
is never used again, and a slot belongs to one request. The invariant `Accounted` ties the handles
that were given out to the board and the log: a slot is on the board or in the log but never twice,
and every handle is in one of the two places. The main statement reads this off for whole runs: a
handle is unresolved exactly as long as the board holds its slot under its id, and it is answered at
most once, whatever comes first.
-/

namespace MercuryLink

/-- An id has been given to a request. -/
def Board.Used (b : Board) (id : SequenceId) : Prop :=
  ∃ n < b.nextSequence, id = SequenceId.ofNat n

theorem Board.not_used_next (b : Board) : ¬ b.Used (.ofNat b.nextSequence) := by
  rintro ⟨n, hn, heq⟩
  have hnext := SequenceId.ofNat_injective heq
  omega

theorem Board.Used.mono {b c : Board} {id : SequenceId} (h : b.Used id)
    (hcounter : b.nextSequence ≤ c.nextSequence) : c.Used id := by
  obtain ⟨n, hn, rfl⟩ := h
  exact ⟨n, Nat.lt_of_lt_of_le hn hcounter, rfl⟩

namespace Exchange

/-- The slots that were answered or wait for their answer. -/
def taken (x : Exchange) : List Slot := answered x.log ++ x.board.outstanding.map Handle.slot

/-- The handles given out so far are accounted for by the board and the log of an exchange. -/
structure Accounted (x : Exchange) (known : List Handle) : Prop where
  taken_nodup : x.taken.Nodup
  taken_lt : ∀ slot ∈ x.taken, slot < x.slots
  ids_nodup : (x.board.outstanding.map Handle.sequence).Nodup
  ids_used : ∀ h ∈ x.board.outstanding, x.board.Used h.sequence
  known_nodup : (known.map Handle.sequence).Nodup
  known_slots : (known.map Handle.slot).Nodup
  known_used : ∀ h ∈ known, x.board.Used h.sequence
  known_taken : ∀ h ∈ known, h ∈ x.board.outstanding ∨ h.slot ∈ answered x.log

theorem accounted_empty (policy : ShutdownPolicy) (span : Timespan) :
    Accounted (empty policy span) [] := by
  constructor
  · exact List.nodup_nil
  · intro slot hslot
    cases hslot
  · exact List.nodup_nil
  · intro h hmem
    cases hmem
  · exact List.nodup_nil
  · exact List.nodup_nil
  · intro h hmem
    cases hmem
  · intro h hmem
    cases hmem

theorem Accounted.distinct {x : Exchange} {known : List Handle} (hx : Accounted x known) :
    x.board.pending.Distinct := by
  rw [Table.Distinct, ← Board.sequences_outstanding]
  exact hx.ids_nodup

theorem Accounted.slot_mem_taken {x : Exchange} {known : List Handle} (hx : Accounted x known)
    {h : Handle} (hmem : h ∈ known) : h.slot ∈ x.taken := by
  rcases hx.known_taken h hmem with hout | hans
  · exact List.mem_append_right _ (List.mem_map_of_mem hout)
  · exact List.mem_append_left _ hans

theorem Accounted.ready {x : Exchange} {known : List Handle} (hx : Accounted x known) :
    x.Ready := by
  refine ⟨hx.distinct, ?_⟩
  cases hnext : x.board.pending.get? x.nextHandle.sequence with
  | none => rfl
  | some entry =>
    have hused := hx.ids_used _ (Board.mem_outstanding_of_get? hnext)
    exact absurd hused x.board.not_used_next

/-- A handle is unresolved exactly as long as the board holds its slot under its id. -/
theorem Accounted.unresolved_iff {x : Exchange} {known : List Handle} (hx : Accounted x known)
    {h : Handle} (hmem : h ∈ known) :
    replies x.log h.slot = [] ↔
      ∃ entry, x.board.pending.get? h.sequence = some entry ∧ entry.respond = h.slot := by
  rw [replies_eq_nil_iff, ← Board.mem_outstanding_iff hx.distinct]
  constructor
  · intro hanswered
    rcases hx.known_taken h hmem with hout | hans
    · exact hout
    · exact absurd hans hanswered
  · intro hout hanswered
    have hdisjoint := (List.nodup_append.1 hx.taken_nodup).2.2
    exact hdisjoint h.slot hanswered h.slot (List.mem_map_of_mem hout) rfl

theorem Accounted.length_replies_le {x : Exchange} {known : List Handle} (hx : Accounted x known)
    (slot : Slot) : (replies x.log slot).length ≤ 1 := by
  rw [length_replies]
  exact List.nodup_iff_count_le_one.1 (List.nodup_append.1 hx.taken_nodup).1 slot

/-! ### What one step keeps -/

/-- A handle with the next id joins handles whose ids are distinct and used. -/
theorem nodup_sequences_concat (x : Exchange) {handles : List Handle}
    (hused : ∀ h ∈ handles, x.board.Used h.sequence)
    (hnodup : (handles.map Handle.sequence).Nodup) :
    ((handles ++ [x.nextHandle]).map Handle.sequence).Nodup := by
  rw [List.map_append, List.map_singleton, ← List.concat_eq_append, List.nodup_concat]
  refine ⟨?_, hnodup⟩
  intro hmem
  obtain ⟨h, hh, heq⟩ := List.mem_map.1 hmem
  have hnext : x.board.Used x.nextHandle.sequence := heq ▸ hused h hh
  exact x.board.not_used_next hnext

/-- Used ids stay used, and the id of the next handle becomes one. -/
theorem used_concat {x y : Exchange} (hcounter : y.board.nextSequence = x.board.nextSequence + 1)
    {handles : List Handle} (hused : ∀ h ∈ handles, x.board.Used h.sequence) :
    ∀ h ∈ handles ++ [x.nextHandle], y.board.Used h.sequence := by
  intro h hmem
  rcases List.mem_append.1 hmem with hold | hlast
  · exact (hused h hold).mono (by omega)
  · rw [List.mem_singleton.1 hlast]
    exact ⟨x.board.nextSequence, by omega, rfl⟩

/-- Every step keeps the account, and adds the handles it gives out. -/
theorem Accounted.move {x y : Exchange} {known new : List Handle} (hx : Accounted x known)
    (h : Move x y new) : Accounted y (known ++ new) := by
  cases h with
  | @conserves notices board log counter slots =>
    have htaken : y.taken.Perm x.taken := by
      rw [taken, taken, log, answered_append, List.append_assoc]
      exact board.slots.append_left _
    rw [List.append_nil]
    constructor
    · exact htaken.nodup_iff.2 hx.taken_nodup
    · intro slot hslot
      exact Nat.lt_of_lt_of_le (hx.taken_lt slot (htaken.mem_iff.1 hslot)) slots
    · exact hx.ids_nodup.sublist (board.outstanding.map _)
    · intro handle hmem
      exact (hx.ids_used handle (board.outstanding.subset hmem)).mono counter
    · exact hx.known_nodup
    · exact hx.known_slots
    · intro handle hmem
      exact (hx.known_used handle hmem).mono counter
    · intro handle hmem
      rw [log, answered_append]
      rcases hx.known_taken handle hmem with hout | hans
      · rcases board.covers handle hout with hstays | hleaves
        · exact Or.inl hstays
        · exact Or.inr (List.mem_append_right _ hleaves)
      · exact Or.inr (List.mem_append_left _ hans)
  | accepts outstanding log counter slots =>
    have htaken : y.taken = x.taken ++ [x.slots] := by
      rw [taken, taken, log, outstanding, List.map_append, List.append_assoc]
      rfl
    constructor
    · rw [htaken, ← List.concat_eq_append, List.nodup_concat]
      refine ⟨?_, hx.taken_nodup⟩
      intro hmem
      exact Nat.lt_irrefl _ (hx.taken_lt _ hmem)
    · intro slot hslot
      rw [slots]
      rw [htaken] at hslot
      rcases List.mem_append.1 hslot with hold | hlast
      · exact Nat.lt_succ_of_lt (hx.taken_lt slot hold)
      · rw [List.mem_singleton.1 hlast]
        exact Nat.lt_succ_self _
    · rw [outstanding]
      exact x.nodup_sequences_concat hx.ids_used hx.ids_nodup
    · rw [outstanding]
      exact used_concat counter hx.ids_used
    · exact x.nodup_sequences_concat hx.known_used hx.known_nodup
    · rw [List.map_append, List.map_singleton, ← List.concat_eq_append, List.nodup_concat]
      refine ⟨?_, hx.known_slots⟩
      intro hmem
      obtain ⟨handle, hold, heq⟩ := List.mem_map.1 hmem
      have hlt : handle.slot < x.slots := hx.taken_lt _ (hx.slot_mem_taken hold)
      exact absurd heq (Nat.ne_of_lt hlt)
    · exact used_concat counter hx.known_used
    · intro handle hmem
      rw [outstanding, log]
      rcases List.mem_append.1 hmem with hold | hlast
      · rcases hx.known_taken handle hold with hstays | hans
        · exact Or.inl (List.mem_append_left _ hstays)
        · exact Or.inr hans
      · exact Or.inl (List.mem_append_right _ hlast)

/-- An id that was used and is not on the board does not come back. -/
theorem Move.absent {x y : Exchange} {new : List Handle} (h : Move x y new) {id : SequenceId}
    (hused : x.board.Used id) (habsent : ∀ h ∈ x.board.outstanding, h.sequence ≠ id) :
    ∀ h ∈ y.board.outstanding, h.sequence ≠ id := by
  cases h with
  | conserves board log counter slots =>
    intro handle hmem
    exact habsent handle (board.outstanding.subset hmem)
  | accepts outstanding log counter slots =>
    intro handle hmem
    rw [outstanding] at hmem
    rcases List.mem_append.1 hmem with hold | hlast
    · exact habsent handle hold
    · rintro rfl
      rw [List.mem_singleton.1 hlast] at hused
      exact x.board.not_used_next hused

/-! ### What a run keeps -/

/-- Every run keeps the account. -/
theorem Accounted.run {x : Exchange} {known : List Handle} (hx : Accounted x known)
    (steps : List Step) : Accounted (x.run steps) (known ++ x.issued steps) := by
  induction steps generalizing x known with
  | nil =>
    rw [issued, List.append_nil]
    exact hx
  | cons step later ih =>
    rw [issued, ← List.append_assoc, run_cons]
    exact ih (hx.move (take_move hx.ready step))

theorem accounted_run (policy : ShutdownPolicy) (span : Timespan) (steps : List Step) :
    Accounted ((empty policy span).run steps) ((empty policy span).issued steps) :=
  (accounted_empty policy span).run steps

theorem Accounted.used_run {x : Exchange} {known : List Handle} (hx : Accounted x known)
    {id : SequenceId} (hused : x.board.Used id) (steps : List Step) :
    (x.run steps).board.Used id := by
  induction steps generalizing x known with
  | nil => exact hused
  | cons step later ih =>
    have hmove := take_move hx.ready step
    exact ih (hx.move hmove) (hused.mono hmove.counter_le)

/-- An id that was used and left the board does not come back in any run. -/
theorem Accounted.absent_run {x : Exchange} {known : List Handle} (hx : Accounted x known)
    {id : SequenceId} (hused : x.board.Used id)
    (habsent : ∀ h ∈ x.board.outstanding, h.sequence ≠ id) (steps : List Step) :
    ∀ h ∈ (x.run steps).board.outstanding, h.sequence ≠ id := by
  induction steps generalizing x known with
  | nil => exact habsent
  | cons step later ih =>
    have hmove := take_move hx.ready step
    exact ih (hx.move hmove) (hused.mono hmove.counter_le) (hmove.absent hused habsent)

/-- **Every request is answered once.** In every run the handles have distinct ids and distinct
slots. A handle is unresolved exactly as long as the board holds its slot under its id, and no slot
takes a second reply. Every id that is ever on the board counts as used; a used id is not the next
one, and once it has left the board it does not come back. A call that is refused leaves the
requests as they were. -/
theorem run_answers_once (policy : ShutdownPolicy) (span : Timespan) (steps : List Step) :
    let x := (empty policy span).run steps
    let handles := (empty policy span).issued steps
    (handles.map Handle.sequence).Nodup ∧ (handles.map Handle.slot).Nodup ∧
      (∀ h ∈ handles, replies x.log h.slot = [] ↔
        ∃ entry, x.board.pending.get? h.sequence = some entry ∧ entry.respond = h.slot) ∧
      (∀ slot, (replies x.log slot).length ≤ 1) ∧
      (∀ earlier id entry, earlier <+: steps →
        ((empty policy span).run earlier).board.pending.get? id = some entry → x.board.Used id) ∧
      (∀ id, x.board.Used id → id ≠ .ofNat x.board.nextSequence ∧
        (x.board.pending.get? id = none →
          ∀ later, (x.run later).board.pending.get? id = none)) ∧
      ∀ step e, (x.take step).2 = some (.error e) →
        (x.take step).1.board.pending = x.board.pending := by
  intro x handles
  have hx : Accounted x handles := accounted_run policy span steps
  refine ⟨hx.known_nodup, hx.known_slots, ?_, hx.length_replies_le, ?_, ?_, ?_⟩
  · intro h hmem
    exact hx.unresolved_iff hmem
  · rintro earlier id entry ⟨rest, rfl⟩ hentry
    have hearlier := accounted_run policy span earlier
    have hused := hearlier.used_run (hearlier.ids_used _ (Board.mem_outstanding_of_get? hentry)) rest
    rwa [← run_append] at hused
  · intro id hused
    constructor
    · rintro rfl
      exact x.board.not_used_next hused
    · intro habsent later
      rw [Board.get?_eq_none_iff_outstanding] at habsent ⊢
      exact hx.absent_run hused habsent later
  · intro step e houtcome
    have hroute : step.isRoute = false := by
      cases step with
      | route now f => cases houtcome
      | _ => rfl
    have heffect := take_effect hx.ready hroute
    rw [houtcome] at heffect
    cases heffect with
    | refuses pending log counter slots => exact pending

/-- A request gets the first id and the first slot; a closed exchange gives out no more. -/
example : (empty .drain (.ofSeconds 1)).issued
    [.request ⟨0⟩ (.plain .get "a") (.ofSeconds 1), .close .closed,
      .request ⟨0⟩ (.plain .get "b") (.ofSeconds 1)] = [⟨[0], 0⟩] := by decide +kernel

end Exchange

end MercuryLink
