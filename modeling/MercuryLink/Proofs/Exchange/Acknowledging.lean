import MercuryLink.Proofs.Exchange.Pushing

/-!
# What an acknowledgement registers

The response to a subscription names the locations that the access point has subscribed. Three
things decide what becomes of them. The board knows from the registration of the request which
listener it subscribes, and no later use changes that: `get?_turns` follows the entry of one request
through any uses. The frames of the response are joined in the same uses. And the entries at the
moment of the last frame say whether the listener is still there. The main statement says which
entries there are afterwards.
-/

namespace MercuryLink

namespace Table

variable {ν : Type}

/-- What a look-up finds in a part of a table, it finds in the whole. -/
theorem get?_of_sublist {t t' : Table ν} (ht : t.Distinct) (h : t'.Sublist t) {id : SequenceId}
    {value : ν} (hfound : t'.get? id = some value) : t.get? id = some value :=
  ht.get?_eq_some_iff.2 (h.subset (mem_of_get? hfound))

end Table

/-- A frame brings a request a packet exactly if it is a response frame of its id that decodes. -/
theorem Frame.arrival?_eq_ok_iff {f : Frame} {id : SequenceId} {p : Packet} :
    f.arrival? id = some (.ok p) ↔
      f.command.isResponse = true ∧ Packet.decode f.payload = .ok p ∧ p.sequence = id := by
  rw [arrival?]
  cases hresponse : f.command.isResponse with
  | false => simp
  | true =>
    cases Packet.decode f.payload with
    | error e => simp
    | ok q =>
      by_cases hid : q.sequence = id
      · simp only [if_pos, hid, Option.some.injEq, Except.ok.injEq, true_and]
        refine ⟨fun h => ⟨h, h ▸ hid⟩, fun h => h.1⟩
      · simp only [if_pos, if_neg hid, Except.ok.injEq, true_and]
        constructor
        · intro h
          cases h
        · rintro ⟨rfl, h⟩
          exact absurd h hid

namespace Board

open Exchange (messages)

/-! ### The entry of one request -/

/-- The requests of a board have distinct ids, and all of them are used. -/
structure Numbered (b : Board) : Prop where
  distinct : b.pending.Distinct
  used : ∀ entry ∈ b.pending, b.Used entry.1

theorem numbered_empty : empty.Numbered := ⟨List.nodup_nil, List.forall_mem_nil _⟩

/-- The next id of a numbered board is not on it. -/
theorem Numbered.get?_next {b : Board} (hb : b.Numbered) :
    b.pending.get? (.ofNat b.nextSequence) = none := by
  rw [Table.get?_eq_none_iff]
  intro entry hentry hid
  exact b.not_used_next (hid ▸ hb.used entry hentry)

/-- Where requests leave at most, a board stays numbered. -/
theorem Numbered.of_sublist {b c : Board} (hb : b.Numbered)
    (hpending : c.pending.Sublist b.pending) (hcounter : b.nextSequence ≤ c.nextSequence) :
    c.Numbered := by
  refine ⟨hb.distinct.sublist (hpending.map _), ?_⟩
  intro entry hentry
  exact (hb.used entry (hpending.subset hentry)).mono hcounter

/-- Registering a request puts it behind the others under the next id, or only uses ids up. -/
theorem register_cases {b : Board} (hb : b.Numbered) (now : Moment) (r : Request)
    (timeout : Timespan) (respond : Slot) (listener : Option Nat) :
    let step := b.register now r timeout respond listener
    ((∃ e, step.2 = .error e) ∧ step.1.pending = b.pending ∧
        b.nextSequence ≤ step.1.nextSequence) ∨
      ∃ deadline frame,
        let entry : Pending := ⟨r.method, r.uri, deadline, timeout, [], respond, listener⟩
        step.2 = .ok (.ofNat b.nextSequence, frame) ∧
          step.1.pending = b.pending ++ [(.ofNat b.nextSequence, entry)] ∧
          step.1.nextSequence = b.nextSequence + 1 := by
  intro step
  simp only [step, register]
  split
  · exact Or.inl ⟨⟨_, rfl⟩, rfl, Nat.le_refl _⟩
  · split
    · exact Or.inl ⟨⟨_, rfl⟩, rfl, Nat.le_succ _⟩
    · next payload _ =>
      split
      · exact Or.inl ⟨⟨_, rfl⟩, rfl, Nat.le_succ _⟩
      · next deadline _ =>
        refine Or.inr ⟨deadline, ⟨r.method.command, payload⟩, rfl, ?_, rfl⟩
        exact Table.insert_of_get?_eq_none _ hb.get?_next

/-- What a use does to the requests other than extending one by a frame. -/
inductive Keeps (b c : Board) : Prop where
  /-- Requests leave at most. -/
  | leaves (pending : c.pending.Sublist b.pending) (counter : b.nextSequence ≤ c.nextSequence)
  /-- A request joins under the next id. -/
  | joins {entry : Pending} (pending : c.pending = b.pending ++ [(.ofNat b.nextSequence, entry)])
    (counter : c.nextSequence = b.nextSequence + 1)

/-- Settling requests lets them leave. -/
theorem Settles.keeps {b : Board} {step : Board × List Notice} (h : Settles b step) :
    Keeps b step.1 :=
  .leaves h.sublist (Nat.le_of_eq h.counter.symm)

/-- A use that takes no frame keeps the requests, lets some leave or lets one join. -/
theorem keeps_turn {b : Board} (hb : b.Numbered) {t : Turn}
    (hroute : ∀ now span f, t ≠ .route now span f) : Keeps b (b.turn t).1 := by
  cases t with
  | listen stem =>
    rw [turn]
    split
    · exact .leaves (List.Sublist.refl _) (Nat.le_refl _)
    · exact .leaves (List.Sublist.refl _) (Nat.le_refl _)
  | unlisten stem =>
    rw [turn]
    split
    · exact .leaves (List.Sublist.refl _) (Nat.le_refl _)
    · exact .leaves (List.Sublist.refl _) (Nat.le_refl _)
  | removeListener id | dropStream id => exact .leaves (List.Sublist.refl _) (Nat.le_refl _)
  | register now r timeout respond listener =>
    rcases register_cases hb now r timeout respond listener with
      ⟨-, hpending, hcounter⟩ | ⟨deadline, frame, -, hpending, hcounter⟩
    · exact .leaves (by rw [turn, hpending]) hcounter
    · exact .joins hpending hcounter
  | withdraw sequence => exact .leaves List.filter_sublist (Nat.le_refl _)
  | fail sequence e => exact (settles_fail hb.distinct sequence e).keeps
  | route now span f => exact absurd rfl (hroute now span f)
  | sweep now => exact (settles_sweep b now).keeps
  | close e => exact (settles_close b e).keeps

/-- Every use keeps a board numbered, and its count of ids only grows. -/
theorem Numbered.turn {b : Board} (hb : b.Numbered) (t : Turn) :
    (b.turn t).1.Numbered ∧ b.nextSequence ≤ (b.turn t).1.nextSequence := by
  have hkeeps : ∀ {c : Board}, Keeps b c → c.Numbered ∧ b.nextSequence ≤ c.nextSequence := by
    intro c h
    cases h with
    | leaves pending counter => exact ⟨hb.of_sublist pending counter, counter⟩
    | joins pending counter =>
      have hle : b.nextSequence ≤ c.nextSequence := counter ▸ Nat.le_succ _
      refine ⟨⟨?_, ?_⟩, hle⟩
      · rw [Table.Distinct, pending, List.map_append, List.map_singleton, ← List.concat_eq_append,
          List.nodup_concat]
        refine ⟨?_, hb.distinct⟩
        intro hmem
        obtain ⟨old, hold, hid⟩ := List.mem_map.1 hmem
        have hnext : b.Used (.ofNat b.nextSequence) := by
          rw [← show old.1 = .ofNat b.nextSequence from hid]
          exact hb.used old hold
        exact b.not_used_next hnext
      · intro entry hentry
        rw [pending] at hentry
        rcases List.mem_append.1 hentry with hold | hnew
        · exact (hb.used entry hold).mono hle
        · rw [List.mem_singleton.1 hnew]
          exact ⟨b.nextSequence, by omega, rfl⟩
  by_cases hroute : ∃ now span f, t = .route now span f
  · obtain ⟨now, span, f, rfl⟩ := hroute
    rcases route_settles_or_extends hb.distinct now span f with h | h
    · exact hkeeps h.keeps
    · obtain ⟨hcounter, ⟨id, parts, hpending⟩, -⟩ := h
      have hids : ((b.turn (.route now span f)).1.pending).map (·.1) = b.pending.map (·.1) := by
        rw [Board.turn, hpending, Table.modify, List.map_map]
        refine List.map_congr_left fun entry _ => ?_
        rw [Function.comp]
        split
        · rfl
        · rfl
      have hle : b.nextSequence ≤ (b.turn (.route now span f)).1.nextSequence :=
        Nat.le_of_eq hcounter.symm
      refine ⟨⟨?_, ?_⟩, hle⟩
      · rw [Table.Distinct, hids]
        exact hb.distinct
      · intro entry hentry
        have hid := List.mem_map_of_mem (f := (·.1)) hentry
        rw [hids] at hid
        obtain ⟨old, hold, heq⟩ := List.mem_map.1 hid
        exact heq ▸ (hb.used old hold).mono hle
  · refine hkeeps (keeps_turn hb ?_)
    intro now span f heq
    exact hroute ⟨now, span, f, heq⟩

/-- A request that was registered waits under its id, for its listener and without parts. -/
theorem Numbered.registered {b c : Board} (hb : b.Numbered) {now : Moment} {r : Request}
    {timeout : Timespan} {respond : Slot} {listener : Option Nat} {sequence : SequenceId}
    {frame : Frame} (h : b.register now r timeout respond listener = (c, .ok (sequence, frame))) :
    c.Numbered ∧ c.Used sequence ∧ ∃ entry, c.pending.get? sequence = some entry ∧
      entry.parts = [] ∧ entry.listener = listener := by
  have hc : c.Numbered := by
    have hturn := (hb.turn (.register now r timeout respond listener)).1
    rwa [Board.turn, h] at hturn
  have hcases := register_cases hb now r timeout respond listener
  rw [h] at hcases
  rcases hcases with ⟨⟨e, herror⟩, -⟩ | ⟨deadline, frame', hok, hpending, hcounter⟩
  · cases herror
  · cases hok
    refine ⟨hc, ⟨b.nextSequence, ?_, rfl⟩,
      ⟨r.method, r.uri, deadline, timeout, [], respond, listener⟩, ?_, rfl, rfl⟩
    · exact hcounter ▸ Nat.lt_succ_self _
    · rw [hc.distinct.get?_eq_some_iff, hpending]
      exact List.mem_append_right _ (List.mem_singleton_self _)

theorem Numbered.turns {b : Board} (hb : b.Numbered) (ts : List Turn) : (b.turns ts).1.Numbered := by
  induction ts generalizing b with
  | nil => exact hb
  | cons t later ih => exact ih (hb.turn t).1

/-- What a use brings for the request of an id. -/
def Turn.arrival? (id : SequenceId) : Turn → Option (Except Packet.DecodeError Packet)
  | .route _ _ f => f.arrival? id
  | _ => none

/-- A frame that resolves a request takes it off the board. -/
theorem get?_route_of_resolved {b : Board} (now : Moment) (span : Timespan) {f : Frame}
    {id : SequenceId} {a : Except Packet.DecodeError Packet} {entry : Pending} {r : Reply}
    (hentry : b.pending.get? id = some entry) (h : f.arrival? id = some a)
    (hresolved : Progress.take id (.waiting entry.parts) a = .resolved r) :
    (b.route now span f).1.pending.get? id = none := by
  cases a with
  | ok p =>
    obtain ⟨hresponse, hdecode, rfl⟩ := Frame.arrival?_eq_ok_iff.1 h
    have hfinal : p.isFinal = true := by
      by_contra hno
      rw [Progress.take, if_neg hno] at hresolved
      cases hresolved
    rw [route, hdecode]
    dsimp only
    rw [if_pos hresponse, takeResponse, hentry]
    dsimp only
    rw [if_pos hfinal, (complete_eq b p.sequence entry (entry.parts ++ p.parts)).1]
    exact Table.get?_erase_self _ _
  | error e =>
    rw [Frame.arrival?] at h
    rw [route]
    cases hdecode : Packet.decode f.payload with
    | ok p =>
      rw [hdecode] at h
      split at h
      · dsimp only at h
        split at h
        · cases h
        · cases h
      · cases h
    | error e' =>
      rw [hdecode] at h
      split at h
      · next hresponse =>
        dsimp only at h ⊢
        split at h
        · next hpeek =>
          rw [takeBroken, hpeek]
          dsimp only
          rw [if_pos hresponse, fail, hentry]
          exact Table.get?_erase_self _ _
        · cases h
      · cases h

/-- What waits under a used id after a use has waited before it, with the parts that came before; a
use that brings it a frame adds the parts of a packet that is not the last. -/
theorem get?_turn {b : Board} (hb : b.Numbered) {id : SequenceId} (hused : b.Used id) (t : Turn)
    {entry' : Pending} (h : (b.turn t).1.pending.get? id = some entry') :
    ∃ entry, b.pending.get? id = some entry ∧
      match t.arrival? id with
      | none => entry' = entry
      | some a => ∃ p, a = .ok p ∧ p.isFinal = false ∧
        entry' = { entry with parts := entry.parts ++ p.parts } := by
  by_cases hroute : ∃ now span f, t = .route now span f
  · obtain ⟨now, span, f, rfl⟩ := hroute
    rw [Turn.arrival?]
    cases harrival : f.arrival? id with
    | none =>
      rw [turn, get?_route_of_arrival?_eq_none b now span harrival] at h
      exact ⟨entry', h, rfl⟩
    | some a =>
      obtain ⟨entry, hentry⟩ : ∃ entry, b.pending.get? id = some entry := by
        -- A frame brings nothing back that was not there.
        cases hbefore : b.pending.get? id with
        | some entry => exact ⟨entry, rfl⟩
        | none =>
          rw [get?_eq_none_iff_outstanding] at hbefore
          have hconserves : Conserves b (b.route now span f) := by
            rcases route_settles_or_extends hb.distinct now span f with hs | hs
            · exact hs.conserves
            · exact hs.conserves
          have hmem := hconserves.outstanding.subset (mem_outstanding_of_get? h)
          exact absurd rfl (hbefore _ hmem)
      refine ⟨entry, hentry, ?_⟩
      have hstep := route_of_arrival?_eq_some now span hentry harrival
      cases htake : Progress.take id (.waiting entry.parts) a with
      | resolved r =>
        rw [turn, get?_route_of_resolved now span hentry harrival htake] at h
        cases h
      | waiting parts =>
        rw [htake] at hstep
        dsimp only at hstep
        rw [turn, hstep] at h
        cases a with
        | error e => cases htake
        | ok p =>
          rw [Progress.take] at htake
          split at htake
          · cases htake
          · next hfinal =>
            cases htake
            exact ⟨p, rfl, by simpa using hfinal, (Option.some.inj h).symm⟩
  · have hno : ∀ now span f, t ≠ .route now span f := by
      intro now span f heq
      exact hroute ⟨now, span, f, heq⟩
    have hnone : t.arrival? id = none := by
      cases t with
      | route now span f => exact absurd rfl (hno now span f)
      | _ => rfl
    rw [hnone]
    refine ⟨entry', ?_, rfl⟩
    cases keeps_turn hb hno with
    | leaves pending counter => exact Table.get?_of_sublist hb.distinct pending h
    | joins pending counter =>
      have hmem := Table.mem_of_get? h
      rw [pending] at hmem
      rcases List.mem_append.1 hmem with hold | hnew
      · exact hb.distinct.get?_eq_some_iff.2 hold
      · have hid : id = .ofNat b.nextSequence := congrArg Prod.fst (List.mem_singleton.1 hnew)
        exact absurd (hid ▸ hused) b.not_used_next

/-- What waits under a used id after any uses is what waited before them, with the parts of the
frames that came for it in between. -/
theorem get?_turns {b : Board} (hb : b.Numbered) {id : SequenceId} (hused : b.Used id)
    (ts : List Turn) {entry' : Pending} (h : (b.turns ts).1.pending.get? id = some entry') :
    ∃ (entry : Pending) (ps : List Packet), b.pending.get? id = some entry ∧
      ts.filterMap (Turn.arrival? id) = ps.map .ok ∧ (∀ p ∈ ps, p.isFinal = false) ∧
      entry' = { entry with parts := entry.parts ++ ps.flatMap Packet.parts } := by
  induction ts generalizing b with
  | nil =>
    refine ⟨entry', [], h, rfl, List.forall_mem_nil _, ?_⟩
    rw [List.flatMap_nil, List.append_nil]
  | cons t later ih =>
    obtain ⟨hnumbered, hcounter⟩ := hb.turn t
    obtain ⟨middle, ps, hmiddle, harrivals, hps, hentry'⟩ := ih hnumbered (hused.mono hcounter) h
    obtain ⟨entry, hentry, hstep⟩ := get?_turn hb hused t hmiddle
    cases harrival : t.arrival? id with
    | none =>
      rw [harrival] at hstep
      dsimp only at hstep
      refine ⟨entry, ps, hentry, ?_, hps, hstep ▸ hentry'⟩
      rw [List.filterMap_cons_none harrival, harrivals]
    | some a =>
      rw [harrival] at hstep
      obtain ⟨p, rfl, hp, hmiddle'⟩ := hstep
      refine ⟨entry, p :: ps, hentry, ?_, ?_, ?_⟩
      · rw [List.filterMap_cons_some harrival, harrivals, List.map_cons]
      · intro q hq
        rcases List.mem_cons.1 hq with rfl | hlater
        · exact hp
        · exact hps q hlater
      · rw [hentry', hmiddle', List.flatMap_cons, List.append_assoc]

/-! ### The locations of an acknowledgement -/

/-- A part of an acknowledgement that is a subscription to a location. -/
def Names (part : Bytes) (uri : String) : Prop :=
  ∃ s, Subscription.decode part = .ok s ∧ s.uri = some uri

/-- One part adds the location that it names, unless the listener has it already. -/
theorem mem_addAcknowledged {id : Nat} {listeners : List Listener} {part : Bytes} {l : Listener} :
    l ∈ addAcknowledged id listeners part ↔ l ∈ listeners ∨ l.id = id ∧ Names part l.stem := by
  rw [addAcknowledged, Names]
  split
  · next uri expiry status hdecode =>
    have hnames : (∃ s, Subscription.decode part = .ok s ∧ s.uri = some l.stem) ↔ uri = l.stem := by
      simp [hdecode]
    have hnew : l = ⟨id, uri⟩ ↔ l.id = id ∧ uri = l.stem := by
      cases l
      simp [eq_comm]
    rw [hnames, ← hnew]
    split
    · next hknown =>
      have hmem : (⟨id, uri⟩ : Listener) ∈ listeners := by simpa using hknown
      refine ⟨Or.inl, ?_⟩
      rintro (hold | rfl)
      · exact hold
      · exact hmem
    · rw [List.mem_append, List.mem_singleton]
  · next hnone =>
    refine ⟨Or.inl, ?_⟩
    rintro (hold | ⟨-, ⟨uri, expiry, status⟩, hdecode, huri⟩)
    · exact hold
    · dsimp only at huri
      subst huri
      exact absurd hdecode (hnone l.stem expiry status)

/-- All parts together add the locations that any of them names. -/
theorem mem_foldl_addAcknowledged {id : Nat} {parts : List Bytes} {listeners : List Listener}
    {l : Listener} :
    l ∈ parts.foldl (addAcknowledged id) listeners ↔
      l ∈ listeners ∨ l.id = id ∧ ∃ part ∈ parts, Names part l.stem := by
  induction parts generalizing listeners with
  | nil => simp
  | cons part parts ih =>
    rw [List.foldl_cons, ih, mem_addAcknowledged, or_assoc, ← and_or_left]
    simp only [List.mem_cons, exists_eq_or_imp]

/-- A success adds the locations of its parts to a listener that is still registered. -/
theorem listeners_complete_of_success {b : Board} {id : SequenceId} {entry : Pending}
    {parts : List Bytes} {i : Nat} {m : Message} (hlistener : entry.listener = some i)
    (hm : Message.ofParts id parts = .ok m) (hsuccess : m.isFailure = false)
    (hknown : ∃ l ∈ b.listeners, l.id = i) :
    (b.complete id entry parts).1.listeners = m.payload.foldl (addAcknowledged i) b.listeners := by
  have hany : (b.withdraw id).listeners.any (fun l => l.id = i) = true := by
    simpa [withdraw] using hknown
  rw [complete, hm]
  dsimp only
  rw [hlistener, hsuccess]
  dsimp only
  rw [if_neg Bool.false_ne_true, acknowledge, if_pos hany]
  rfl

/-- Any other response keeps the entries. -/
theorem listeners_complete_of_other {b : Board} {id : SequenceId} {entry : Pending}
    {parts : List Bytes}
    (h : ∀ i m, entry.listener = some i → Message.ofParts id parts = .ok m →
      m.isFailure = false → ∀ l ∈ b.listeners, l.id ≠ i) :
    (b.complete id entry parts).1.listeners = b.listeners := by
  rw [complete]
  cases hm : Message.ofParts id parts with
  | error e => rfl
  | ok m =>
    dsimp only
    cases hlistener : entry.listener with
    | none => rfl
    | some i =>
      dsimp only
      split
      · rfl
      · next hsuccess =>
        have hgone := h i m hlistener hm (by simpa using hsuccess)
        have hany : ¬ (b.withdraw id).listeners.any (fun l => l.id = i) = true := by
          simpa [withdraw] using hgone
        rw [acknowledge, if_neg hany]
        rfl

/-- A complete response adds entries behind the others, and only for the listener of its request. -/
theorem exists_added (b : Board) (id : SequenceId) (entry : Pending) (parts : List Bytes) :
    ∃ added, (b.complete id entry parts).1.listeners = b.listeners ++ added ∧
      ∀ l ∈ added, entry.listener = some l.id := by
  by_cases hknown : ∃ i m, entry.listener = some i ∧ Message.ofParts id parts = .ok m ∧
      m.isFailure = false ∧ ∃ l ∈ b.listeners, l.id = i
  · obtain ⟨i, m, hi, hm, hsuccess, hknown⟩ := hknown
    obtain ⟨added, hadded, hids, -⟩ := foldl_addAcknowledged i m.payload b.listeners
    rw [listeners_complete_of_success hi hm hsuccess hknown]
    exact ⟨added, hadded, fun l hl => hi.trans (congrArg some (hids l hl).symm)⟩
  · refine ⟨[], ?_, List.forall_mem_nil _⟩
    rw [List.append_nil]
    refine listeners_complete_of_other ?_
    intro i m hi hm hsuccess l hl hid
    exact hknown ⟨i, m, hi, hm, hsuccess, l, hl, hid⟩

/-- The last frame of a response completes its request. -/
theorem route_of_last {b : Board} (now : Moment) (span : Timespan) {f : Frame} {id : SequenceId}
    {p : Packet} {entry : Pending} (hentry : b.pending.get? id = some entry)
    (h : f.arrival? id = some (.ok p)) (hfinal : p.isFinal = true) :
    b.route now span f = b.complete id entry (entry.parts ++ p.parts) := by
  obtain ⟨hresponse, hdecode, rfl⟩ := Frame.arrival?_eq_ok_iff.1 h
  rw [route, hdecode]
  dsimp only
  rw [if_pos hresponse, takeResponse, hentry]
  exact if_pos hfinal

/-- A listener that somebody reads from is sent one copy of every message for whose location none
of its live rivals has a longer stem. -/
theorem messages_deliver_of_longest {b : Board} (hb : b.Tidy) {l : Listener}
    (hl : l ∈ b.listeners) (hlive : b.isLive l = true) {m : Message}
    (hcovers : l.covers m.uri = true)
    (hlongest : ∀ l' ∈ b.listeners, b.isLive l' = true → l'.covers m.uri = true →
      l'.stem.length ≤ l.stem.length) :
    messages (b.deliver m).2 l.id = [m] := by
  have hstem : longestStem? (b.listeners.filter b.isLive) m.uri = some l.stem.length := by
    refine longestStem?_eq_some_iff.2 ⟨⟨l, List.mem_filter.2 ⟨hl, hlive⟩, hcovers, rfl⟩, ?_⟩
    intro l' hl'
    obtain ⟨hl', hlive'⟩ := List.mem_filter.1 hl'
    exact hlongest l' hl' hlive'
  have hsome : 0 < (messages (b.deliver m).2 l.id).length := by
    rw [deliver, receivers_eq, hstem]
    dsimp only
    rw [Exchange.length_messages_pushes, List.count_pos_iff]
    refine List.mem_map_of_mem (List.mem_filter.2 ⟨hl, ?_⟩)
    rw [hits_iff.2 ⟨hcovers, rfl⟩, hlive]
    rfl
  have honce : (messages (b.deliver m).2 l.id).length ≤ 1 := (relists_deliver b m).once hb l.id
  obtain ⟨sent, hone⟩ : ∃ sent, messages (b.deliver m).2 l.id = [sent] :=
    List.length_eq_one_iff.1 (by omega)
  have hcopy : sent = m :=
    messages_deliver b m l.id sent (by rw [hone]; exact List.mem_singleton_self sent)
  rw [hone, hcopy]

end Board

namespace Exchange

/-- A request that is sent was registered for the listener it names, with the next slot. -/
theorem registers_of_dispatch {x y : Exchange} {now : Moment} {r : Request} {timeout : Timespan}
    {listener : Option Nat} {h : Handle}
    (hcall : x.dispatch now r timeout listener = (y, .ok h)) :
    ∃ frame, x.board.register now r timeout x.slots listener =
      (y.board, .ok (h.sequence, frame)) := by
  rw [dispatch] at hcall
  dsimp only at hcall
  cases hregister : x.board.register now r timeout x.slots listener with
  | mk board result =>
    rw [hregister] at hcall
    cases result with
    | error e => cases hcall
    | ok sent =>
      obtain ⟨sequence, frame⟩ := sent
      dsimp only at hcall
      split at hcall
      · cases hcall
      · cases hcall
        exact ⟨frame, rfl⟩

/-- A subscription is registered for the listener that it adds. -/
theorem registers_of_subscribe {x y : Exchange} {now : Moment} {stem : String} {timeout : Timespan}
    {i : Nat} {h : Handle} (hcall : x.subscribe now stem timeout = (y, .ok (i, h))) :
    ∃ frame, (x.board.turn (.listen stem)).1.register now (.plain .subscribe stem) timeout x.slots
      (some i) = (y.board, .ok (h.sequence, frame)) := by
  rw [subscribe] at hcall
  cases hopen : x.board.closeReason with
  | some e =>
    rw [hopen] at hcall
    cases hcall
  | none =>
    have hlisten : x.board.turn (.listen stem) = ((x.board.addListener stem).1, []) := by
      rw [Board.turn, Board.isClosed, hopen]
      rfl
    rw [hopen] at hcall
    dsimp only at hcall
    rw [hlisten]
    generalize hsent : dispatch _ now (.plain .subscribe stem) timeout
      (some (x.board.addListener stem).2) = sent at hcall
    obtain ⟨z, outcome⟩ := sent
    cases outcome with
    | ok handle =>
      cases hcall
      exact registers_of_dispatch hsent
    | error refusal =>
      cases refusal with
      | failed e => cases hcall
      | beyondClock => cases hcall

/-- The end of a subscription is registered for no listener. -/
theorem registers_of_unsubscribe {x y : Exchange} {now : Moment} {stem : String}
    {timeout : Timespan} {h : Handle} (hcall : x.unsubscribe now stem timeout = (y, .ok h)) :
    ∃ frame, (x.board.turn (.unlisten stem)).1.register now (.plain .unsubscribe stem) timeout
      x.slots none = (y.board, .ok (h.sequence, frame)) := by
  rw [unsubscribe] at hcall
  cases hopen : x.board.closeReason with
  | some e =>
    rw [hopen] at hcall
    cases hcall
  | none =>
    have hunlisten : x.board.turn (.unlisten stem) = (x.board.removeStem stem, []) := by
      rw [Board.turn, Board.isClosed, hopen]
      rfl
    rw [hopen] at hcall
    rw [hunlisten]
    exact registers_of_dispatch hcall

end Exchange

namespace Board

open Exchange (messages)

/-- **An acknowledgement registers the locations it names, and nothing else.** A request was
registered on a board, for a listener if it is a subscription, and still waits after any further
uses, when the last frame of its response arrives. The frames before it brought packets that were
not the last, and the response is the message of all parts. If the request subscribes a listener
that still has an entry, and the response is a message with a status below 400, the entries of the
listener are those it had and one for every location that a part names; parts that cannot be read or
name none add nothing. In every other case the entries stay as they are. Entries are only added
behind the others, and only for that listener; no entry is there twice; and a listener that somebody
reads from is sent one copy of each message for which it has the longest stem, whichever of its
entries that is. The calls of an exchange register their requests so: a subscription for the listener
that it gives out, any other request for none. -/
theorem acknowledged_locations_registered (uses : List Turn) (now : Moment) (r : Request)
    (timeout : Timespan) (slot : Slot) (listener : Option Nat) {b : Board} {sequence : SequenceId}
    {frame : Frame}
    (hsent : (empty.turns uses).1.register now r timeout slot listener =
      (b, .ok (sequence, frame)))
    (later : List Turn) (hwaits : ((b.turns later).1.pending.get? sequence).isSome = true)
    {f : Frame} {last : Packet} (hlast : f.arrival? sequence = some (.ok last))
    (hfinal : last.isFinal = true) (arrived : Moment) (span : Timespan) :
    let c := (b.turns later).1
    let d := (c.route arrived span f).1
    (∃ ps : List Packet, later.filterMap (Turn.arrival? sequence) = ps.map .ok ∧
      (∀ p ∈ ps, p.isFinal = false) ∧
      let response := Message.ofParts sequence ((ps ++ [last]).flatMap Packet.parts)
      (∀ i m, listener = some i → response = .ok m → m.status < 400 →
        (∃ l ∈ c.listeners, l.id = i) → ∀ uri, ⟨i, uri⟩ ∈ d.listeners ↔
          ⟨i, uri⟩ ∈ c.listeners ∨ ∃ part ∈ m.payload, Names part uri) ∧
      ((∀ i m, listener = some i → response = .ok m → m.status < 400 →
        ∀ l ∈ c.listeners, l.id ≠ i) → d.listeners = c.listeners)) ∧
    (∃ added, d.listeners = c.listeners ++ added ∧ ∀ l ∈ added, listener = some l.id) ∧
    d.listeners.Nodup ∧
    (∀ l ∈ d.listeners, d.isLive l = true → ∀ m : Message, l.covers m.uri = true →
      (∀ l' ∈ d.listeners, d.isLive l' = true → l'.covers m.uri = true →
        l'.stem.length ≤ l.stem.length) → messages (d.deliver m).2 l.id = [m]) ∧
    (∀ (x y : Exchange) now stem timeout i h, x.subscribe now stem timeout = (y, .ok (i, h)) →
      ∃ frame, (x.board.turn (.listen stem)).1.register now (.plain .subscribe stem) timeout
        x.slots (some i) = (y.board, .ok (h.sequence, frame))) ∧
    (∀ (x y : Exchange) now r timeout h, x.request now r timeout = (y, .ok h) →
      ∃ frame, x.board.register now r timeout x.slots none =
        (y.board, .ok (h.sequence, frame))) ∧
    ∀ (x y : Exchange) now stem timeout h, x.unsubscribe now stem timeout = (y, .ok h) →
      ∃ frame, (x.board.turn (.unlisten stem)).1.register now (.plain .unsubscribe stem) timeout
        x.slots none = (y.board, .ok (h.sequence, frame)) := by
  intro c d
  have hnumbered : (empty.turns uses).1.Numbered := numbered_empty.turns uses
  obtain ⟨hb, hused, first, hfirst, hparts, hfor⟩ := hnumbered.registered hsent
  obtain ⟨entry, hentry⟩ := Option.isSome_iff_exists.1 hwaits
  obtain ⟨first', ps, hfirst', harrivals, hps, hjoined⟩ := get?_turns hb hused later hentry
  have hsame : first' = first := Option.some.inj (hfirst'.symm.trans hfirst)
  have hfor : entry.listener = listener := by rw [hjoined, hsame, hfor]
  have hparts : entry.parts = ps.flatMap Packet.parts := by
    rw [hjoined, hsame, hparts, List.nil_append]
  have hroute : d = (c.complete sequence entry ((ps ++ [last]).flatMap Packet.parts)).1 := by
    rw [List.flatMap_append, List.flatMap_singleton, ← hparts]
    exact congrArg Prod.fst (route_of_last arrived span hentry hlast hfinal)
  have hc : c.Tidy := by
    have hall := tidy_empty.turns (uses ++ .register now r timeout slot listener :: later)
    rw [turns_append, turns, turn, hsent] at hall
    exact hall
  have hd : d.Tidy := (relists_route c arrived span f).tidy hc
  have hfailure : ∀ m : Message, m.isFailure = false ↔ m.status < 400 := by
    intro m
    rw [Message.isFailure, decide_eq_false_iff_not]
    exact Int32.not_le
  refine ⟨⟨ps, harrivals, hps, ?_, ?_⟩, ?_, hd.distinct, ?_, ?_, ?_, ?_⟩
  · intro i m hi hm hstatus hknown uri
    rw [hroute, listeners_complete_of_success (hfor.trans hi) hm ((hfailure m).2 hstatus) hknown,
      mem_foldl_addAcknowledged]
    simp
  · intro hother
    rw [hroute]
    refine listeners_complete_of_other ?_
    intro i m hi hm hsuccess
    exact hother i m (hfor.symm.trans hi) hm ((hfailure m).1 hsuccess)
  · rw [hroute, ← hfor]
    exact c.exists_added sequence entry _
  · intro l hl hlive m hcovers hlongest
    exact messages_deliver_of_longest hd hl hlive hcovers hlongest
  · intro x y now stem timeout i h hcall
    exact Exchange.registers_of_subscribe hcall
  · intro x y now r timeout h hcall
    exact Exchange.registers_of_dispatch hcall
  · intro x y now stem timeout h hcall
    exact Exchange.registers_of_unsubscribe hcall

/-- The acknowledgement of the first subscription comes in two frames, of which the last names a
location, holds a part that cannot be read, and names the location again. -/
theorem acknowledged_location_b_registered :
    let b : Board := ⟨1, 1, [([0], ⟨.subscribe, "a", ⟨10000000000⟩, .ofSeconds 10, [], 0, some 0⟩)],
      [], [⟨0, "a"⟩], [], none⟩
    let c := (b.turns [.route ⟨0⟩ (.ofSeconds 1)
      ⟨Command.mercurySubscribe, [0, 1, 0, 0, 0, 1, 0, 3, 0x20, 0x90, 0x03]⟩]).1
    let d := (c.route ⟨0⟩ (.ofSeconds 1) ⟨Command.mercurySubscribe,
      [0, 1, 0, 1, 0, 3, 0, 3, 0x0a, 1, 98, 0, 1, 0xff, 0, 3, 0x0a, 1, 98]⟩).1
    (empty.turns [.listen "a"]).1.register ⟨0⟩ (.plain .subscribe "a") (.ofSeconds 10) 0 (some 0) =
        (b, .ok ([0], ⟨Command.mercurySubscribe,
          [0, 1, 0, 1, 0, 1, 0, 8, 0x0a, 1, 97, 0x1a, 3, 83, 85, 66]⟩)) ∧
      (c.pending.get? [0]).isSome = true ∧ c.listeners = [⟨0, "a"⟩] ∧
      (∀ uri, ⟨0, uri⟩ ∈ d.listeners ↔ uri = "a" ∨ uri = "b") ∧ d.listeners.Nodup := by
  intro b c d
  have hsent : (empty.turns [.listen "a"]).1.register ⟨0⟩ (.plain .subscribe "a") (.ofSeconds 10) 0
      (some 0) = (b, .ok ([0], ⟨Command.mercurySubscribe,
        [0, 1, 0, 1, 0, 1, 0, 8, 0x0a, 1, 97, 0x1a, 3, 83, 85, 66]⟩)) := by decide +kernel
  have hwaits : (c.pending.get? [0]).isSome = true := by decide +kernel
  have hentries : c.listeners = [⟨0, "a"⟩] := by decide +kernel
  have hlast : Frame.arrival? ⟨Command.mercurySubscribe,
      [0, 1, 0, 1, 0, 3, 0, 3, 0x0a, 1, 98, 0, 1, 0xff, 0, 3, 0x0a, 1, 98]⟩ [0] =
        some (.ok ⟨[0], 1, [[0x0a, 1, 98], [0xff], [0x0a, 1, 98]]⟩) := by decide +kernel
  obtain ⟨⟨ps, harrivals, -, hnamed, -⟩, -, hdistinct, -⟩ := acknowledged_locations_registered
    [.listen "a"] ⟨0⟩ (.plain .subscribe "a") (.ofSeconds 10) 0 (some 0) hsent
    [.route ⟨0⟩ (.ofSeconds 1)
      ⟨Command.mercurySubscribe, [0, 1, 0, 0, 0, 1, 0, 3, 0x20, 0x90, 0x03]⟩] hwaits hlast
    (by decide) ⟨0⟩ (.ofSeconds 1)
  have hone : ps = [⟨[0], 0, [[0x20, 0x90, 0x03]]⟩] := by
    refine List.map_injective_iff.2 (fun _ _ => Except.ok.inj) (harrivals.symm.trans ?_)
    decide +kernel
  subst hone
  have hmessage : Message.ofParts [0] [[0x20, 0x90, 0x03], [0x0a, 1, 98], [0xff], [0x0a, 1, 98]] =
      .ok ⟨[0], "", 200, none, [], [[0x0a, 1, 98], [0xff], [0x0a, 1, 98]]⟩ := by decide +kernel
  have hlocation : ∀ uri, Names [0x0a, 1, 98] uri ↔ uri = "b" := by
    have hdecode : Subscription.decode [0x0a, 1, 98] = .ok ⟨some "b", none, none⟩ := by
      decide +kernel
    intro uri
    simp only [Names, hdecode, Except.ok.injEq, exists_eq_left', Option.some.injEq]
    exact eq_comm
  have hunreadable : ∀ uri, ¬ Names [0xff] uri := by
    have hdecode : (Subscription.decode [0xff]).isOk = false := by decide +kernel
    rintro uri ⟨s, hs, -⟩
    rw [hs] at hdecode
    cases hdecode
  refine ⟨hsent, hwaits, hentries, ?_, hdistinct⟩
  intro uri
  have hknown : ∃ l ∈ c.listeners, l.id = 0 := ⟨⟨0, "a"⟩, by rw [hentries]; simp, rfl⟩
  refine (hnamed 0 _ rfl hmessage (by decide) hknown uri).trans (or_congr ?_ ?_)
  · change _ ∈ c.listeners ↔ _
    rw [hentries]
    simp
  · simp [hlocation, hunreadable]

end Board

end MercuryLink
