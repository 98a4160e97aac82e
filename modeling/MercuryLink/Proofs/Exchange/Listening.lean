import MercuryLink.Proofs.Exchange.Delivering
import MercuryLink.Proofs.Exchange.Turns

/-!
# Who listens where

An entry of the board is one location of one listener. Uses of the board add entries in two ways
only: a new listener comes with its first one, and the acknowledgement of a subscription adds
locations to a listener that still has an entry. Hence no entry is there twice, a listener whose
entries are all gone stays without, and a push that finds several entries of one listener, which
have stems of different lengths, is sent to it once.
-/

namespace MercuryLink

namespace Exchange

/-- A listener is sent as many copies of a message as it has entries among the receivers. -/
theorem length_messages_pushes (found : List Listener) (m : Message) (id : Nat) :
    (messages (found.map fun l => .push l.id m) id).length = (found.map (·.id)).count id := by
  induction found with
  | nil => rfl
  | cons l found ih =>
    by_cases hl : l.id = id
    · simpa [messages, hl] using ih
    · simpa [messages, hl] using ih

end Exchange

namespace Board

open Exchange (messages)

/-! ### What a use does to the entries -/

/-- What an operation of a board does to its entries. -/
inductive Relists (b : Board) (step : Board × List Notice) : Prop where
  /-- Entries leave at most, and no listener is sent anything. -/
  | leaves (entries : step.1.listeners.Sublist b.listeners)
    (counter : step.1.nextListener = b.nextListener) (silent : ∀ id, messages step.2 id = [])
  /-- Entries leave at most, and some with the same stem are sent a message. -/
  | delivers {found : List Listener} {m : Message} {stem : String}
    (entries : step.1.listeners.Sublist b.listeners)
    (counter : step.1.nextListener = b.nextListener) (present : found.Sublist b.listeners)
    (same : ∀ l ∈ found, l.stem = stem) (sent : step.2 = found.map fun l => .push l.id m)
  /-- A new listener comes with its first entry. -/
  | listens {stem : String}
    (entries : step.1.listeners = b.listeners ++ [⟨b.nextListener, stem⟩])
    (counter : step.1.nextListener = b.nextListener + 1) (silent : ∀ id, messages step.2 id = [])
  /-- A listener that has an entry gets others that are not there yet. -/
  | acknowledges {id : Nat} {added : List Listener} (known : ∃ l ∈ b.listeners, l.id = id)
    (entries : step.1.listeners = b.listeners ++ added) (ids : ∀ l ∈ added, l.id = id)
    (distinct : b.listeners.Nodup → step.1.listeners.Nodup)
    (counter : step.1.nextListener = b.nextListener) (silent : ∀ id, messages step.2 id = [])

/-- Doing nothing to the entries, and sending nothing to a listener. -/
theorem Relists.of_eq {b : Board} {step : Board × List Notice}
    (hentries : step.1.listeners = b.listeners) (hcounter : step.1.nextListener = b.nextListener)
    (hsilent : ∀ id, messages step.2 id = []) : Relists b step :=
  .leaves (by rw [hentries]) hcounter hsilent

/-- Only the entries and the number of the next listener matter. -/
theorem Relists.congr {b b' : Board} {step : Board × List Notice} (h : Relists b' step)
    (hentries : b'.listeners = b.listeners) (hcounter : b'.nextListener = b.nextListener) :
    Relists b step := by
  cases h with
  | leaves entries counter silent =>
    exact .leaves (hentries ▸ entries) (counter.trans hcounter) silent
  | delivers entries counter present same sent =>
    exact .delivers (hentries ▸ entries) (counter.trans hcounter) (hentries ▸ present) same sent
  | @listens stem entries counter silent =>
    have hadded : step.1.listeners = b.listeners ++ [⟨b.nextListener, stem⟩] := by
      rw [entries, hentries, hcounter]
    exact .listens hadded (by rw [counter, hcounter]) silent
  | acknowledges known entries ids distinct counter silent =>
    refine .acknowledges (hentries ▸ known) ?_ ids (hentries ▸ distinct)
      (counter.trans hcounter) silent
    rw [entries, hentries]

/-- What is acknowledged for a listener is added behind the entries, and nothing twice. -/
theorem foldl_addAcknowledged (id : Nat) (parts : List Bytes) (listeners : List Listener) :
    ∃ added, parts.foldl (addAcknowledged id) listeners = listeners ++ added ∧
      (∀ l ∈ added, l.id = id) ∧ (listeners.Nodup → (listeners ++ added).Nodup) := by
  induction parts generalizing listeners with
  | nil => exact ⟨[], by simp⟩
  | cons part parts ih =>
    have hone : ∃ added, addAcknowledged id listeners part = listeners ++ added ∧
        (∀ l ∈ added, l.id = id) ∧ (listeners.Nodup → (listeners ++ added).Nodup) := by
      rw [addAcknowledged]
      split
      · next uri _ _ _ =>
        split
        · exact ⟨[], by simp⟩
        · next hnew =>
          refine ⟨[⟨id, uri⟩], rfl, by simp, ?_⟩
          intro hnodup
          have habsent : (⟨id, uri⟩ : Listener) ∉ listeners := by simpa using hnew
          refine List.nodup_append.2 ⟨hnodup, List.nodup_singleton _, ?_⟩
          intro l hl l' hl' heq
          rw [List.mem_singleton] at hl'
          exact habsent (hl' ▸ heq ▸ hl)
      · exact ⟨[], by simp⟩
    obtain ⟨added, hadded, hids, hnodup⟩ := hone
    obtain ⟨added', hadded', hids', hnodup'⟩ := ih (listeners ++ added)
    refine ⟨added ++ added', ?_, ?_, ?_⟩
    · rw [List.foldl_cons, hadded, hadded', List.append_assoc]
    · intro l hl
      exact (List.mem_append.1 hl).elim (hids l) (hids' l)
    · intro hlisteners
      rw [← List.append_assoc]
      exact hnodup' (hnodup hlisteners)

/-- Two stems of one length that cover the same location are the same. -/
theorem stem_eq_of_hits {uri : String} {length : Nat} {l l' : Listener}
    (h : hits uri length l = true) (h' : hits uri length l' = true) : l.stem = l'.stem := by
  simp only [hits, Listener.covers, Bool.and_eq_true, decide_eq_true_eq,
    List.isPrefixOf_iff_prefix] at h h'
  have hlength : l.stem.toList.length = l'.stem.toList.length := by
    rw [String.length_toList, String.length_toList, h.1, h'.1]
  have hstarts : l.stem.toList <+: l'.stem.toList :=
    List.prefix_of_prefix_length_le h.2 h'.2 (Nat.le_of_eq hlength)
  exact String.toList_inj.1 (hstarts.eq_of_length hlength)

/-- The entries that a message finds all have the stem of the first. -/
theorem exists_stem_of_hits {uri : String} {length : Nat} {found : List Listener}
    (h : ∀ l ∈ found, hits uri length l = true) : ∃ stem, ∀ l ∈ found, l.stem = stem := by
  cases found with
  | nil => exact ⟨"", List.forall_mem_nil _⟩
  | cons first found =>
    refine ⟨first.stem, ?_⟩
    intro l hl
    exact stem_eq_of_hits (h l hl) (h first List.mem_cons_self)

/-- The entries kept and the receivers found are entries that were there, and all receivers have the
same stem. -/
theorem receivers_spec (live : Listener → Bool) (uri : String) (listeners : List Listener) :
    (receivers live uri listeners).1.Sublist listeners ∧
      (receivers live uri listeners).2.Sublist listeners ∧
      ∃ stem, ∀ l ∈ (receivers live uri listeners).2, l.stem = stem := by
  rw [receivers_eq]
  split
  · exact ⟨List.filter_sublist, List.nil_sublist _, "", List.forall_mem_nil _⟩
  · next length _ =>
    have hhits : ∀ l ∈ listeners.filter (fun l => hits uri length l && live l),
        hits uri length l = true := by
      intro l hl
      exact (Bool.and_eq_true_iff.1 (List.mem_filter.1 hl).2).1
    exact ⟨List.filter_sublist, List.filter_sublist, exists_stem_of_hits hhits⟩

/-- A push is sent to entries of one stem, and may remove others that nobody reads from. -/
theorem relists_deliver (b : Board) (m : Message) : Relists b (b.deliver m) := by
  obtain ⟨hkept, hfound, stem, hstem⟩ := receivers_spec b.isLive m.uri b.listeners
  exact .delivers hkept rfl hfound hstem rfl

/-- Registering acknowledged locations adds them to a listener that still has an entry. -/
theorem relists_acknowledge (b : Board) (id : Nat) (parts : List Bytes) {notices : List Notice}
    (hsilent : ∀ id, messages notices id = []) : Relists b (b.acknowledge id parts, notices) := by
  rw [acknowledge]
  split
  · next hknown =>
    obtain ⟨added, hadded, hids, hnodup⟩ := foldl_addAcknowledged id parts b.listeners
    have hentry : ∃ l ∈ b.listeners, l.id = id := by simpa using hknown
    refine .acknowledges hentry hadded hids ?_ rfl hsilent
    intro hdistinct
    exact hadded ▸ hnodup hdistinct
  · exact .of_eq rfl rfl hsilent

/-- A complete response adds what a subscription acknowledged. -/
theorem relists_complete (b : Board) (sequence : SequenceId) (entry : Pending)
    (parts : List Bytes) : Relists b (b.complete sequence entry parts) := by
  rw [complete]
  dsimp only
  split
  · exact .of_eq rfl rfl fun _ => rfl
  · next m _ =>
    have hsilent : ∀ id, messages [.reply entry.respond (.ok m)] id = [] := fun _ => rfl
    split
    · next id _ =>
      split
      · exact .of_eq rfl rfl hsilent
      · exact (relists_acknowledge (b.withdraw sequence) id m.payload hsilent).congr rfl rfl
    · exact .of_eq rfl rfl hsilent

/-- A failure leaves the entries as they are. -/
theorem relists_fail (b : Board) (sequence : SequenceId) (e : LinkError) :
    Relists b (b.fail sequence e) := by
  rw [fail]
  split
  · exact .of_eq rfl rfl fun _ => rfl
  · exact .of_eq rfl rfl fun _ => rfl

/-- A frame completes a response or a push, or leaves the entries as they are. -/
theorem relists_route (b : Board) (now : Moment) (span : Timespan) (f : Frame) :
    Relists b (b.route now span f) := by
  have hkeep : Relists b (b, []) := .of_eq rfl rfl fun _ => rfl
  rw [route]
  split
  · rw [takeBroken]
    split
    · exact hkeep
    · next sequence _ =>
      split
      · exact relists_fail b sequence _
      · split
        · exact .of_eq rfl rfl fun _ => rfl
        · exact hkeep
  · next p _ =>
    split
    · rw [takeResponse]
      split
      · exact hkeep
      · next entry _ =>
        dsimp only
        split
        · exact relists_complete b p.sequence entry _
        · exact .of_eq rfl rfl fun _ => rfl
    · split
      · rw [takePush]
        dsimp only
        split
        · split
          · exact .of_eq rfl rfl fun _ => rfl
          · next m _ =>
            exact (relists_deliver { b with pushes := b.pushes.erase p.sequence } m).congr rfl rfl
        · split
          · exact hkeep
          · exact .of_eq rfl rfl fun _ => rfl
      · exact hkeep

/-- Registering a request leaves the entries as they are. -/
theorem listeners_register (b : Board) (now : Moment) (r : Request) (timeout : Timespan)
    (respond : Slot) (listener : Option Nat) :
    (b.register now r timeout respond listener).1.listeners = b.listeners ∧
      (b.register now r timeout respond listener).1.nextListener = b.nextListener := by
  obtain ⟨nextSequence, pending, hboard⟩ := b.exists_registered now r timeout respond listener
  rw [hboard]
  exact ⟨rfl, rfl⟩

/-- Every use of a board does one of these things to its entries. -/
theorem relists_turn (b : Board) (t : Turn) : Relists b (b.turn t) := by
  cases t with
  | listen stem =>
    simp only [turn]
    split
    · exact .of_eq rfl rfl fun _ => rfl
    · exact .listens rfl rfl fun _ => rfl
  | unlisten stem =>
    simp only [turn]
    split
    · exact .of_eq rfl rfl fun _ => rfl
    · exact .leaves List.filter_sublist rfl fun _ => rfl
  | removeListener id => exact .leaves List.filter_sublist rfl fun _ => rfl
  | dropStream id | withdraw sequence => exact .of_eq rfl rfl fun _ => rfl
  | register now r timeout respond listener =>
    obtain ⟨hentries, hcounter⟩ := b.listeners_register now r timeout respond listener
    exact .of_eq hentries hcounter fun _ => rfl
  | fail sequence e => exact relists_fail b sequence e
  | route now span f => exact relists_route b now span f
  | sweep now =>
    exact .of_eq rfl rfl (Exchange.messages_replies _ fun entry => .error (.timeout entry.timeout))
  | close e =>
    exact .leaves (List.nil_sublist _) rfl (Exchange.messages_replies _ fun _ => .error e)

/-! ### What every use keeps -/

/-- No entry is there twice, and every entry belongs to a listener that was made. -/
structure Tidy (b : Board) : Prop where
  distinct : b.listeners.Nodup
  made : ∀ l ∈ b.listeners, l.id < b.nextListener

/-- A listener was made, and has no entry any more. -/
structure Lacks (b : Board) (id : Nat) : Prop where
  made : id < b.nextListener
  gone : ∀ l ∈ b.listeners, l.id ≠ id

section Relists

variable {b : Board} {step : Board × List Notice}

/-- An empty board is tidy. -/
theorem tidy_empty : empty.Tidy := ⟨List.nodup_nil, List.forall_mem_nil _⟩

theorem Relists.tidy (h : Relists b step) (hb : b.Tidy) : step.1.Tidy := by
  cases h with
  | leaves entries counter silent | delivers entries counter present same sent =>
    refine ⟨entries.nodup hb.distinct, ?_⟩
    rw [counter]
    exact fun l hl => hb.made l (entries.subset hl)
  | @listens stem entries counter silent =>
    refine ⟨?_, ?_⟩
    · rw [entries, List.nodup_append]
      refine ⟨hb.distinct, List.nodup_singleton _, ?_⟩
      intro l hl l' hl' heq
      rw [List.mem_singleton] at hl'
      have hlt := hb.made l hl
      rw [heq, hl'] at hlt
      exact Nat.lt_irrefl _ hlt
    · intro l hl
      rw [entries] at hl
      rw [counter]
      rcases List.mem_append.1 hl with hold | hnew
      · exact Nat.lt_succ_of_lt (hb.made l hold)
      · rw [List.mem_singleton.1 hnew]
        exact Nat.lt_succ_self _
  | acknowledges known entries ids distinct counter silent =>
    refine ⟨distinct hb.distinct, ?_⟩
    intro l hl
    rw [entries] at hl
    rw [counter]
    rcases List.mem_append.1 hl with hold | hnew
    · exact hb.made l hold
    · obtain ⟨known, hknown, hid⟩ := known
      rw [ids l hnew, ← hid]
      exact hb.made known hknown

/-- A listener without entries gets none, and is sent nothing. -/
theorem Relists.lacks (h : Relists b step) {id : Nat} (hb : b.Lacks id) :
    step.1.Lacks id ∧ messages step.2 id = [] := by
  cases h with
  | leaves entries counter silent =>
    exact ⟨⟨counter ▸ hb.made, fun l hl => hb.gone l (entries.subset hl)⟩, silent id⟩
  | delivers entries counter present same sent =>
    refine ⟨⟨counter ▸ hb.made, fun l hl => hb.gone l (entries.subset hl)⟩, ?_⟩
    rw [sent, ← List.length_eq_zero_iff, Exchange.length_messages_pushes, List.count_eq_zero]
    intro hmem
    obtain ⟨l, hl, hid⟩ := List.mem_map.1 hmem
    exact hb.gone l (present.subset hl) hid
  | listens entries counter silent =>
    -- The number of the new listener is the next one, which no listener that was made has.
    refine ⟨⟨counter ▸ Nat.lt_succ_of_lt hb.made, ?_⟩, silent id⟩
    intro l hl
    rw [entries] at hl
    rcases List.mem_append.1 hl with hold | hnew
    · exact hb.gone l hold
    · rw [List.mem_singleton.1 hnew]
      exact Nat.ne_of_gt hb.made
  | acknowledges known entries ids distinct counter silent =>
    refine ⟨⟨counter ▸ hb.made, ?_⟩, silent id⟩
    intro l hl
    rw [entries] at hl
    rcases List.mem_append.1 hl with hold | hnew
    · exact hb.gone l hold
    · obtain ⟨known, hknown, hid⟩ := known
      rw [ids l hnew, ← hid]
      exact hb.gone known hknown

/-- Where no entry is there twice, no listener is sent a message twice: two entries of one listener
differ in their stems, and the receivers have the same. -/
theorem Relists.once (h : Relists b step) (hb : b.Tidy) (id : Nat) :
    (messages step.2 id).length ≤ 1 := by
  cases h with
  | leaves entries counter silent | listens entries counter silent
  | acknowledges known entries ids distinct counter silent =>
    rw [silent id]
    exact Nat.zero_le 1
  | delivers entries counter present same sent =>
    rw [sent, Exchange.length_messages_pushes]
    refine List.nodup_iff_count_le_one.1 ?_ id
    refine List.Nodup.map_on ?_ (present.nodup hb.distinct)
    intro l hl l' hl' hid
    have hstem : l.stem = l'.stem := (same l hl).trans (same l' hl').symm
    cases l
    cases l'
    simp_all

end Relists

/-- Uses keep a board tidy. -/
theorem Tidy.turns {b : Board} (hb : b.Tidy) (ts : List Turn) : (b.turns ts).1.Tidy := by
  induction ts generalizing b with
  | nil => exact hb
  | cons t later ih => exact ih ((relists_turn b t).tidy hb)

/-- A listener without entries gets none by any uses, and is sent nothing. -/
theorem Lacks.turns {b : Board} {id : Nat} (hb : b.Lacks id) (ts : List Turn) :
    (b.turns ts).1.Lacks id ∧ messages (b.turns ts).2 id = [] := by
  induction ts generalizing b with
  | nil => exact ⟨hb, rfl⟩
  | cons t later ih =>
    obtain ⟨hnext, hsilent⟩ := (relists_turn b t).lacks hb
    obtain ⟨hlast, hlater⟩ := ih hnext
    refine ⟨hlast, ?_⟩
    rw [Board.turns, Exchange.messages_append, hsilent, hlater, List.nil_append]

/-- The entries left when every listener with a certain stem is removed. -/
theorem listeners_removeStem (b : Board) (stem : String) :
    (b.removeStem stem).listeners =
      b.listeners.filter fun l => !b.listeners.any fun m => m.id = l.id && m.stem = stem := by
  refine List.filter_congr fun l _ => ?_
  congr 1
  rw [Bool.eq_iff_iff]
  simp only [List.contains_iff_mem, List.mem_map, List.mem_filter, List.any_eq_true,
    Bool.and_eq_true, decide_eq_true_eq]
  constructor
  · rintro ⟨m, ⟨hm, hstem⟩, hid⟩
    exact ⟨m, hm, hid, hstem⟩
  · rintro ⟨m, hm, hid, hstem⟩
    exact ⟨m, ⟨hm, hstem⟩, hid⟩

/-- On an open board only the listeners with the stem lose their entries. -/
theorem listeners_unlisten {b : Board} (hopen : b.closeReason = none) (stem : String) :
    (b.turn (.unlisten stem)).1.listeners =
      b.listeners.filter fun l => !b.listeners.any fun m => m.id = l.id && m.stem = stem := by
  have hturn : b.turn (.unlisten stem) = (b.removeStem stem, []) := by
    rw [turn, isClosed, hopen]
    rfl
  rw [hturn, listeners_removeStem]

end Board

namespace Exchange

/-- Sending a request leaves the entries as they are. -/
theorem listeners_dispatch (x : Exchange) (now : Moment) (r : Request) (timeout : Timespan)
    (listener : Option Nat) :
    (x.dispatch now r timeout listener).1.board.listeners = x.board.listeners := by
  have hregister := (x.board.listeners_register now r timeout x.slots listener).1
  rw [dispatch]
  dsimp only
  split
  · exact hregister
  · split
    · exact hregister
    · exact hregister

/-- The call that stops listening to a stem does to the entries what it does in its first use of the
board, whatever becomes of its request. -/
theorem listeners_unsubscribe {x : Exchange} (hopen : x.board.closeReason = none) (now : Moment)
    (stem : String) (timeout : Timespan) :
    (x.unsubscribe now stem timeout).1.board.listeners =
      (x.board.turn (.unlisten stem)).1.listeners := by
  rw [unsubscribe, hopen, Board.listeners_unlisten hopen, ← Board.listeners_removeStem]
  exact listeners_dispatch _ now (.plain .unsubscribe stem) timeout none

end Exchange

namespace Board

open Exchange (messages)

/-- **Listeners are listed once, and a listener that is gone stays gone.** Whatever uses a board has
seen, in whatever order they came, no entry is there twice, and every entry has the number of a
listener that was made. A listener that was made and has no entry left is given none by any later
use, be it the acknowledgement of its own subscription, and is sent no message. A frame sends at
most one message to any listener, however many of its entries cover the location. Stopping to
listen to a stem on an open board removes exactly the entries of the listeners that have one with
this stem, and keeps the others in their order. And whatever an exchange with this board does later
falls into such uses. -/
theorem listeners_listed_once (uses : List Turn) :
    let b := (empty.turns uses).1
    b.listeners.Nodup ∧ (∀ l ∈ b.listeners, l.id < b.nextListener) ∧
    (∀ id < b.nextListener, (∀ l ∈ b.listeners, l.id ≠ id) → ∀ later : List Turn,
      (∀ l ∈ (b.turns later).1.listeners, l.id ≠ id) ∧ messages (b.turns later).2 id = []) ∧
    (∀ now span f id, (messages (b.route now span f).2 id).length ≤ 1) ∧
    (b.closeReason = none → ∀ stem,
      (b.turn (.unlisten stem)).1.listeners =
        b.listeners.filter (fun l => !b.listeners.any fun m => m.id = l.id && m.stem = stem) ∧
      ∀ x : Exchange, x.board = b → ∀ now timeout,
        (x.unsubscribe now stem timeout).1.board.listeners =
          (b.turn (.unlisten stem)).1.listeners) ∧
    ∀ x : Exchange, x.board = b → ∀ steps, ∃ later : List Turn,
      (x.run steps).board = (b.turns later).1 ∧ (x.run steps).log = x.log ++ (b.turns later).2 := by
  intro b
  have htidy : b.Tidy := tidy_empty.turns uses
  refine ⟨htidy.distinct, htidy.made, ?_, ?_, ?_, ?_⟩
  · intro id hmade hgone later
    have hlacks : b.Lacks id := ⟨hmade, hgone⟩
    obtain ⟨hlast, hsilent⟩ := hlacks.turns later
    exact ⟨hlast.gone, hsilent⟩
  · intro now span f id
    exact (relists_route b now span f).once htidy id
  · intro hopen stem
    refine ⟨listeners_unlisten hopen stem, ?_⟩
    rintro x hx now timeout
    rw [← hx] at hopen ⊢
    exact Exchange.listeners_unsubscribe hopen now stem timeout
  · rintro x hx steps
    obtain ⟨later, -, hboard, hlog⟩ := Exchange.goes_run (fun _ => trivial) x steps
    rw [← hx]
    exact ⟨later, hboard, hlog⟩

/-- Of two listeners the one with the stem is removed, and the number of the other stays. -/
example : (empty.turns [.listen "a", .listen "ab", .unlisten "a"]).1.listeners = [⟨1, "ab"⟩] := by
  decide

end Board

end MercuryLink
