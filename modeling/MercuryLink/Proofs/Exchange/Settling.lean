import Mathlib.Data.List.Basic
import Mathlib.Data.List.Nodup
import MercuryLink.Mercury.Exchange

/-!
# Requests and their answers on the board

An operation of the board does one of two things to the requests on it. It settles some of them:
those leave the board, each with one reply into its slot. Or it extends one of them by the parts of
a frame, and answers nobody. Either way every handle that was outstanding is outstanding still or
was answered, and no slot is answered that was not. These facts about one operation are all that the
facts about runs of an exchange rest on.
-/

namespace MercuryLink

/-- The slot that a notice answers, if it is a reply. -/
def Notice.slot? : Notice → Option Slot
  | .reply slot _ => some slot
  | .push _ _ => none

/-- The slots that notices answer, in order. -/
def answered (log : List Notice) : List Slot := log.filterMap Notice.slot?

@[simp] theorem answered_append (log later : List Notice) :
    answered (log ++ later) = answered log ++ answered later :=
  List.filterMap_append

/-- Messages for listeners answer nobody. -/
@[simp] theorem answered_pushes (listeners : List Listener) (m : Message) :
    answered (listeners.map fun l => .push l.id m) = [] := by
  rw [answered, List.filterMap_map]
  exact List.filterMap_eq_nil_iff.2 fun _ _ => rfl

/-- Replies to entries answer the slots of the entries. -/
theorem answered_replies (entries : Table Pending) (reply : Pending → Reply) :
    answered (entries.map fun entry => .reply entry.2.respond (reply entry.2)) =
      entries.map fun entry => entry.2.respond := by
  rw [answered, List.filterMap_map, ← List.filterMap_eq_map]
  rfl

/-- A slot takes as many replies as there are notices that answer it. -/
theorem Exchange.length_replies (log : List Notice) (slot : Slot) :
    (Exchange.replies log slot).length = (answered log).count slot := by
  induction log with
  | nil => rfl
  | cons notice log ih =>
    cases notice with
    | push l m => exact ih
    | reply s r =>
      by_cases hs : s = slot
      · subst hs
        simpa [Exchange.replies, answered, Notice.slot?] using ih
      · simpa [Exchange.replies, answered, Notice.slot?, hs] using ih

/-- A slot has no reply exactly if no notice answers it. -/
theorem Exchange.replies_eq_nil_iff {log : List Notice} {slot : Slot} :
    Exchange.replies log slot = [] ↔ slot ∉ answered log := by
  rw [← List.count_eq_zero, ← Exchange.length_replies, List.length_eq_zero_iff]

namespace Board

/-- The handles whose requests are outstanding. -/
def outstanding (b : Board) : List Handle :=
  b.pending.map fun entry => ⟨entry.1, entry.2.respond⟩

/-- The ids on the board are those of the outstanding handles. -/
theorem sequences_outstanding (b : Board) :
    b.outstanding.map Handle.sequence = b.pending.map (·.1) := by
  rw [outstanding, List.map_map]
  rfl

/-- The slots on the board are those of the outstanding handles. -/
theorem slots_outstanding (b : Board) :
    b.outstanding.map Handle.slot = b.pending.map fun entry => entry.2.respond := by
  rw [outstanding, List.map_map]
  rfl

/-- A handle is outstanding exactly if the entry of its id holds its slot. -/
theorem mem_outstanding_iff {b : Board} (hb : b.pending.Distinct) {h : Handle} :
    h ∈ b.outstanding ↔
      ∃ entry, b.pending.get? h.sequence = some entry ∧ entry.respond = h.slot := by
  simp only [outstanding, List.mem_map, hb.get?_eq_some_iff]
  constructor
  · rintro ⟨entry, hmem, rfl⟩
    exact ⟨entry.2, hmem, rfl⟩
  · rintro ⟨entry, hmem, hslot⟩
    exact ⟨(h.sequence, entry), hmem, by rw [hslot]⟩

theorem mem_outstanding_of_get? {b : Board} {id : SequenceId} {entry : Pending}
    (h : b.pending.get? id = some entry) : ⟨id, entry.respond⟩ ∈ b.outstanding :=
  List.mem_map.2 ⟨(id, entry), Table.mem_of_get? h, rfl⟩

/-- An id is absent exactly if no outstanding handle has it. -/
theorem get?_eq_none_iff_outstanding {b : Board} {id : SequenceId} :
    b.pending.get? id = none ↔ ∀ h ∈ b.outstanding, h.sequence ≠ id := by
  rw [Table.get?_eq_none_iff, outstanding, List.forall_mem_map]

/-- The requests that leave a board are answered, once each and nobody else is. -/
structure Settles (b : Board) (step : Board × List Notice) : Prop where
  counter : step.1.nextSequence = b.nextSequence
  /-- The entries that leave are those that are answered. -/
  removal : ∃ leaves : SequenceId × Pending → Bool,
    step.1.pending = b.pending.filter (fun entry => !leaves entry) ∧
      answered step.2 = (b.pending.filter leaves).map fun entry => entry.2.respond

/-- The parts of one request on a board become more, and nobody is answered. -/
structure Extends (b : Board) (step : Board × List Notice) : Prop where
  counter : step.1.nextSequence = b.nextSequence
  /-- One entry changes, and only in its parts. -/
  extension : ∃ id parts, step.1.pending = b.pending.modify id ({ · with parts })
  /-- Nobody is answered. -/
  silent : answered step.2 = []

/-- An operation that keeps the requests and answers nobody settles none of them. -/
theorem Settles.of_pending_eq {b : Board} {step : Board × List Notice}
    (hcounter : step.1.nextSequence = b.nextSequence) (hpending : step.1.pending = b.pending)
    (hsilent : answered step.2 = []) : Settles b step := by
  refine ⟨hcounter, fun _ => false, ?_, ?_⟩
  · rw [hpending]
    exact (List.filter_eq_self.2 fun _ _ => rfl).symm
  · rw [hsilent, List.filter_false]
    rfl

/-- Entries only leave. -/
theorem Settles.sublist {b : Board} {step : Board × List Notice} (h : Settles b step) :
    step.1.pending.Sublist b.pending := by
  obtain ⟨leaves, hkept, -⟩ := h.removal
  rw [hkept]
  exact List.filter_sublist

/-! ### Nobody is forgotten -/

/-- Every handle that was outstanding is outstanding still or was answered, but never both. -/
structure Conserves (b : Board) (step : Board × List Notice) : Prop where
  outstanding : step.1.outstanding.Sublist b.outstanding
  slots : (answered step.2 ++ step.1.outstanding.map Handle.slot).Perm
    (b.outstanding.map Handle.slot)
  covers : ∀ h ∈ b.outstanding, h ∈ step.1.outstanding ∨ h.slot ∈ answered step.2

theorem Settles.conserves {b : Board} {step : Board × List Notice} (h : Settles b step) :
    Conserves b step := by
  obtain ⟨-, leaves, hkept, hanswered⟩ := h
  refine ⟨?_, ?_, ?_⟩
  · rw [Board.outstanding, hkept]
    exact List.filter_sublist.map _
  · rw [slots_outstanding, slots_outstanding, hkept, hanswered, ← List.map_append]
    exact (List.filter_append_perm leaves b.pending).map _
  · intro handle hmem
    obtain ⟨entry, hentry, rfl⟩ := List.mem_map.1 hmem
    by_cases hleaves : leaves entry = true
    · refine Or.inr ?_
      rw [hanswered]
      exact List.mem_map.2 ⟨entry, List.mem_filter.2 ⟨hentry, hleaves⟩, rfl⟩
    · refine Or.inl ?_
      rw [Board.outstanding, hkept]
      exact List.mem_map.2 ⟨entry, List.mem_filter.2 ⟨hentry, by simpa using hleaves⟩, rfl⟩

/-- Nothing is lost where no handle changes and nobody is answered. -/
theorem Conserves.of_outstanding_eq {b : Board} {step : Board × List Notice}
    (heq : step.1.outstanding = b.outstanding) (hsilent : answered step.2 = []) :
    Conserves b step := by
  refine ⟨?_, ?_, ?_⟩
  · rw [heq]
  · rw [heq, hsilent, List.nil_append]
  · intro handle hmem
    exact Or.inl (heq ▸ hmem)

theorem Extends.conserves {b : Board} {step : Board × List Notice} (h : Extends b step) :
    Conserves b step := by
  obtain ⟨-, ⟨id, parts, hpending⟩, hsilent⟩ := h
  refine .of_outstanding_eq ?_ hsilent
  rw [outstanding, outstanding, hpending, Table.modify, List.map_map]
  refine List.map_congr_left fun entry _ => ?_
  by_cases hid : entry.1 = id
  · simp [hid]
  · simp [hid]

/-! ### What operations leave alone -/

/-- Registering a request changes the requests and their count at most. -/
theorem exists_registered (b : Board) (now : Moment) (r : Request) (timeout : Timespan)
    (respond : Slot) (listener : Option Nat) :
    ∃ nextSequence pending,
      (b.register now r timeout respond listener).1 = { b with nextSequence, pending } := by
  rw [register]
  split
  · exact ⟨_, _, rfl⟩
  · dsimp only
    split
    · exact ⟨_, _, rfl⟩
    · split
      · exact ⟨_, _, rfl⟩
      · exact ⟨_, _, rfl⟩

/-- A failure of one request changes the requests at most. -/
theorem exists_failed (b : Board) (id : SequenceId) (e : LinkError) :
    ∃ pending, (b.fail id e).1 = { b with pending } := by
  rw [fail]
  split
  · exact ⟨_, rfl⟩
  · exact ⟨_, rfl⟩

/-- Registering what a subscription acknowledged changes the listeners at most. -/
theorem exists_acknowledged (b : Board) (id : Nat) (parts : List Bytes) :
    ∃ listeners, b.acknowledge id parts = { b with listeners } := by
  rw [acknowledge]
  split
  · exact ⟨_, rfl⟩
  · exact ⟨_, rfl⟩

/-- A complete response withdraws its request, changes the listeners at most, and sends the
reply. -/
theorem exists_completed (b : Board) (id : SequenceId) (entry : Pending) (parts : List Bytes) :
    (∃ listeners, (b.complete id entry parts).1 = { b.withdraw id with listeners }) ∧
      (b.complete id entry parts).2 =
        [.reply entry.respond ((Message.ofParts id parts).mapError .ofMessage)] := by
  rw [complete]
  cases Message.ofParts id parts with
  | error e => exact ⟨⟨_, rfl⟩, rfl⟩
  | ok m =>
    dsimp only
    refine ⟨?_, rfl⟩
    split
    · split
      · exact ⟨_, rfl⟩
      · exact (b.withdraw id).exists_acknowledged _ m.payload
    · exact ⟨_, rfl⟩

/-! ### Each operation settles or extends -/

/-- A request that is withdrawn with a reply into its slot is settled. -/
theorem settles_withdraw {b : Board} (hb : b.pending.Distinct) {id : SequenceId} {entry : Pending}
    (hentry : b.pending.get? id = some entry) (r : Reply) :
    Settles b (b.withdraw id, [.reply entry.respond r]) := by
  refine ⟨rfl, fun entry => entry.1 = id, ?_, ?_⟩
  · change b.pending.erase id = _
    rw [Table.erase]
    refine List.filter_congr fun other _ => ?_
    rw [decide_not]
  · rw [hb.filter_eq_singleton hentry]
    rfl

/-- A failure settles the request that it concerns. -/
theorem settles_fail {b : Board} (hb : b.pending.Distinct) (id : SequenceId) (e : LinkError) :
    Settles b (b.fail id e) := by
  rw [fail]
  split
  · next entry hentry => exact settles_withdraw hb hentry (.error e)
  · exact .of_pending_eq rfl rfl rfl

/-- Expired requests are settled by their time-out. -/
theorem settles_sweep (b : Board) (now : Moment) : Settles b (b.sweep now) :=
  ⟨rfl, fun entry => entry.2.isDue now, rfl,
    answered_replies (b.pending.filter fun entry => entry.2.isDue now)
      fun entry => .error (.timeout entry.timeout)⟩

/-- Closing settles every request. -/
theorem settles_close (b : Board) (e : LinkError) : Settles b (b.close e) := by
  refine ⟨rfl, fun _ => true, ?_, ?_⟩
  · exact (List.filter_eq_nil_iff.2 fun _ _ => by simp).symm
  · rw [List.filter_true]
    exact answered_replies b.pending fun _ => .error e

/-- A complete response leaves the board as if it were withdrawn, but for the listeners. -/
theorem complete_eq (b : Board) (id : SequenceId) (entry : Pending) (parts : List Bytes) :
    (b.complete id entry parts).1.pending = (b.withdraw id).pending ∧
      (b.complete id entry parts).1.nextSequence = b.nextSequence ∧
      (b.complete id entry parts).2 =
        [.reply entry.respond ((Message.ofParts id parts).mapError .ofMessage)] := by
  obtain ⟨⟨listeners, hboard⟩, hnotices⟩ := b.exists_completed id entry parts
  rw [hboard]
  exact ⟨rfl, rfl, hnotices⟩

/-- A response frame settles its request or extends it. -/
theorem takeResponse_settles_or_extends {b : Board} (hb : b.pending.Distinct) (p : Packet) :
    Settles b (b.takeResponse p) ∨ Extends b (b.takeResponse p) := by
  rw [takeResponse]
  split
  · exact Or.inl (.of_pending_eq rfl rfl rfl)
  · next entry hentry =>
    dsimp only
    split
    · obtain ⟨hpending, hcounter, hnotices⟩ :=
        complete_eq b p.sequence entry (entry.parts ++ p.parts)
      obtain ⟨-, hremoval⟩ := settles_withdraw hb hentry
        ((Message.ofParts p.sequence (entry.parts ++ p.parts)).mapError .ofMessage)
      refine Or.inl ⟨hcounter, ?_⟩
      rw [hpending, hnotices]
      exact hremoval
    · exact Or.inr ⟨rfl, ⟨p.sequence, entry.parts ++ p.parts, rfl⟩, rfl⟩

/-- A push frame keeps the requests and answers nobody. -/
theorem settles_takePush (b : Board) (now : Moment) (span : Timespan) (p : Packet) :
    (b.takePush now span p).1.pending = b.pending ∧ Settles b (b.takePush now span p) := by
  have hall : (b.takePush now span p).1.pending = b.pending ∧
      (b.takePush now span p).1.nextSequence = b.nextSequence ∧
      answered (b.takePush now span p).2 = [] := by
    rw [takePush]
    dsimp only
    split
    · split
      · exact ⟨rfl, rfl, rfl⟩
      · exact ⟨rfl, rfl, answered_pushes _ _⟩
    · split
      · exact ⟨rfl, rfl, rfl⟩
      · exact ⟨rfl, rfl, rfl⟩
  exact ⟨hall.1, .of_pending_eq hall.2.1 hall.1 hall.2.2⟩

/-- A payload that is no packet settles at most the request of its readable id. -/
theorem settles_takeBroken {b : Board} (hb : b.pending.Distinct) (command : Command)
    (payload : Bytes) (e : Packet.DecodeError) : Settles b (b.takeBroken command payload e) := by
  rw [takeBroken]
  split
  · exact .of_pending_eq rfl rfl rfl
  · next sequence _ =>
    split
    · exact settles_fail hb sequence (.ofPacket e)
    · split
      · exact .of_pending_eq rfl rfl rfl
      · exact .of_pending_eq rfl rfl rfl

/-- A frame settles requests or extends one. -/
theorem route_settles_or_extends {b : Board} (hb : b.pending.Distinct) (now : Moment)
    (span : Timespan) (f : Frame) :
    Settles b (b.route now span f) ∨ Extends b (b.route now span f) := by
  rw [route]
  split
  · next e _ => exact Or.inl (settles_takeBroken hb f.command f.payload e)
  · next p _ =>
    split
    · exact takeResponse_settles_or_extends hb p
    · split
      · exact Or.inl (settles_takePush b now span p).2
      · exact Or.inl (.of_pending_eq rfl rfl rfl)

end Board

end MercuryLink
