import Mathlib.Data.List.Basic
import MercuryLink.Proofs.Exchange.Resolution

/-!
# What a request is answered with

Of all the frames that arrive, a request is touched only by response frames that carry its id: those
that decode to a packet under it, and those that do not decode but still show it. `Progress` says
how far such frames bring a request, from nothing but the frames themselves. Every step of a run
keeps an exchange in agreement with it, as long as no look at the clock, no write and no end of the
link answers the request. The main statement is that the reply to a request is determined by its
frames in their order of arrival, whatever else arrives between them.
-/

namespace MercuryLink

/-- What a frame brings for the request of an id: a packet of its response, or the reason why the
payload is none. Frames for other ids, pushes and frames that show no id bring nothing. -/
def Frame.arrival? (f : Frame) (id : SequenceId) : Option (Except Packet.DecodeError Packet) :=
  if f.command.isResponse then
    match Packet.decode f.payload with
    | .ok p => if p.sequence = id then some (.ok p) else none
    | .error e => if Packet.peekSequence? f.payload = some id then some (.error e) else none
  else none

/-- How far a request has come. -/
inductive Progress where
  /-- It waits, with the parts so far. -/
  | waiting (parts : List Bytes)
  /-- It is resolved. -/
  | resolved (reply : Reply)

/-- How far the next frame for a request brings it. -/
def Progress.take (id : SequenceId) : Progress → Except Packet.DecodeError Packet → Progress
  | .resolved r, _ => .resolved r
  | .waiting _, .error e => .resolved (.error (.ofPacket e))
  | .waiting parts, .ok p =>
    if p.isFinal then .resolved ((Message.ofParts id (parts ++ p.parts)).mapError .ofMessage)
    else .waiting (parts ++ p.parts)

/-- How far frames for a request bring it, one after the other. -/
def Progress.after (id : SequenceId) (p : Progress)
    (arrived : List (Except Packet.DecodeError Packet)) : Progress :=
  arrived.foldl (Progress.take id) p

theorem Progress.after_resolved (id : SequenceId) (r : Reply)
    (arrived : List (Except Packet.DecodeError Packet)) :
    Progress.after id (.resolved r) arrived = .resolved r := by
  induction arrived with
  | nil => rfl
  | cons a later ih => exact ih

/-- Frames that are not the last of a response join their parts. -/
theorem Progress.after_waiting (id : SequenceId) (parts : List Bytes) {ps : List Packet}
    (hps : ∀ p ∈ ps, p.isFinal = false) (later : List (Except Packet.DecodeError Packet)) :
    Progress.after id (.waiting parts) (ps.map .ok ++ later) =
      Progress.after id (.waiting (parts ++ ps.flatMap Packet.parts)) later := by
  induction ps generalizing parts with
  | nil => simp [Progress.after]
  | cons p ps ih =>
    have hp : p.isFinal = false := hps p List.mem_cons_self
    have hstep : Progress.take id (.waiting parts) (.ok p) = .waiting (parts ++ p.parts) := by
      rw [Progress.take, hp]
      rfl
    rw [List.map_cons, List.cons_append, Progress.after, List.foldl_cons, hstep, ← Progress.after,
      ih _ fun q hq => hps q (List.mem_cons_of_mem p hq), List.flatMap_cons, List.append_assoc]

/-- As long as no frame is the last, a request waits with all parts. -/
theorem Progress.after_pending (id : SequenceId) {ps : List Packet}
    (hps : ∀ p ∈ ps, p.isFinal = false) :
    Progress.after id (.waiting []) (ps.map .ok) = .waiting (ps.flatMap Packet.parts) := by
  have h := Progress.after_waiting id [] hps []
  rwa [List.append_nil, List.nil_append] at h

/-- The last frame resolves a request with the message of all parts. -/
theorem Progress.after_last (id : SequenceId) {ps : List Packet} {last : Packet}
    (hps : ∀ p ∈ ps, p.isFinal = false) (hlast : last.isFinal = true)
    (rest : List (Except Packet.DecodeError Packet)) :
    Progress.after id (.waiting []) (ps.map .ok ++ .ok last :: rest) =
      .resolved ((Message.ofParts id ((ps ++ [last]).flatMap Packet.parts)).mapError
        .ofMessage) := by
  rw [Progress.after_waiting id [] hps, Progress.after, List.foldl_cons, Progress.take,
    if_pos hlast, ← Progress.after, Progress.after_resolved, List.flatMap_append,
    List.flatMap_singleton, List.nil_append]

/-- A frame that does not decode resolves a request with its failure. -/
theorem Progress.after_broken (id : SequenceId) {ps : List Packet} (e : Packet.DecodeError)
    (hps : ∀ p ∈ ps, p.isFinal = false) (rest : List (Except Packet.DecodeError Packet)) :
    Progress.after id (.waiting []) (ps.map .ok ++ .error e :: rest) =
      .resolved (.error (.ofPacket e)) := by
  rw [Progress.after_waiting id [] hps, Progress.after, List.foldl_cons, Progress.take,
    ← Progress.after, Progress.after_resolved]

namespace Board

/-- A failure of one request leaves the others. -/
theorem get?_fail_of_ne (b : Board) {id other : SequenceId} (e : LinkError) (h : other ≠ id) :
    (b.fail id e).1.pending.get? other = b.pending.get? other := by
  rw [fail]
  split
  · exact Table.get?_erase_of_ne b.pending h
  · rfl

/-- A response frame for one request leaves the others. -/
theorem get?_takeResponse_of_ne (b : Board) (p : Packet) {other : SequenceId}
    (h : other ≠ p.sequence) :
    (b.takeResponse p).1.pending.get? other = b.pending.get? other := by
  rw [takeResponse]
  split
  · rfl
  · next entry _ =>
    dsimp only
    split
    · rw [(complete_eq b p.sequence entry (entry.parts ++ p.parts)).1]
      exact Table.get?_erase_of_ne b.pending h
    · exact Table.get?_modify_of_ne b.pending ({ · with parts := entry.parts ++ p.parts }) h

/-- A frame that brings nothing for a request leaves it as it is. -/
theorem get?_route_of_arrival?_eq_none (b : Board) (now : Moment) (span : Timespan) {f : Frame}
    {id : SequenceId} (h : f.arrival? id = none) :
    (b.route now span f).1.pending.get? id = b.pending.get? id := by
  rw [Frame.arrival?] at h
  rw [route]
  cases hdecode : Packet.decode f.payload with
  | error e =>
    rw [hdecode] at h
    dsimp only at h ⊢
    rw [takeBroken]
    cases hpeek : Packet.peekSequence? f.payload with
    | none => rfl
    | some sequence =>
      rw [hpeek] at h
      dsimp only
      by_cases hresponse : f.command.isResponse = true
      · rw [if_pos hresponse] at h ⊢
        refine b.get?_fail_of_ne _ ?_
        rintro rfl
        rw [if_pos rfl] at h
        cases h
      · rw [if_neg hresponse]
        split
        · rfl
        · rfl
  | ok p =>
    rw [hdecode] at h
    dsimp only at h ⊢
    by_cases hresponse : f.command.isResponse = true
    · rw [if_pos hresponse] at h ⊢
      refine b.get?_takeResponse_of_ne p ?_
      rintro rfl
      rw [if_pos rfl] at h
      cases h
    · rw [if_neg hresponse]
      split
      · rw [(b.settles_takePush now span p).1]
      · rfl

/-- A frame of the response to a request that waits either extends it or answers it. -/
theorem route_of_arrival?_eq_some {b : Board} (now : Moment) (span : Timespan) {f : Frame}
    {id : SequenceId} {a : Except Packet.DecodeError Packet} {entry : Pending}
    (hentry : b.pending.get? id = some entry) (h : f.arrival? id = some a) :
    match Progress.take id (.waiting entry.parts) a with
    | .waiting parts => (b.route now span f).1.pending.get? id = some { entry with parts }
    | .resolved r => (b.route now span f).2 = [.reply entry.respond r] := by
  rw [Frame.arrival?] at h
  have hresponse : f.command.isResponse = true := by
    by_contra hno
    rw [if_neg hno] at h
    cases h
  rw [if_pos hresponse] at h
  rw [route]
  cases hdecode : Packet.decode f.payload with
  | error e =>
    rw [hdecode] at h
    dsimp only at h ⊢
    have hpeek : Packet.peekSequence? f.payload = some id := by
      by_contra hno
      rw [if_neg hno] at h
      cases h
    rw [if_pos hpeek] at h
    cases h
    rw [takeBroken, hpeek]
    dsimp only
    rw [if_pos hresponse, fail, hentry]
    rfl
  | ok p =>
    rw [hdecode] at h
    dsimp only at h ⊢
    have hid : p.sequence = id := by
      by_contra hno
      rw [if_neg hno] at h
      cases h
    subst hid
    rw [if_pos rfl] at h
    cases h
    rw [if_pos hresponse, takeResponse, hentry, Progress.take]
    dsimp only
    by_cases hfinal : p.isFinal = true
    · rw [if_pos hfinal, if_pos hfinal]
      exact (complete_eq b p.sequence entry (entry.parts ++ p.parts)).2.2
    · rw [if_neg hfinal, if_neg hfinal]
      dsimp only
      rw [Table.get?_modify_self, hentry]
      rfl

/-- A failure of one request closes no board. -/
theorem closeReason_fail (b : Board) (id : SequenceId) (e : LinkError) :
    (b.fail id e).1.closeReason = b.closeReason := by
  obtain ⟨pending, hboard⟩ := b.exists_failed id e
  rw [hboard]

/-- No frame closes a board. -/
theorem closeReason_route (b : Board) (now : Moment) (span : Timespan) (f : Frame) :
    (b.route now span f).1.closeReason = b.closeReason := by
  rw [route]
  split
  · next e _ =>
    rw [takeBroken]
    split
    · rfl
    · split
      · exact b.closeReason_fail _ _
      · split
        · rfl
        · rfl
  · next p _ =>
    split
    · rw [takeResponse]
      split
      · rfl
      · next entry _ =>
        dsimp only
        split
        · obtain ⟨⟨listeners, hboard⟩, -⟩ := b.exists_completed p.sequence entry _
          rw [hboard]
          rfl
        · rfl
    · split
      · rw [takePush]
        dsimp only
        split
        · split
          · rfl
          · rfl
        · split
          · rfl
          · rfl
      · rfl

end Board

namespace Exchange

/-- What a step brings for the request of an id. -/
def Step.arrival? (id : SequenceId) : Step → Option (Except Packet.DecodeError Packet)
  | .route _ f => f.arrival? id
  | _ => none

/-- What the frames of a run bring for the request of an id, in order of arrival. -/
def arrivals (id : SequenceId) (steps : List Step) : List (Except Packet.DecodeError Packet) :=
  steps.filterMap (Step.arrival? id)

/-- In a run, no look at the clock, no write and no end of the link answers a slot. -/
def Spares (slot : Slot) : Exchange → List Step → Prop
  | _, [] => True
  | x, step :: later =>
    (step.isEnding = true → replies (x.take step).1.log slot = replies x.log slot) ∧
      Spares slot (x.take step).1 later

/-- An exchange agrees with how far the request of a handle has come. -/
def Stands (x : Exchange) (h : Handle) : Progress → Prop
  | .waiting parts =>
    ∃ entry, x.board.pending.get? h.sequence = some entry ∧ entry.respond = h.slot ∧
      entry.parts = parts
  | .resolved r => replies x.log h.slot = [r]

theorem replies_append (log later : List Notice) (slot : Slot) :
    replies (log ++ later) slot = replies log slot ++ replies later slot :=
  List.filterMap_append

/-- The reply of a resolved request stays its only one. -/
theorem Stands.resolved {x y : Exchange} {known : List Handle} {h : Handle} {r : Reply}
    (hs : Stands x h (.resolved r)) (hlog : x.log <+: y.log) (hy : Accounted y known) :
    Stands y h (.resolved r) := by
  obtain ⟨notices, hnotices⟩ := hlog
  have hreplies : replies y.log h.slot = r :: replies notices h.slot := by
    rw [← hnotices, replies_append, hs]
    rfl
  have hle := hy.length_replies_le h.slot
  rw [hreplies, List.length_cons] at hle
  have hnil : replies notices h.slot = [] := List.length_eq_zero_iff.1 (by omega)
  change replies y.log h.slot = [r]
  rw [hreplies, hnil]

/-- A request that waits and is not answered by a step without frame waits as before. -/
theorem Stands.waiting {x y : Exchange} {known : List Handle} {outcome : Option (Outcome Handle)}
    {h : Handle} {parts : List Bytes} (hx : Accounted x known) (hmem : h ∈ known)
    (hs : Stands x h (.waiting parts)) (heffect : Effect x y outcome)
    (hsame : replies y.log h.slot = replies x.log h.slot) : Stands y h (.waiting parts) := by
  have hy : Accounted y (known ++ handles outcome) := hx.move heffect.move
  obtain ⟨entry, hentry, hrespond, hparts⟩ := hs
  cases heffect with
  | settles h' =>
    obtain ⟨-, notices, hlog, hsettles⟩ := h'
    have hunresolved : replies y.log h.slot = [] :=
      hsame.trans ((hx.unresolved_iff hmem).2 ⟨entry, hentry, hrespond⟩)
    obtain ⟨entry', hentry', hrespond'⟩ :=
      (hy.unresolved_iff (List.mem_append_left _ hmem)).1 hunresolved
    have hsub : (h.sequence, entry') ∈ x.board.pending :=
      hsettles.sublist.subset (Table.mem_of_get? hentry')
    have heq : entry' = entry := by
      have hfound := hx.distinct.get?_eq_some_iff.2 hsub
      rw [hentry] at hfound
      exact (Option.some.inj hfound).symm
    exact ⟨entry', hentry', hrespond', by rw [heq, hparts]⟩
  | refuses pending log counter slots =>
    exact ⟨entry, by rw [pending, hentry], hrespond, hparts⟩
  | accepts pending respond parts log counter slots =>
    refine ⟨entry, ?_, hrespond, hparts⟩
    rw [hy.distinct.get?_eq_some_iff, pending]
    exact List.mem_append_left _ (Table.mem_of_get? hentry)

/-- An arriving frame brings a request as far as it brings its progress. -/
theorem Stands.route {x : Exchange} {known : List Handle} {h : Handle} {p : Progress}
    (hx : Accounted x known) (hmem : h ∈ known) (hs : Stands x h p) (now : Moment) (f : Frame) :
    Stands (x.route now f) h (p.after h.sequence (f.arrival? h.sequence).toList) := by
  have hmove := take_move hx.ready (.route now f)
  cases p with
  | resolved r =>
    rw [Progress.after_resolved]
    exact hs.resolved hmove.log_prefix (hx.move hmove)
  | waiting parts =>
    obtain ⟨entry, hentry, hrespond, rfl⟩ := hs
    cases harrival : f.arrival? h.sequence with
    | none =>
      refine ⟨entry, ?_, hrespond, rfl⟩
      exact (x.board.get?_route_of_arrival?_eq_none now x.pushSpan harrival).trans hentry
    | some a =>
      have hroute := Board.route_of_arrival?_eq_some now x.pushSpan hentry harrival
      change Stands _ h (Progress.take h.sequence (.waiting entry.parts) a)
      revert hroute
      cases Progress.take h.sequence (.waiting entry.parts) a with
      | waiting parts =>
        intro hroute
        exact ⟨{ entry with parts }, hroute, hrespond, rfl⟩
      | resolved r =>
        intro hroute
        have hempty : replies x.log h.slot = [] :=
          (hx.unresolved_iff hmem).2 ⟨entry, hentry, hrespond⟩
        change replies (x.log ++ (x.board.route now x.pushSpan f).2) h.slot = [r]
        rw [replies_append, hempty, hroute, hrespond]
        simp [replies]

/-- Every step brings a request as far as it brings its progress. -/
theorem Stands.take {x : Exchange} {known : List Handle} {h : Handle} {p : Progress}
    (hx : Accounted x known) (hmem : h ∈ known) (hs : Stands x h p) (step : Step)
    (hspared : step.isEnding = true → replies (x.take step).1.log h.slot = replies x.log h.slot) :
    Stands (x.take step).1 h (p.after h.sequence (step.arrival? h.sequence).toList) := by
  by_cases hroute : step.isRoute = true
  · cases step with
    | route now f => exact hs.route hx hmem now f
    | _ => cases hroute
  · have hno : step.isRoute = false := by simpa using hroute
    have hnone : step.arrival? h.sequence = none := by
      cases step with
      | route now f => cases hno
      | _ => rfl
    have heffect := take_effect hx.ready hno
    rw [hnone]
    cases p with
    | resolved r => exact hs.resolved heffect.move.log_prefix (hx.move heffect.move)
    | waiting parts =>
      refine hs.waiting hx hmem heffect ?_
      by_cases hending : step.isEnding = true
      · exact hspared hending
      · rw [log_take hx.ready hno (by simpa using hending)]

/-- Every run brings a request as far as the frames for it do. -/
theorem Stands.run {x : Exchange} {known : List Handle} {h : Handle} {p : Progress}
    (hx : Accounted x known) (hmem : h ∈ known) (hs : Stands x h p) (later : List Step)
    (hspared : Spares h.slot x later) :
    Stands (x.run later) h (p.after h.sequence (arrivals h.sequence later)) := by
  induction later generalizing x known p with
  | nil => exact hs
  | cons step later ih =>
    have hstep := hs.take hx hmem step hspared.1
    have hlater := ih (hx.move (take_move hx.ready step)) (List.mem_append_left _ hmem) hstep
      hspared.2
    rw [Progress.after, Progress.after, ← List.foldl_append] at hlater
    have harrivals : arrivals h.sequence (step :: later) =
        (step.arrival? h.sequence).toList ++ arrivals h.sequence later := by
      rw [arrivals, arrivals, List.filterMap_cons]
      cases step.arrival? h.sequence with
      | none => rfl
      | some a => rfl
    rw [harrivals]
    exact hlater

/-- A request that is accepted waits, without any part. -/
theorem stands_of_accepted {x : Exchange} (hx : x.Ready) {step : Step} {h : Handle}
    (hcall : (x.take step).2 = some (.ok h)) : Stands (x.take step).1 h (.waiting []) := by
  have hroute : step.isRoute = false := by
    cases step with
    | route now f => cases hcall
    | _ => rfl
  have heffect := take_effect hx hroute
  rw [hcall] at heffect
  cases heffect with
  | @accepts entry pending respond parts log counter slots =>
    refine ⟨entry, ?_, respond, parts⟩
    rw [pending, ← Table.insert_of_get?_eq_none entry hx.unused]
    exact Table.get?_insert_self _ _ _

/-- **The frames of a request determine its reply.** A call gave out a handle, and in what came
later no look at the clock, no write and no end of the link answered it. As long as all frames for
its id decode and none is the last, the request waits with their parts. The first that is the last
resolves it with the message of all parts in order of arrival, and the first that does not decode
with that failure. Whatever else comes between makes no difference, and no frame ever closes an
exchange. -/
theorem replies_follow_arrivals (policy : ShutdownPolicy) (span : Timespan) (before : List Step)
    (call : Step) (h : Handle) (later : List Step)
    (hcall : (((empty policy span).run before).take call).2 = some (.ok h))
    (hspared : Spares h.slot ((empty policy span).run (before ++ [call])) later) :
    let x := (empty policy span).run (before ++ [call])
    (∀ ps : List Packet, arrivals h.sequence later = ps.map .ok →
        (∀ p ∈ ps, p.isFinal = false) →
        replies (x.run later).log h.slot = [] ∧
          ∃ entry, (x.run later).board.pending.get? h.sequence = some entry ∧
            entry.respond = h.slot ∧ entry.parts = ps.flatMap Packet.parts) ∧
      (∀ (ps : List Packet) (last : Packet) (rest : List (Except Packet.DecodeError Packet)),
        arrivals h.sequence later = ps.map .ok ++ .ok last :: rest →
        (∀ p ∈ ps, p.isFinal = false) → last.isFinal = true →
        replies (x.run later).log h.slot =
          [(Message.ofParts h.sequence ((ps ++ [last]).flatMap Packet.parts)).mapError
            .ofMessage]) ∧
      (∀ (ps : List Packet) (e : Packet.DecodeError)
          (rest : List (Except Packet.DecodeError Packet)),
        arrivals h.sequence later = ps.map .ok ++ .error e :: rest →
        (∀ p ∈ ps, p.isFinal = false) →
        replies (x.run later).log h.slot = [.error (.ofPacket e)]) ∧
      (∀ other, Spares h.slot x other →
        arrivals h.sequence other = arrivals h.sequence later →
        replies (x.run other).log h.slot = replies (x.run later).log h.slot) ∧
      ∀ (y : Exchange) now f, (y.route now f).board.closeReason = y.board.closeReason := by
  intro x
  have hbefore := accounted_run policy span before
  have hstep : x = (((empty policy span).run before).take call).1 := by
    simp only [x, run_append, run_cons, run_nil]
  have hx : Accounted x ((empty policy span).issued before ++ [h]) := by
    have hmove := take_move hbefore.ready call
    rw [hcall, ← hstep] at hmove
    exact hbefore.move hmove
  have hmem : h ∈ (empty policy span).issued before ++ [h] :=
    List.mem_append_right _ (List.mem_singleton_self h)
  have hstart : Stands x h (.waiting []) := hstep ▸ stands_of_accepted hbefore.ready hcall
  have hstands : ∀ {run : List Step}, Spares h.slot x run →
      Stands (x.run run) h (Progress.after h.sequence (.waiting []) (arrivals h.sequence run)) :=
    fun hrun => hstart.run hx hmem _ hrun
  have hempty : ∀ {run : List Step} {parts : List Bytes},
      Stands (x.run run) h (.waiting parts) → replies (x.run run).log h.slot = [] := by
    rintro run parts ⟨entry, hentry, hrespond, -⟩
    exact ((hx.run run).unresolved_iff (List.mem_append_left _ hmem)).2 ⟨entry, hentry, hrespond⟩
  refine ⟨?_, ?_, ?_, ?_, ?_⟩
  · intro ps harrivals hps
    have hs := hstands hspared
    rw [harrivals, Progress.after_pending _ hps] at hs
    exact ⟨hempty hs, hs⟩
  · intro ps last rest harrivals hps hlast
    have hs := hstands hspared
    rw [harrivals, Progress.after_last _ hps hlast] at hs
    exact hs
  · intro ps e rest harrivals hps
    have hs := hstands hspared
    rw [harrivals, Progress.after_broken _ e hps] at hs
    exact hs
  · intro other hother harrivals
    have hs := hstands hspared
    have hs' := hstands hother
    rw [harrivals] at hs'
    revert hs hs'
    cases Progress.after h.sequence (.waiting []) (arrivals h.sequence later) with
    | waiting parts =>
      intro hs hs'
      rw [hempty hs, hempty hs']
    | resolved r =>
      intro hs hs'
      exact hs'.trans hs.symm
  · intro y now f
    exact y.board.closeReason_route now y.pushSpan f

/-- The first request is answered by a response in two frames, with a push of the same id between
them. -/
theorem replies_response_in_two_frames :
    replies (((empty .drain (.ofSeconds 1)).run
        ([] ++ [.request ⟨0⟩ (.plain .get "a") (.ofSeconds 1)])).run
      [.route ⟨0⟩ ⟨Command.mercuryRequest, [0, 1, 0, 0, 0, 1, 0, 0]⟩,
        .route ⟨0⟩ ⟨Command.mercuryEvent, [0, 1, 0, 1, 0, 0]⟩,
        .route ⟨0⟩ ⟨Command.mercuryRequest, [0, 1, 0, 1, 0, 1, 0, 1, 7]⟩]).log 0 =
      [(Message.ofParts [0] [[], [7]]).mapError .ofMessage] := by
  have hspared : Spares 0
      ((empty .drain (.ofSeconds 1)).run ([] ++ [.request ⟨0⟩ (.plain .get "a") (.ofSeconds 1)]))
      [.route ⟨0⟩ ⟨Command.mercuryRequest, [0, 1, 0, 0, 0, 1, 0, 0]⟩,
        .route ⟨0⟩ ⟨Command.mercuryEvent, [0, 1, 0, 1, 0, 0]⟩,
        .route ⟨0⟩ ⟨Command.mercuryRequest, [0, 1, 0, 1, 0, 1, 0, 1, 7]⟩] :=
    ⟨nofun, nofun, nofun, trivial⟩
  have hfirst : ∀ p ∈ [(⟨[0], 0, [[]]⟩ : Packet)], p.isFinal = false := by decide
  have h := replies_follow_arrivals .drain (.ofSeconds 1) [] _ ⟨[0], 0⟩ _ (by decide +kernel) hspared
  exact h.2.1 [⟨[0], 0, [[]]⟩] ⟨[0], 1, [[7]]⟩ [] rfl hfirst rfl

end Exchange

end MercuryLink
