import MercuryLink.Proofs.Exchange.Closing
import MercuryLink.Proofs.Stream.Reading
import MercuryLink.Mercury.Session

/-!
# What a session takes from its stream

The receive loop of a session tries its opener whenever something arrives, and goes on after faults
that only say that nothing came in time. What it takes in this way from several arrivals is what it
would have taken from their bytes at once. The only difference is in the bytes that are left behind
a failure, which nobody looks at any more.
-/

namespace MercuryLink

namespace Session

/-- Take the frames that opened, and the failure behind them. -/
def taken (s : Session) (d : Opener.Drained) : Session :=
  let t := d.frames.foldl handle { s with opener := d.opener, buffer := d.rest }
  match d.failure with
  | none => t
  | some e => t.fail e

theorem takeBytes_eq (s : Session) (chunk : Bytes) :
    s.takeBytes chunk = s.taken (s.opener.drain (s.buffer ++ chunk)) := rfl

/-- Taking a frame has nothing to do with the opener and the buffer. -/
theorem handle_with (s : Session) (opener : Opener) (buffer : Bytes) (f : Frame) :
    { s with opener, buffer }.handle f = { s.handle f with opener, buffer } := by
  simp only [handle]
  split
  · rfl
  · split
    · rfl
    · split
      · rfl
      · rfl

/-- Neither has taking several. -/
theorem foldl_handle_with (s : Session) (opener : Opener) (buffer : Bytes) (frames : List Frame) :
    frames.foldl handle { s with opener, buffer } =
      { frames.foldl handle s with opener, buffer } := by
  induction frames generalizing s with
  | nil => rfl
  | cons f later ih => rw [List.foldl_cons, List.foldl_cons, handle_with, ih]

/-- Taking frames neither ends the receiving nor closes the board. -/
theorem handle_keeps (s : Session) (f : Frame) :
    (s.handle f).receiving = s.receiving ∧ (s.handle f).closeReason = s.closeReason := by
  simp only [handle]
  split
  · exact ⟨rfl, s.exchange.closeReason_sendFrame _⟩
  · split
    · exact ⟨rfl, rfl⟩
    · split
      · exact ⟨rfl, s.exchange.board.closeReason_route s.now s.exchange.pushSpan f⟩
      · exact ⟨rfl, rfl⟩

theorem foldl_handle_keeps (s : Session) (frames : List Frame) :
    (frames.foldl handle s).receiving = s.receiving ∧
      (frames.foldl handle s).closeReason = s.closeReason := by
  induction frames generalizing s with
  | nil => exact ⟨rfl, rfl⟩
  | cons f later ih =>
    obtain ⟨hreceiving, hreason⟩ := ih (s.handle f)
    obtain ⟨hreceiving', hreason'⟩ := s.handle_keeps f
    exact ⟨hreceiving.trans hreceiving', hreason.trans hreason'⟩

/-- Without a failure the session waits for more. -/
theorem taken_of_none {s : Session} {d : Opener.Drained} (h : d.failure = none) :
    s.taken d = { d.frames.foldl handle s with opener := d.opener, buffer := d.rest } := by
  rw [taken, h]
  exact s.foldl_handle_with d.opener d.rest d.frames

/-- Taking what opens, and then more bytes, is taking what opens going on. -/
theorem takeBytes_taken {s : Session} {d : Opener.Drained} (h : d.failure = none) (chunk : Bytes) :
    (s.taken d).takeBytes chunk = s.taken (d.goOn chunk) := by
  rw [taken_of_none h, takeBytes_eq, taken, taken, Opener.Drained.goOn, h]
  simp only [Option.none_or, List.foldl_append, foldl_handle_with]

/-- What is left over is left in the buffer, and matters for nothing else. -/
theorem taken_rest (s : Session) (d : Opener.Drained) (rest : Bytes) :
    s.taken { d with rest } = { s.taken d with buffer := rest } := by
  simp only [taken, foldl_handle_with]
  cases d.failure with
  | none => rfl
  | some e => rfl

/-- Faults that are no failures pass an open session by. -/
theorem receive_fault {s : Session} (hopen : s.exchange.isClosed = false) {f : Fault}
    (hidle : f.isTransient = true ∨ f.isIdle = true) : s.receive (.fault f) = s := by
  rw [receive, takeFault, hopen]
  rcases hidle with htransient | hidle
  · simp [htransient]
  · simp [hidle]

/-- A session has taken some bytes: all of what opens of them, and the failure behind it. -/
structure Took (s : Session) (bytes : Bytes) (t : Session) : Prop where
  taken : ∃ buffer, t = { s.takeBytes bytes with buffer }
  sound : (s.opener.drain (s.buffer ++ bytes)).failure = none → t = s.takeBytes bytes

/-- Behind a failure nothing is taken any more. -/
theorem Took.after_failure {s t : Session} {bytes : Bytes} (h : Took s bytes t) {e : FrameError}
    (hfailure : (s.opener.drain (s.buffer ++ bytes)).failure = some e) (a : Arrival) :
    Took s (bytes ++ a.content) (t.receive a) := by
  obtain ⟨buffer, ht⟩ := h.taken
  have hmore : s.opener.drain (s.buffer ++ (bytes ++ a.content)) =
      { s.opener.drain (s.buffer ++ bytes) with
        rest := (s.opener.drain (s.buffer ++ bytes)).rest ++ a.content } := by
    rw [← List.append_assoc, Opener.drain_append, Opener.goOn_of_failure hfailure]
  have hrest := s.taken_rest (s.opener.drain (s.buffer ++ bytes))
    ((s.opener.drain (s.buffer ++ bytes)).rest ++ a.content)
  have hstopped : t.receiving = false := by
    rw [ht, takeBytes_eq, Session.taken, hfailure]
    rfl
  have hsame : t.receive a = t := by
    rw [receive.eq_def, hstopped]
    rfl
  refine ⟨⟨buffer, ?_⟩, fun hsound => ?_⟩
  · rw [hsame, ht, takeBytes_eq, takeBytes_eq, hmore, hrest]
  · rw [hmore, hfailure] at hsound
    cases hsound

/-- Without a failure a session takes more, and goes on after a fault that is no failure. -/
theorem Took.without_failure {s t : Session} {bytes : Bytes} (h : Took s bytes t)
    (hfailure : (s.opener.drain (s.buffer ++ bytes)).failure = none)
    (hreceiving : s.receiving = true) (hopen : s.exchange.isClosed = false) {a : Arrival}
    (hsome : a ≠ .bytes []) (hidle : ∀ f, a = .fault f → f.isTransient = true ∨ f.isIdle = true) :
    Took s (bytes ++ a.content) (t.receive a) := by
  have ht : t = s.takeBytes bytes := h.sound hfailure
  obtain ⟨hstill, hsame⟩ := s.foldl_handle_keeps (s.opener.drain (s.buffer ++ bytes)).frames
  have htaken := taken_of_none hfailure (s := s)
  rw [← takeBytes_eq, ← ht] at htaken
  have hreceiving : t.receiving = true := by
    rw [htaken]
    exact hstill.trans hreceiving
  have hopen : t.exchange.isClosed = false := by
    rw [htaken]
    exact (congrArg Option.isSome hsame).trans hopen
  suffices hsame : t.receive a = s.takeBytes (bytes ++ a.content) by
    exact ⟨⟨(s.takeBytes (bytes ++ a.content)).buffer, hsame⟩, fun _ => hsame⟩
  match a with
  | .bytes [] => exact absurd rfl hsome
  | .bytes (b :: bs) =>
    have hreceive : t.receive (.bytes (b :: bs)) = t.takeBytes (b :: bs) := by
      rw [receive.eq_def, hreceiving]
      rfl
    rw [hreceive, ht, takeBytes_eq s, takeBytes_taken hfailure, takeBytes_eq,
      ← Opener.drain_append, List.append_assoc]
    rfl
  | .fault f =>
    rw [receive_fault hopen (hidle f rfl), ht, Arrival.content, List.append_nil]

/-- Whatever a session has taken, it takes what arrives next behind it. -/
theorem Took.receive {s t : Session} {bytes : Bytes} (h : Took s bytes t)
    (hreceiving : s.receiving = true) (hopen : s.exchange.isClosed = false) {a : Arrival}
    (hsome : a ≠ .bytes []) (hidle : ∀ f, a = .fault f → f.isTransient = true ∨ f.isIdle = true) :
    Took s (bytes ++ a.content) (t.receive a) := by
  cases hfailure : (s.opener.drain (s.buffer ++ bytes)).failure with
  | none => exact h.without_failure hfailure hreceiving hopen hsome hidle
  | some e => exact h.after_failure hfailure a

/-- Something may arrive without ending the receiving: some bytes, or a fault that is no failure. -/
def Harmless (a : Arrival) : Prop :=
  a ≠ .bytes [] ∧ ∀ f, a = .fault f → f.isTransient = true ∨ f.isIdle = true

/-- A session that has taken something takes whatever arrives later behind it. -/
theorem Took.receiveAll {s t : Session} {bytes : Bytes} (h : Took s bytes t)
    (hreceiving : s.receiving = true) (hopen : s.exchange.isClosed = false)
    {arrivals : List Arrival} (hharmless : ∀ a ∈ arrivals, Harmless a) :
    Took s (bytes ++ Arrival.contents arrivals) (arrivals.foldl Session.receive t) := by
  induction arrivals generalizing bytes t with
  | nil => rwa [Arrival.contents, List.flatMap_nil, List.append_nil]
  | cons a later ih =>
    obtain ⟨hsome, hidle⟩ := hharmless a (List.mem_cons_self ..)
    have hnext := h.receive hreceiving hopen hsome hidle
    rw [Arrival.contents_cons, ← List.append_assoc]
    exact ih hnext fun b hb => hharmless b (List.mem_cons_of_mem a hb)

/-- An open session that receives takes several arrivals as it takes their bytes at once. -/
theorem took_of_harmless {s : Session} (hreceiving : s.receiving = true)
    (hopen : s.exchange.isClosed = false) {arrivals : List Arrival}
    (hharmless : ∀ a ∈ arrivals, Harmless a) :
    (Arrival.contents arrivals = [] → arrivals.foldl receive s = s) ∧
      (Arrival.contents arrivals ≠ [] →
        Took s (Arrival.contents arrivals) (arrivals.foldl receive s)) := by
  induction arrivals with
  | nil => exact ⟨fun _ => rfl, fun hsome => absurd rfl hsome⟩
  | cons a later ih =>
    have hlater : ∀ b ∈ later, Harmless b := fun b hb => hharmless b (List.mem_cons_of_mem a hb)
    obtain ⟨hsome, hidle⟩ := hharmless a (List.mem_cons_self ..)
    match a with
    | .bytes [] => exact absurd rfl hsome
    | .bytes (b :: bs) =>
      have hreceive : s.receive (.bytes (b :: bs)) = s.takeBytes (b :: bs) := by
        rw [receive.eq_def, hreceiving]
        rfl
      have hfirst : Took s (b :: bs) (s.receive (.bytes (b :: bs))) :=
        ⟨⟨(s.takeBytes (b :: bs)).buffer, hreceive⟩, fun _ => hreceive⟩
      exact ⟨nofun, fun _ => hfirst.receiveAll hreceiving hopen hlater⟩
    | .fault f =>
      rw [List.foldl_cons, receive_fault hopen (hidle f rfl)]
      exact ih hlater

end Session

/-- **Chunks and faults do not matter.** Let some bytes arrive, cut anywhere and with any faults in
between. Opening them piece by piece gives what opening them at once gives: the same frames, the
same first failure, and an opener in the same state. Reading frames, one a call, gives the frames,
and then either the failure and for ever that the opener is unusable, or for ever that the stream is
at its end; each fault that is reached is reported once, in its turn, save for those after which a
read is simply made again. And the receive loop of an open session, which goes on after faults that
are no failures, does with it all what it would do with the bytes at once, but for bytes left over
behind a failure. -/
theorem chunks_do_not_matter (secret : Bytes) (limit : Nat) (arrivals : List Arrival)
    (hsome : .bytes [] ∉ arrivals) :
    let opener := (Opener.ofKey secret).withLimit limit
    let bytes := Arrival.contents arrivals
    let opened := opener.drain bytes
    (∀ chunks : List Bytes, chunks.flatten = bytes →
      chunks.foldl Opener.Drained.goOn ⟨opener, [], [], none⟩ = opened) ∧
    (∀ calls,
      let i := Intake.ofArrivals (Opener.ofKey secret) limit arrivals
      let given := Intake.withoutFaults (Intake.results calls i)
      let reported := (Intake.results calls i).filterMap reportedFault?
      given = (List.range given.length).map opened.report ∧
      given.length + reported.length = calls ∧
      reported ++ Arrival.faults (Intake.after calls i).arrivals = Arrival.faults arrivals) ∧
    ∀ s : Session, s.receiving = true → s.isOpen = true →
      (∀ f, .fault f ∈ arrivals → f.isTransient = true ∨ f.isIdle = true) →
      let t := arrivals.foldl Session.receive s
      (bytes = [] → t = s) ∧
      (bytes ≠ [] → (∃ buffer, t = { s.takeBytes bytes with buffer }) ∧
        ((s.opener.drain (s.buffer ++ bytes)).failure = none → t = s.takeBytes bytes)) := by
  intro opener bytes opened
  refine ⟨?_, ?_, ?_⟩
  · intro chunks hchunks
    have hfresh : opener.drain [] = ⟨opener, [], [], none⟩ := Opener.drain_of_none rfl
    rw [← hfresh, Opener.foldl_goOn, List.nil_append, hchunks]
  · intro calls i given reported
    obtain ⟨hahead, hfaults, hcut⟩ := Intake.ofArrivals_spec (.ofKey secret) limit hsome
    obtain ⟨hgiven, hreported⟩ := Intake.results_spec calls hcut
    rw [hahead] at hgiven
    exact ⟨hgiven, Intake.length_results calls i, hreported.trans hfaults⟩
  · intro s hreceiving hopen hidle t
    have hclosed : s.exchange.isClosed = false := by simpa [Session.isOpen] using hopen
    have hharmless : ∀ a ∈ arrivals, Session.Harmless a := by
      intro a hmem
      refine ⟨?_, ?_⟩
      · rintro rfl
        exact hsome hmem
      · rintro f rfl
        exact hidle f hmem
    obtain ⟨hnone, htook⟩ := Session.took_of_harmless hreceiving hclosed hharmless
    exact ⟨hnone, fun hbytes => ⟨(htook hbytes).taken, (htook hbytes).sound⟩⟩

/-- Three bytes with an idle moment between them are three bytes. -/
theorem chunks_do_not_matter_idle :
    let arrivals : List Arrival := [.bytes [1], .fault (.ofKind .wouldBlock), .bytes [2, 3]]
    .bytes [] ∉ arrivals ∧
    let opener := (Opener.ofKey [7]).withLimit 16
    [[1], [2], [3]].foldl Opener.Drained.goOn ⟨opener, [], [], none⟩ = opener.drain [1, 2, 3] ∧
    let i := Intake.ofArrivals (Opener.ofKey [7]) 16 arrivals
    (Intake.results 4 i).filterMap reportedFault? ++ Arrival.faults (Intake.after 4 i).arrivals =
      [.ofKind .wouldBlock] := by
  intro arrivals
  have hsome : .bytes [] ∉ arrivals := by decide
  obtain ⟨hchunks, hcalls, -⟩ := chunks_do_not_matter [7] 16 arrivals hsome
  exact ⟨hsome, hchunks [[1], [2], [3]] rfl, (hcalls 4).2.2⟩

end MercuryLink
