import MercuryLink.Proofs.Sealing.Chunking
import MercuryLink.Stream.Intake

/-!
# Reading frames through faults

What an intake has still to give is settled by its opener, its buffer and the bytes that still
arrive, taken together. A call that reports a fault changes none of it, and any other call gives the
first thing that is left. So the calls on a stream give, besides the faults, what opening its bytes
at once gives, however they are cut and wherever faults come between.
-/

namespace MercuryLink

namespace Arrival

/-- The bytes that arrive. -/
def content : Arrival → Bytes
  | .bytes chunk => chunk
  | .fault _ => []

/-- The fault that arrives, unless the read is simply made again. -/
def fault? : Arrival → Option Fault
  | .bytes _ => none
  | .fault f => if f.isTransient then none else some f

/-- All bytes that arrive. -/
def contents (arrivals : List Arrival) : Bytes := arrivals.flatMap content

/-- All faults that arrive, but those after which a read is simply made again. -/
def faults (arrivals : List Arrival) : List Fault := arrivals.filterMap fault?

theorem contents_cons (a : Arrival) (later : List Arrival) :
    contents (a :: later) = a.content ++ contents later := rfl

theorem faults_cons_of_transient {f : Fault} (h : f.isTransient = true) (later : List Arrival) :
    faults (.fault f :: later) = faults later := by
  rw [faults, List.filterMap_cons, fault?, if_pos h]
  rfl

theorem faults_cons_of_hard {f : Fault} (h : ¬ f.isTransient = true) (later : List Arrival) :
    faults (.fault f :: later) = f :: faults later := by
  rw [faults, List.filterMap_cons, fault?, if_neg h]
  rfl

/-- The pieces of some bytes make up the bytes, and none is empty. -/
theorem pieces_spec (bytes : Bytes) : (pieces bytes).flatten = bytes ∧ [] ∉ pieces bytes := by
  fun_induction pieces bytes with
  | case1 bytes hempty =>
    rw [List.isEmpty_iff.1 hempty]
    exact ⟨rfl, List.not_mem_nil⟩
  | case2 bytes hsome ih =>
    refine ⟨?_, ?_⟩
    · rw [List.flatten_cons, ih.1, List.take_append_drop]
    · intro hmem
      rcases List.mem_cons.1 hmem with hnil | hlater
      · simp [readSize, List.take_eq_nil_iff] at hnil
        simp [hnil] at hsome
      · exact ih.2 hlater

/-- Cutting what arrives to the size of a read call leaves its bytes and its faults alone. -/
theorem cut_spec {a : Arrival} (h : a ≠ .bytes []) :
    contents a.cut = a.content ∧ faults a.cut = faults [a] ∧ .bytes [] ∉ a.cut := by
  match a with
  | .bytes [] => exact absurd rfl h
  | .fault f => exact ⟨rfl, rfl, by simp [cut]⟩
  | .bytes (b :: bs) =>
    obtain ⟨hflatten, hsome⟩ := pieces_spec (b :: bs)
    have hcut : cut (.bytes (b :: bs)) = (pieces (b :: bs)).map .bytes := rfl
    have hcontents : ∀ chunks : List Bytes, contents (chunks.map .bytes) = chunks.flatten := by
      intro chunks
      rw [contents, List.flatMap_map]
      exact List.flatMap_id'
    have hfaults : ∀ chunks : List Bytes, faults (chunks.map .bytes) = [] := by
      intro chunks
      rw [faults, List.filterMap_map]
      exact List.filterMap_eq_nil_iff.2 fun _ _ => rfl
    refine ⟨?_, ?_, ?_⟩
    · rw [hcut, hcontents, hflatten]
      rfl
    · rw [hcut, hfaults]
      rfl
    · rw [hcut]
      intro hmem
      obtain ⟨chunk, hchunk, heq⟩ := List.mem_map.1 hmem
      cases heq
      exact hsome hchunk

/-- So it is with everything that arrives. -/
theorem flatMap_cut_spec {arrivals : List Arrival} (h : .bytes [] ∉ arrivals) :
    contents (arrivals.flatMap cut) = contents arrivals ∧
      faults (arrivals.flatMap cut) = faults arrivals ∧ .bytes [] ∉ arrivals.flatMap cut := by
  induction arrivals with
  | nil => exact ⟨rfl, rfl, List.not_mem_nil⟩
  | cons a later ih =>
    obtain ⟨hfirst, hlater⟩ := not_or.1 (mt List.mem_cons.2 h)
    obtain ⟨hcontent, hfault, hsome⟩ := cut_spec (Ne.symm hfirst)
    obtain ⟨hcontents, hfaults, hsomes⟩ := ih hlater
    refine ⟨?_, ?_, ?_⟩
    · rw [List.flatMap_cons, contents, List.flatMap_append]
      exact congrArg₂ (· ++ ·) hcontent hcontents
    · rw [List.flatMap_cons, faults, List.filterMap_append]
      exact (congrArg₂ (· ++ ·) hfault hfaults).trans (List.filterMap_append (l := [a])).symm
    · rw [List.flatMap_cons, List.mem_append]
      exact not_or.2 ⟨hsome, hsomes⟩

end Arrival

namespace Opener

/-- What the calls on a stream give that opens in a certain way: the frames, and then either the
failure and for ever that the opener is unusable, or for ever that the stream is at its end. -/
def Drained.report (d : Drained) (call : Nat) : Except FrameError Frame :=
  match d.frames[call]?, d.failure with
  | some f, _ => .ok f
  | none, none => .error .connectionClosed
  | none, some e => .error (if call = d.frames.length then e else .poisoned)

/-- The first call gives the first frame, and the others go on behind it. -/
theorem Drained.report_cons (d : Drained) (f : Frame) :
    ({ d with frames := f :: d.frames }.report 0 = .ok f) ∧
      ∀ call, { d with frames := f :: d.frames }.report (call + 1) = d.report call := by
  refine ⟨rfl, fun call => ?_⟩
  simp only [report, List.getElem?_cons_succ, List.length_cons, Nat.add_right_cancel_iff]

end Opener

/-- The fault that a call reports. -/
def reportedFault? : Except FrameError Frame → Option Fault
  | .error (.io f) => some f
  | _ => none

/-- Opening a body reports no fault. -/
theorem reportedFault?_of_openBody {o : Opener} {command : Command} {length : Nat} {nonce : UInt32}
    {cipher : Shannon.State} {source : Bytes} {e : FrameError}
    (h : (o.openBody command length nonce cipher source).outcome = .error e) :
    reportedFault? (.error e) = none := by
  rw [Opener.openBody] at h
  split at h
  · cases h
  · dsimp only at h
    split at h
    · cases h
    · cases h
      rfl

/-- No attempt to open a frame reports a fault. -/
theorem reportedFault?_of_next {o : Opener} {source : Bytes} {e : FrameError}
    (h : (o.next source).outcome = .error e) : reportedFault? (.error e) = none := by
  rw [Opener.next] at h
  split at h
  · cases h
    rfl
  · split at h
    · rw [Opener.openHeader.eq_def] at h
      split at h
      · split at h
        · cases h
          rfl
        · dsimp only at h
          split at h
          · cases h
            rfl
          · exact reportedFault?_of_openBody h
      · cases h
    · exact reportedFault?_of_openBody h

namespace Intake

/-- What an intake has still to give. -/
def ahead (i : Intake) : Opener.Drained := i.opener.drain (i.buffer ++ Arrival.contents i.arrivals)

/-- A call reports the first fault that is left and changes nothing else, or it gives the first
thing that is left. -/
inductive Gives (i i' : Intake) : Except FrameError Frame → Prop where
  | fault (f : Fault) (same : i'.ahead = i.ahead)
    (faults : Arrival.faults i.arrivals = f :: Arrival.faults i'.arrivals) :
    Gives i i' (.error (.io f))
  | first {result : Except FrameError Frame} (report : i.ahead.report 0 = result)
    (sound : reportedFault? result = none)
    (later : ∀ call, i'.ahead.report call = i.ahead.report (call + 1))
    (faults : Arrival.faults i.arrivals = Arrival.faults i'.arrivals) : Gives i i' result

/-- What is read before a call does not matter if it holds no fault to report. -/
theorem Gives.congr {i₀ i i' : Intake} {result : Except FrameError Frame} (h : Gives i i' result)
    (hahead : i.ahead = i₀.ahead)
    (hfaults : Arrival.faults i.arrivals = Arrival.faults i₀.arrivals) : Gives i₀ i' result := by
  cases h with
  | fault f same faults => exact .fault f (same.trans hahead) (hfaults ▸ faults)
  | first report sound later faults =>
    exact .first (hahead ▸ report) sound (hahead ▸ later) (hfaults ▸ faults)

/-- Where bytes are wanting, reading on changes nothing about what is ahead. -/
theorem ahead_of_wanting {o : Opener} {buffer : Bytes} {opener : Opener} {rest : Bytes}
    (h : o.next buffer = ⟨opener, rest, .ok none⟩) (arrivals : List Arrival) :
    ahead ⟨opener, rest, arrivals⟩ = ahead ⟨o, buffer, arrivals⟩ := by
  have happend := o.next_append buffer (Arrival.contents arrivals)
  rw [h] at happend
  exact (Opener.drain_congr happend).symm

/-- A failure is what is left first, and then the opener is unusable. -/
theorem gives_of_error {o opener : Opener} {buffer rest : Bytes} {e : FrameError}
    (h : o.next buffer = ⟨opener, rest, .error e⟩) (arrivals : List Arrival) :
    Gives ⟨o, buffer, arrivals⟩ ⟨opener, rest, arrivals⟩ (.error e) := by
  have happend := o.next_append buffer (Arrival.contents arrivals)
  rw [h] at happend
  have hahead : ahead ⟨o, buffer, arrivals⟩ = ⟨_, _, [], some e⟩ := Opener.drain_of_error happend
  have hpoisoned : opener.poisoned = true := by
    have hpoisoned := @Opener.poisoned_next o buffer e
    rw [h] at hpoisoned
    exact hpoisoned rfl
  have hlater : ahead ⟨opener, rest, arrivals⟩ = ⟨_, _, [], some .poisoned⟩ :=
    Opener.drain_of_poisoned hpoisoned _
  refine .first ?_ ?_ ?_ rfl
  · rw [hahead]
    rfl
  · exact reportedFault?_of_next (congrArg Opener.Attempt.outcome h)
  · intro call
    rw [hahead, hlater]
    simp only [Opener.Drained.report, List.getElem?_nil, ite_self, List.length_nil,
      Nat.add_one_ne_zero, if_false]

/-- A frame that opens is what is left first. -/
theorem gives_of_some {o opener : Opener} {buffer rest : Bytes} {f : Frame}
    (h : o.next buffer = ⟨opener, rest, .ok (some f)⟩) (arrivals : List Arrival) :
    Gives ⟨o, buffer, arrivals⟩ ⟨opener, rest, arrivals⟩ (.ok f) := by
  have happend := o.next_append buffer (Arrival.contents arrivals)
  rw [h] at happend
  have hahead : ahead ⟨o, buffer, arrivals⟩ =
      { ahead ⟨opener, rest, arrivals⟩ with
        frames := f :: (ahead ⟨opener, rest, arrivals⟩).frames } := Opener.drain_of_some happend
  obtain ⟨hfirst, hlater⟩ := (ahead ⟨opener, rest, arrivals⟩).report_cons f
  exact .first (hahead ▸ hfirst) rfl (fun call => hahead ▸ (hlater call).symm) rfl

/-- Where nothing arrives any more, the end of the stream is what is left. -/
theorem gives_at_end {o opener : Opener} {buffer rest : Bytes}
    (h : o.next buffer = ⟨opener, rest, .ok none⟩) :
    Gives ⟨o, buffer, []⟩ ⟨opener, rest, []⟩ (.error .connectionClosed) := by
  have hahead : ahead ⟨o, buffer, []⟩ = ⟨opener, rest, [], none⟩ := by
    rw [ahead, Arrival.contents, List.flatMap_nil, List.append_nil]
    exact Opener.drain_of_none h
  refine .first ?_ rfl ?_ rfl
  · rw [hahead]
    rfl
  · intro call
    rw [ahead_of_wanting h, hahead]
    rfl

/-- A call gives what is left first, or the next fault. -/
theorem gives_receiveFrom (o : Opener) (buffer : Bytes) {arrivals : List Arrival}
    (hsome : .bytes [] ∉ arrivals) :
    Gives ⟨o, buffer, arrivals⟩ (receiveFrom o buffer arrivals).1 (receiveFrom o buffer arrivals).2 ∧
      .bytes [] ∉ (receiveFrom o buffer arrivals).1.arrivals := by
  have hattempt : ∀ {o : Opener} {buffer : Bytes} {outcome : Except FrameError (Option Frame)},
      (o.next buffer).outcome = outcome →
        o.next buffer = ⟨(o.next buffer).opener, (o.next buffer).rest, outcome⟩ := by
    rintro o buffer outcome rfl
    rfl
  have hlater : ∀ {a : Arrival} {later : List Arrival}, .bytes [] ∉ a :: later →
      .bytes [] ∉ later := fun h => mt (List.mem_cons_of_mem _) h
  fun_induction receiveFrom o buffer arrivals with
  | case1 arrivals o buffer attempt e hfails =>
    exact ⟨gives_of_error (hattempt hfails) arrivals, hsome⟩
  | case2 arrivals o buffer attempt f hopens =>
    exact ⟨gives_of_some (hattempt hopens) arrivals, hsome⟩
  | case3 o buffer attempt hwants => exact ⟨gives_at_end (hattempt hwants), hsome⟩
  | case4 o buffer attempt hwants f later htransient ih =>
    obtain ⟨hgives, hrest⟩ := ih (hlater hsome)
    exact ⟨hgives.congr (ahead_of_wanting (hattempt hwants) (.fault f :: later))
      (Arrival.faults_cons_of_transient htransient later).symm, hrest⟩
  | case5 o buffer attempt hwants f later hhard =>
    exact ⟨.fault f (ahead_of_wanting (hattempt hwants) (.fault f :: later))
      (Arrival.faults_cons_of_hard hhard later), hlater hsome⟩
  | case6 o buffer attempt hwants later => exact absurd (List.mem_cons_self ..) hsome
  | case7 o buffer attempt hwants b bs later ih =>
    obtain ⟨hgives, hrest⟩ := ih (hlater hsome)
    refine ⟨hgives.congr ?_ rfl, hrest⟩
    rw [← ahead_of_wanting (hattempt hwants), ahead, ahead, Arrival.contents_cons, List.append_assoc]
    rfl

/-- The intake after a number of calls. -/
def after : Nat → Intake → Intake
  | 0, i => i
  | calls + 1, i => after calls i.receive.1

/-- What a number of calls give. -/
def results : Nat → Intake → List (Except FrameError Frame)
  | 0, _ => []
  | calls + 1, i => i.receive.2 :: results calls i.receive.1

/-- Without the faults reported. -/
def withoutFaults (results : List (Except FrameError Frame)) : List (Except FrameError Frame) :=
  results.filter fun result => (reportedFault? result).isNone

/-- The calls that report no fault give what is left, one thing after the other, and the others
report the faults, one after the other. -/
theorem results_spec (calls : Nat) {i : Intake} (hsome : .bytes [] ∉ i.arrivals) :
    withoutFaults (results calls i) =
        (List.range (withoutFaults (results calls i)).length).map i.ahead.report ∧
      (results calls i).filterMap reportedFault? ++ Arrival.faults (after calls i).arrivals =
        Arrival.faults i.arrivals := by
  induction calls generalizing i with
  | zero => exact ⟨rfl, rfl⟩
  | succ calls ih =>
    obtain ⟨hgives, hsome'⟩ := gives_receiveFrom i.opener i.buffer hsome
    obtain ⟨hgiven, hfaults⟩ := ih hsome'
    change Gives i i.receive.1 i.receive.2 at hgives
    change withoutFaults (results calls i.receive.1) = _ at hgiven
    rw [results, after]
    generalize i.receive.2 = result at hgives
    cases hgives with
    | fault f same faults =>
      refine ⟨?_, ?_⟩
      · rw [withoutFaults, List.filter_cons_of_neg (by simp [reportedFault?]), ← same]
        exact hgiven
      · rw [faults]
        exact congrArg (f :: ·) hfaults
    | first report sound later faults =>
      have hcons : withoutFaults (result :: results calls i.receive.1) =
          result :: withoutFaults (results calls i.receive.1) :=
        List.filter_cons_of_pos (by rw [sound]; rfl)
      refine ⟨?_, ?_⟩
      · rw [hcons, List.length_cons, List.range_succ_eq_map, List.map_cons, List.map_map, report]
        refine congrArg (result :: ·) (hgiven.trans ?_)
        exact List.map_congr_left fun call _ => later call
      · rw [List.filterMap_cons_none sound, faults]
        exact hfaults

/-- Every call gives something that is left, or reports a fault. -/
theorem length_results (calls : Nat) (i : Intake) :
    (withoutFaults (results calls i)).length +
      ((results calls i).filterMap reportedFault?).length = calls := by
  induction calls generalizing i with
  | zero => rfl
  | succ calls ih =>
    have hlater := ih i.receive.1
    rw [results]
    cases hresult : reportedFault? i.receive.2 with
    | none =>
      rw [withoutFaults, List.filter_cons_of_pos (by rw [hresult]; rfl),
        List.filterMap_cons_none hresult, List.length_cons, Nat.add_right_comm]
      exact congrArg (· + 1) hlater
    | some f =>
      rw [withoutFaults, List.filter_cons_of_neg (by simp [hresult]),
        List.filterMap_cons_some hresult, List.length_cons, ← Nat.add_assoc]
      exact congrArg (· + 1) hlater

/-- What is cut to the size of a read call gives what it gives as it was. -/
theorem ofArrivals_spec (opener : Opener) (limit : Nat) {arrivals : List Arrival}
    (hsome : .bytes [] ∉ arrivals) :
    (ofArrivals opener limit arrivals).ahead =
        (opener.withLimit limit).drain (Arrival.contents arrivals) ∧
      Arrival.faults (ofArrivals opener limit arrivals).arrivals = Arrival.faults arrivals ∧
      .bytes [] ∉ (ofArrivals opener limit arrivals).arrivals := by
  obtain ⟨hcontents, hfaults, hcut⟩ := Arrival.flatMap_cut_spec hsome
  refine ⟨?_, hfaults, hcut⟩
  rw [ahead, ofArrivals, hcontents, List.nil_append]

end Intake

end MercuryLink
