import MercuryLink.Proofs.Sealing.Acceptance

/-!
# What an opener refuses, and what comes after

An opener that must find exactly one frame says what is wrong with bytes that come close to one.
Bytes that end too early are cut off inside header or body and leave it waiting, bytes that go on
too long leave a rest, another tag does not match, and a header that announces too much is refused
before anything else is looked at. Which failure it was does not matter for what follows: every
failure poisons the opener, and a poisoned opener fails at once and leaves everything as it is.
-/

namespace MercuryLink.Opener

open Sealer

/-! ### Failures by name -/

/-- Bytes that leave an opener waiting are cut off. -/
theorem openWhole_of_waiting {o : Opener} {wire : Bytes} (h : (o.next wire).outcome = .ok none) :
    (o.openWhole wire).2 =
      .error (.malformed ("truncated frame (" ++ Nat.repr wire.length ++ " bytes)")) := by
  simp only [openWhole, h]

/-- Bytes behind a frame are one thing too many. -/
theorem openWhole_of_rest {o : Opener} {wire : Bytes} {f : Frame}
    (h : (o.next wire).outcome = .ok (some f)) (hrest : (o.next wire).rest ≠ []) :
    (o.openWhole wire).2 =
      .error (.malformed (Nat.repr (o.next wire).rest.length ++ " trailing bytes after frame")) := by
  have hleft : ¬ (o.next wire).rest.isEmpty = true := by simpa using hrest
  simp only [openWhole, h, if_neg hleft]

/-- Whatever an attempt fails with is what bytes fail with that must be a whole frame. -/
theorem openWhole_of_error {o : Opener} {wire : Bytes} {e : FrameError}
    (h : (o.next wire).outcome = .error e) : (o.openWhole wire).2 = .error e := by
  simp only [openWhole, h]

/-- A body under another tag does not open. -/
theorem openBody_of_wrong_tag (o : Opener) (command : Command) (nonce : UInt32)
    (cipher : Shannon.State) (payload : Bytes) {tag : Bytes} (hlength : tag.length = Frame.tagSize)
    (hwrong : tag ≠ (cipher.encrypt payload).1.tag) :
    o.openBody command payload.length nonce cipher ((cipher.encrypt payload).2 ++ tag) =
      fail { o with phase := .header } [] (.authentication nonce) := by
  have hhidden : (cipher.encrypt payload).2.length = payload.length :=
    Shannon.State.length_encrypt cipher payload
  have hcut : Bytes.split? (payload.length + Frame.tagSize) ((cipher.encrypt payload).2 ++ tag) =
      some ((cipher.encrypt payload).2 ++ tag, []) := by
    refine Bytes.split?_eq_some_iff.2 ⟨(List.append_nil _).symm, ?_⟩
    rw [List.length_append, hhidden, hlength]
  have htake : ((cipher.encrypt payload).2 ++ tag).take payload.length =
      (cipher.encrypt payload).2 := List.take_left' hhidden
  have hdrop : ((cipher.encrypt payload).2 ++ tag).drop payload.length = tag :=
    List.drop_left' hhidden
  simp only [openBody, hcut, htake, hdrop, Shannon.State.decrypt_encrypt, if_neg (Ne.symm hwrong)]

section Fresh

variable {o : Opener} {nonce : UInt32} {f : Frame}

/-- A part of a wire form within the limit leaves an opener waiting. -/
theorem openHeader_of_part (hnonce : Nonce.ofCount? o.count = some nonce)
    (hfit : f.payload.length ≤ Frame.maxPayload) (hlimit : f.payload.length ≤ o.limit)
    {part rest : Bytes} (hcut : wire o.key nonce (f.header ++ f.payload) = part ++ rest)
    (hrest : rest ≠ []) : (o.openHeader part).outcome = .ok none := by
  by_cases hshort : part.length < Frame.headerSize
  · rw [openHeader_of_short o hshort]
  · rw [wire_eq] at hcut
    -- The cut lies behind the header, so the part begins with all of it.
    have hheader : wireHeader o.key nonce f <+: part := by
      refine List.prefix_of_prefix_length_le (List.prefix_append _ _)
        (hcut ▸ List.prefix_append part rest) ?_
      rw [length_wireHeader]
      exact Nat.le_of_not_lt hshort
    obtain ⟨front, rfl⟩ := hheader
    rw [List.append_assoc] at hcut
    have hbody : wireBody (headed o.key nonce f) f.payload = front ++ rest :=
      List.append_cancel_left hcut
    have hlength := congrArg List.length hbody
    rw [length_wireBody, List.length_append] at hlength
    have hpositive : 0 < rest.length := List.length_pos_of_ne_nil hrest
    rw [openHeader_wireHeader front hnonce hfit, if_neg (Nat.not_lt.2 hlimit),
      openBody_of_short _ _ _ _ (by omega)]

/-- A wire form within the limit but with other bytes in place of its tag does not open. -/
theorem openHeader_of_wrong_tag (hnonce : Nonce.ofCount? o.count = some nonce)
    (hfit : f.payload.length ≤ Frame.maxPayload) (hlimit : f.payload.length ≤ o.limit)
    {bytes : Bytes} (hlength : bytes.length = (wire o.key nonce (f.header ++ f.payload)).length)
    (hsame : bytes.take (bytes.length - Frame.tagSize) =
      (wire o.key nonce (f.header ++ f.payload)).take (bytes.length - Frame.tagSize))
    (hother : bytes ≠ wire o.key nonce (f.header ++ f.payload)) :
    (o.openHeader bytes).outcome = .error (.authentication nonce) := by
  let cipher := headed o.key nonce f
  let front := wireHeader o.key nonce f ++ (cipher.encrypt f.payload).2
  have hwire : wire o.key nonce (f.header ++ f.payload) =
      front ++ (cipher.encrypt f.payload).1.tag := by
    rw [wire_eq, wireBody, ← List.append_assoc]
  have hfront : front.length = bytes.length - Frame.tagSize := by
    have htag := Shannon.State.length_tag (cipher.encrypt f.payload).1
    have hparts : (front ++ (cipher.encrypt f.payload).1.tag).length =
        front.length + Frame.tagSize := by rw [List.length_append, htag]; rfl
    rw [hlength, hwire, hparts, Nat.add_sub_cancel]
  rw [hwire, ← hfront, List.take_left] at hsame
  have hbytes : bytes = front ++ bytes.drop front.length := by
    conv_lhs => rw [← List.take_append_drop front.length bytes, hsame]
  have htag : (bytes.drop front.length).length = Frame.tagSize := by
    rw [List.length_drop, hlength, hwire, List.length_append, Shannon.State.length_tag,
      Nat.add_sub_cancel_left]
    rfl
  have hwrong : bytes.drop front.length ≠ (cipher.encrypt f.payload).1.tag := by
    intro heq
    rw [hwire, ← heq] at hother
    exact hother hbytes
  rw [hbytes, List.append_assoc, openHeader_wireHeader _ hnonce hfit,
    if_neg (Nat.not_lt.2 hlimit), openBody_of_wrong_tag _ _ _ _ _ htag hwrong]
  rfl

/-- A header that announces more than the limit is refused, whatever follows it. -/
theorem openHeader_of_large (hnonce : Nonce.ofCount? o.count = some nonce)
    (hfit : f.payload.length ≤ Frame.maxPayload) (hlarge : o.limit < f.payload.length)
    {bytes : Bytes}
    (hsame : bytes.take Frame.headerSize =
      (wire o.key nonce (f.header ++ f.payload)).take Frame.headerSize) :
    (o.openHeader bytes).outcome = .error (.payloadTooLarge f.payload.length o.limit) := by
  rw [wire_eq, List.take_left' (length_wireHeader o.key nonce f)] at hsame
  rw [← List.take_append_drop Frame.headerSize bytes, hsame, openHeader_wireHeader _ hnonce hfit,
    if_pos hlarge]
  rfl

end Fresh

/-! ### After a failure -/

/-- A call of an opener: for the next frame of a source, or for bytes that must be one frame. -/
inductive Call where
  | next (source : Bytes)
  | whole (wire : Bytes)

/-- The bytes that a call is given. -/
def Call.source : Call → Bytes
  | .next source => source
  | .whole wire => wire

/-- What a call gives: the opener after it, what is left of its bytes, and the failure if it
fails. -/
structure Result where
  opener : Opener
  left : Bytes
  failure : Option FrameError

/-- The failure in an outcome. -/
def failure? {α : Type} : Except FrameError α → Option FrameError
  | .ok _ => none
  | .error e => some e

/-- Call an opener. Bytes that must be one frame are looked at but not used up. -/
def call (o : Opener) : Call → Result
  | .next source => ⟨(o.next source).opener, (o.next source).rest, failure? (o.next source).outcome⟩
  | .whole wire => ⟨(o.openWhole wire).1, wire, failure? (o.openWhole wire).2⟩

/-- Call an opener several times, each time where the last call left it. -/
def results (o : Opener) : List Call → List Result
  | [] => []
  | c :: later => o.call c :: results (o.call c).opener later

theorem failure?_eq_some_iff {α : Type} {outcome : Except FrameError α} {e : FrameError} :
    failure? outcome = some e ↔ outcome = .error e := by
  cases outcome with
  | ok a => simp [failure?]
  | error e' => simp [failure?]

/-- A call that fails poisons the opener. -/
theorem poisoned_call {o : Opener} {c : Call} {e : FrameError}
    (h : (o.call c).failure = some e) : (o.call c).opener.poisoned = true := by
  cases c with
  | next source => exact poisoned_next (failure?_eq_some_iff.1 h)
  | whole wire => exact poisoned_openWhole (failure?_eq_some_iff.1 h)

/-- A poisoned opener fails at once and stays as it is. -/
theorem call_of_poisoned {o : Opener} (h : o.poisoned = true) (c : Call) :
    o.call c = ⟨o, c.source, some .poisoned⟩ := by
  have hnext : ∀ source, o.next source = ⟨o, source, .error .poisoned⟩ := by
    intro source
    rw [Opener.next, if_pos h]
  cases c with
  | next source => simp only [call, hnext, failure?, Call.source]
  | whole wire => simp only [call, openWhole, hnext, failure?, Call.source]

/-- So it is however often it is called. -/
theorem results_of_poisoned {o : Opener} (h : o.poisoned = true) (calls : List Call) :
    o.results calls = calls.map fun c => ⟨o, c.source, some .poisoned⟩ := by
  induction calls with
  | nil => rfl
  | cons c later ih => rw [results, call_of_poisoned h, ih, List.map_cons]

/-- **Failures are named and final.** An opener before a header, with `n` frames behind it and the
limit `m`, is given bytes close to the wire form of the frame `f` under its key and nonce. If the
frame is within the limit, every part of the wire form that is not all of it is cut off, every
extension has trailing bytes, and other bytes in place of the last four fail authentication under
the nonce. If it is not, whatever begins with the three bytes of its header is refused for the
length announced there. And whichever call of whatever opener fails, for whatever reason, every
later call fails as poisoned, leaves its bytes as they are, and leaves the opener as it is. -/
theorem failures_named_and_final (key : Shannon.Key) (n m : Nat) (f : Frame) (w : Bytes)
    (hw : (⟨key, n⟩ : Sealer).sealFrame f = .ok (⟨key, n + 1⟩, w)) :
    let o : Opener := ⟨key, n, .header, m, false⟩
    (f.payload.length ≤ m →
      (∀ part rest, w = part ++ rest → rest ≠ [] → (o.openWhole part).2 =
        .error (.malformed ("truncated frame (" ++ Nat.repr part.length ++ " bytes)"))) ∧
      (∀ extra, extra ≠ [] → (o.openWhole (w ++ extra)).2 =
        .error (.malformed (Nat.repr extra.length ++ " trailing bytes after frame"))) ∧
      ∀ bytes, bytes.length = w.length → bytes.take (w.length - 4) = w.take (w.length - 4) →
        bytes ≠ w → (o.openWhole bytes).2 = .error (.authentication (UInt32.ofNat n))) ∧
    (m < f.payload.length → ∀ bytes, bytes.take 3 = w.take 3 →
      (o.openWhole bytes).2 = .error (.payloadTooLarge f.payload.length m)) ∧
    ∀ (any : Opener) (c : Call) (e : FrameError), (any.call c).failure = some e →
      ∀ later, (any.call c).opener.results later =
        later.map fun c' => ⟨(any.call c).opener, c'.source, some .poisoned⟩ := by
  intro o
  obtain ⟨hfit, hroom, -, hwire⟩ := sealFrame_eq_ok_iff.1 hw
  have hwire : w = wire key (UInt32.ofNat n) (f.header ++ f.payload) := hwire
  have hnonce : Nonce.ofCount? o.count = some (UInt32.ofNat n) :=
    ofCount?_eq_some_iff.2 ⟨hroom, rfl⟩
  have hnext : ∀ source, o.next source = o.openHeader source := fun _ => rfl
  subst hwire
  refine ⟨?_, ?_, ?_⟩
  · intro hlimit
    have hlimit : f.payload.length ≤ o.limit := hlimit
    refine ⟨?_, ?_, ?_⟩
    · intro part rest hcut hrest
      exact openWhole_of_waiting (hnext part ▸ openHeader_of_part hnonce hfit hlimit hcut hrest)
    · intro extra hextra
      have hopen := openHeader_wire extra hnonce hfit hlimit
      rw [← hnext] at hopen
      have hrest := congrArg Attempt.rest hopen
      have hrefused := openWhole_of_rest (congrArg Attempt.outcome hopen) (by rwa [hrest])
      rwa [hrest] at hrefused
    · intro bytes hlength hsame hother
      rw [← hlength] at hsame
      exact openWhole_of_error
        (hnext bytes ▸ openHeader_of_wrong_tag hnonce hfit hlimit hlength hsame hother)
  · intro hlarge bytes hsame
    exact openWhole_of_error (hnext bytes ▸ openHeader_of_large hnonce hfit hlarge hsame)
  · intro any c e hfailure later
    exact results_of_poisoned (poisoned_call hfailure) later

/-- The wire form of a frame of two bytes: cut by one it is truncated, and after that nothing opens
any more, not even the wire form itself. -/
theorem failures_named_and_final_cut :
    ∃ w, (⟨.ofBytes [1], 7⟩ : Sealer).sealFrame ⟨0x49, [5, 6]⟩ = .ok (⟨.ofBytes [1], 8⟩, w) ∧
      w.length = 9 ∧
      let o : Opener := ⟨.ofBytes [1], 7, .header, 2, false⟩
      (o.openWhole w.dropLast).2 = .error (.malformed "truncated frame (8 bytes)") ∧
      (o.call (.whole w.dropLast)).opener.results [.whole w] =
        [⟨(o.call (.whole w.dropLast)).opener, w, some .poisoned⟩] := by
  obtain ⟨w, hw, hlength⟩ : ∃ w, (⟨.ofBytes [1], 7⟩ : Sealer).sealFrame ⟨0x49, [5, 6]⟩ =
      .ok (⟨.ofBytes [1], 8⟩, w) ∧ w.length = 9 := ⟨_, rfl, by decide +kernel⟩
  have h := failures_named_and_final (.ofBytes [1]) 7 2 ⟨0x49, [5, 6]⟩ w hw
  have hlast : w = w.dropLast ++ [w.getLast (by rintro rfl; cases hlength)] :=
    (List.dropLast_append_getLast _).symm
  have hcut := (h.1 (by decide)).1 w.dropLast _ hlast (List.cons_ne_nil _ _)
  have hshort : w.dropLast.length = 8 := by rw [List.length_dropLast, hlength]
  have hfailure := failure?_eq_some_iff.2 hcut
  refine ⟨w, hw, hlength, ?_, h.2.2 _ (.whole w.dropLast) _ hfailure [.whole w]⟩
  rw [hcut, hshort]
  rfl

end MercuryLink.Opener
