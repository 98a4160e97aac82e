import MercuryLink.Proofs.Sealing.Acceptance

/-!
# Opening bytes that arrive in chunks

An opener deciphers a header as soon as it is there, so what it is tried on may end anywhere. An
attempt on the first bytes of a source, taken up again when the others are there, gives what an
attempt on the whole source gives, for valid bytes as for any others. So it does not matter for the
opening of a whole stream how the stream was cut.
-/

namespace MercuryLink

namespace Opener

/-- Take an attempt up again when more bytes are there: one that was waiting is made once more. -/
def Attempt.resume (a : Attempt) (more : Bytes) : Attempt :=
  match a.outcome with
  | .ok none => a.opener.next (a.rest ++ more)
  | _ => { a with rest := a.rest ++ more }

/-- The position before a body does not matter for opening it. -/
theorem openBody_phase (o : Opener) (phase : Phase) (command : Command) (length : Nat)
    (nonce : UInt32) (cipher : Shannon.State) (source : Bytes) :
    { o with phase }.openBody command length nonce cipher source =
      o.openBody command length nonce cipher source := rfl

/-- A body may be cut anywhere. -/
theorem openBody_append {o : Opener} (hsound : o.poisoned = false) (command : Command)
    (length : Nat) (nonce : UInt32) (cipher : Shannon.State) (first more : Bytes) :
    o.openBody command length nonce cipher (first ++ more) =
      (o.openBody command length nonce cipher first).resume more := by
  cases hcut : Bytes.split? (length + Frame.tagSize) first with
  | none =>
    have hwaits : o.openBody command length nonce cipher first =
        ⟨{ o with phase := .body command length nonce cipher }, first, .ok none⟩ := by
      rw [openBody, hcut]
    rw [hwaits, Attempt.resume, next, if_neg (by simp [hsound])]
    exact (o.openBody_phase _ command length nonce cipher (first ++ more)).symm
  | some parts =>
    obtain ⟨body, rest⟩ := parts
    obtain ⟨rfl, hlength⟩ := Bytes.split?_eq_some_iff.1 hcut
    have hwhole : Bytes.split? (length + Frame.tagSize) (body ++ rest ++ more) =
        some (body, rest ++ more) :=
      Bytes.split?_eq_some_iff.2 ⟨List.append_assoc .., hlength⟩
    simp only [openBody, hcut, hwhole]
    split
    · rfl
    · rfl

/-- A source that begins with a header may be cut anywhere. -/
theorem openHeader_append {o : Opener} (hsound : o.poisoned = false) (hphase : o.phase = .header)
    (first more : Bytes) : o.openHeader (first ++ more) = (o.openHeader first).resume more := by
  match first with
  | [] | [_] | [_, _] =>
    simp only [openHeader, Attempt.resume, next, hsound, hphase, Bool.false_eq_true, if_false]
  | a :: b :: c :: rest =>
    simp only [List.cons_append, openHeader]
    cases Nonce.ofCount? o.count with
    | none => rfl
    | some nonce =>
      dsimp only
      split
      · rfl
      · have hsound : { o with count := o.count + 1 }.poisoned = false := hsound
        exact openBody_append hsound ..

/-- A source may be cut anywhere. -/
theorem next_append (o : Opener) (first more : Bytes) :
    o.next (first ++ more) = (o.next first).resume more := by
  cases hsound : o.poisoned with
  | true => simp only [next, hsound, if_true, Attempt.resume]
  | false =>
    cases hphase : o.phase with
    | header =>
      simp only [next, hsound, hphase, Bool.false_eq_true, if_false]
      exact openHeader_append hsound hphase first more
    | body command length nonce cipher =>
      simp only [next, hsound, hphase, Bool.false_eq_true, if_false]
      exact openBody_append hsound command length nonce cipher first more

/-- An opener that is unusable opens nothing. -/
theorem drain_of_poisoned {o : Opener} (h : o.poisoned = true) (source : Bytes) :
    o.drain source = ⟨o, source, [], some .poisoned⟩ :=
  drain_of_error (by rw [next, if_pos h])

/-- The opening of a source is determined by the first attempt. -/
theorem drain_congr {o o' : Opener} {source source' : Bytes} (h : o.next source = o'.next source') :
    o.drain source = o'.drain source' := by
  cases hattempt : o'.next source' with
  | mk opener rest outcome =>
    rw [hattempt] at h
    match outcome with
    | .error e => rw [drain_of_error h, drain_of_error hattempt]
    | .ok none => rw [drain_of_none h, drain_of_none hattempt]
    | .ok (some f) => rw [drain_of_some h, drain_of_some hattempt]

/-- A failure leaves the opener unusable. -/
theorem poisoned_drain {o : Opener} {source : Bytes} {e : FrameError}
    (h : (o.drain source).failure = some e) : (o.drain source).opener.poisoned = true := by
  induction hlength : source.length using Nat.strongRecOn generalizing o source with
  | ind n ih =>
    subst hlength
    cases hattempt : o.next source with
    | mk opener rest outcome =>
      match outcome with
      | .error e' =>
        have hpoisoned := @poisoned_next o source e'
        rw [hattempt] at hpoisoned
        rw [drain_of_error hattempt]
        exact hpoisoned rfl
      | .ok none =>
        rw [drain_of_none hattempt] at h
        cases h
      | .ok (some f) =>
        have hshorter : rest.length < source.length := by
          have hshorter := @rest_length_next o source f
          rw [hattempt] at hshorter
          exact hshorter rfl
        rw [drain_of_some hattempt] at h ⊢
        exact ih rest.length hshorter h rfl

/-- Go on opening when more bytes are there. The first failure is the one that counts. -/
def Drained.goOn (d : Drained) (more : Bytes) : Drained :=
  let later := d.opener.drain (d.rest ++ more)
  ⟨later.opener, later.rest, d.frames ++ later.frames, d.failure.or later.failure⟩

/-- Opening the first bytes of a source and then going on is opening the source. -/
theorem drain_append (o : Opener) (first more : Bytes) :
    o.drain (first ++ more) = (o.drain first).goOn more := by
  induction hlength : first.length using Nat.strongRecOn generalizing o first with
  | ind n ih =>
    subst hlength
    have happend := o.next_append first more
    cases hattempt : o.next first with
    | mk opener rest outcome =>
      rw [hattempt] at happend
      match outcome with
      | .error e =>
        have hpoisoned : opener.poisoned = true := by
          have h := @poisoned_next o first e
          rw [hattempt] at h
          exact h rfl
        rw [drain_of_error happend, drain_of_error hattempt, Drained.goOn,
          drain_of_poisoned hpoisoned]
        rfl
      | .ok none =>
        rw [drain_of_none hattempt, Drained.goOn]
        exact drain_congr happend
      | .ok (some f) =>
        have hshorter : rest.length < first.length := by
          have h := @rest_length_next o first f
          rw [hattempt] at h
          exact h rfl
        rw [drain_of_some happend, drain_of_some hattempt, ih rest.length hshorter opener rest rfl]
        rfl

/-- Behind a failure bytes only pile up. -/
theorem goOn_of_failure {o : Opener} {source : Bytes} {e : FrameError}
    (h : (o.drain source).failure = some e) (more : Bytes) :
    (o.drain source).goOn more = { o.drain source with rest := (o.drain source).rest ++ more } := by
  rw [Drained.goOn, drain_of_poisoned (poisoned_drain h)]
  simp only [h, Option.some_or, List.append_nil]

/-- So it is with chunks. -/
theorem foldl_goOn (o : Opener) (first : Bytes) (chunks : List Bytes) :
    chunks.foldl Drained.goOn (o.drain first) = o.drain (first ++ chunks.flatten) := by
  induction chunks generalizing first with
  | nil => rw [List.flatten_nil, List.append_nil, List.foldl_nil]
  | cons chunk chunks ih =>
    rw [List.foldl_cons, ← drain_append, ih, List.flatten_cons, List.append_assoc]

end Opener

end MercuryLink
