import MercuryLink.Proofs.Sealing.Wire

/-!
# What an opener accepts

An opener that must find exactly one frame takes the wire form of a frame within its limit, sealed
under its key and its next nonce, and nothing else. Whatever it does not take leaves it unusable.
-/

namespace MercuryLink

namespace Opener

open Sealer

/-- Bytes are one frame if the first attempt opens it and leaves nothing. -/
theorem openWhole_eq_ok_iff {o : Opener} {bytes : Bytes} {f : Frame} :
    (o.openWhole bytes).2 = .ok f ↔
      (o.next bytes).outcome = .ok (some f) ∧ (o.next bytes).rest = [] := by
  cases hattempt : o.next bytes with
  | mk opener rest outcome =>
    match outcome with
    | .error e => simp [openWhole, hattempt]
    | .ok none => simp [openWhole, hattempt]
    | .ok (some g) => cases rest <;> simp [openWhole, hattempt]

/-- A body that fails leaves the opener unusable. -/
theorem poisoned_openBody {o : Opener} {command : Command} {length : Nat} {nonce : UInt32}
    {cipher : Shannon.State} {source : Bytes} {e : FrameError}
    (h : (o.openBody command length nonce cipher source).outcome = .error e) :
    (o.openBody command length nonce cipher source).opener.poisoned = true := by
  unfold openBody at h ⊢
  cases hcut : Bytes.split? (length + Frame.tagSize) source with
  | none => simp [hcut] at h
  | some parts =>
    simp only [hcut] at h ⊢
    split at h
    · simp at h
    · next htag =>
      rw [if_neg htag]
      rfl

/-- A header that fails, or whose body fails, leaves the opener unusable. -/
theorem poisoned_openHeader {o : Opener} {source : Bytes} {e : FrameError}
    (h : (o.openHeader source).outcome = .error e) :
    (o.openHeader source).opener.poisoned = true := by
  match source with
  | [] | [_] | [_, _] => simp [openHeader] at h
  | a :: b :: c :: rest =>
    simp only [openHeader] at h ⊢
    cases hnonce : Nonce.ofCount? o.count with
    | none => rfl
    | some nonce =>
      simp only [hnonce] at h ⊢
      split
      · rfl
      · next hlimit =>
        rw [if_neg hlimit] at h
        exact poisoned_openBody h

/-- An attempt that fails leaves the opener unusable. -/
theorem poisoned_next {o : Opener} {source : Bytes} {e : FrameError}
    (h : (o.next source).outcome = .error e) : (o.next source).opener.poisoned = true := by
  unfold next at h ⊢
  by_cases hpoisoned : o.poisoned = true
  · rw [if_pos hpoisoned]
    exact hpoisoned
  · rw [if_neg hpoisoned] at h ⊢
    cases hphase : o.phase with
    | header =>
      rw [hphase] at h
      exact poisoned_openHeader h
    | body command length nonce cipher =>
      rw [hphase] at h
      exact poisoned_openBody h

/-- Bytes that are not one frame leave the opener unusable. -/
theorem poisoned_openWhole {o : Opener} {bytes : Bytes} {e : FrameError}
    (h : (o.openWhole bytes).2 = .error e) : (o.openWhole bytes).1.poisoned = true := by
  have hfail := @poisoned_next o bytes
  cases hattempt : o.next bytes with
  | mk opener rest outcome =>
    rw [hattempt] at hfail
    match outcome with
    | .error e' =>
      simp only [openWhole, hattempt]
      exact hfail rfl
    | .ok none => simp [openWhole, hattempt]
    | .ok (some g) =>
      cases rest with
      | nil => simp [openWhole, hattempt] at h
      | cons b rest => simp [openWhole, hattempt]

/-- **Acceptance.** An opener before a header, with `n` frames behind it and the limit `m`, takes
bytes for the frame `f` exactly if `f` is within the limit and the bytes are what a sealer of the
same key with `n` frames behind it makes of `f`. So a frame has one accepted form under each nonce,
and bytes that no such frame is sealed to are refused and leave the opener unusable. -/
theorem openWhole_accepts_exactly_sealed (key : Shannon.Key) (n m : Nat) (bytes : Bytes) :
    let o : Opener := ⟨key, n, .header, m, false⟩
    let s : Sealer := ⟨key, n⟩
    (∀ f : Frame, (o.openWhole bytes).2 = .ok f ↔
      f.payload.length ≤ m ∧ s.sealFrame f = .ok (⟨key, n + 1⟩, bytes)) ∧
    (∀ (other : Bytes) (f : Frame), (o.openWhole bytes).2 = .ok f →
      (o.openWhole other).2 = .ok f → bytes = other) ∧
    ((¬ ∃ f : Frame, f.payload.length ≤ m ∧ s.sealFrame f = .ok (⟨key, n + 1⟩, bytes)) →
      ∃ e, (o.openWhole bytes).2 = .error e ∧ (o.openWhole bytes).1.poisoned = true) := by
  intro o s
  have hnext : ∀ source, o.next source = o.openHeader source := fun _ => rfl
  have accepts : ∀ (source : Bytes) (f : Frame), (o.openWhole source).2 = .ok f ↔
      f.payload.length ≤ m ∧ s.sealFrame f = .ok (⟨key, n + 1⟩, source) := by
    intro source f
    rw [openWhole_eq_ok_iff, hnext, sealFrame_eq_ok_iff]
    constructor
    · rintro ⟨hopen, hrest⟩
      obtain ⟨hroom, hfit, hlimit, hsource⟩ := eq_wire_of_openHeader hopen
      rw [hrest, List.append_nil] at hsource
      exact ⟨hlimit, hfit, hroom, rfl, hsource⟩
    · rintro ⟨hlimit, hfit, hroom, -, rfl⟩
      have hopen := openHeader_wire (o := o) [] (ofCount?_eq_some_iff.2 ⟨hroom, rfl⟩) hfit hlimit
      rw [List.append_nil] at hopen
      exact ⟨congrArg Attempt.outcome hopen, congrArg Attempt.rest hopen⟩
  refine ⟨accepts bytes, ?_, ?_⟩
  · intro other f hbytes hother
    have h₁ := ((accepts bytes f).1 hbytes).2
    have h₂ := ((accepts other f).1 hother).2
    rw [h₁] at h₂
    simpa using h₂
  · intro hnone
    cases hresult : (o.openWhole bytes).2 with
    | ok f => exact absurd ⟨f, (accepts bytes f).1 hresult⟩ hnone
    | error e => exact ⟨e, rfl, poisoned_openWhole hresult⟩

end Opener

end MercuryLink
