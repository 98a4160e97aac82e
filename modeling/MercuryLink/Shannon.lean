import MercuryLink.Bytes

/-!
# The Shannon stream cipher

A sixteen-word shift register produces one keystream word per four bytes, and every
plaintext word is absorbed into the register and into a separate digest, so the tag
written at the end depends on the whole message. A message is processed four bytes at a
time. Up to three bytes at the end of a call begin a word, which the next call goes on
with byte by byte, absorbing what there is of the word after each byte; the tag absorbs a
word that was never finished. So the result depends on how a message is cut into calls,
except that a cut may lie between two words or before the last byte of one. The main
statements are that decryption undoes encryption and leaves the same state, and that a
cut behind three bytes makes no difference.
-/

namespace MercuryLink.Shannon

/-- The sixteen words of the shift register or of the digest. -/
abbrev Register := Vector UInt32 16

/-- Rotate a word to the left. -/
def rotate (w : UInt32) (n : UInt32) : UInt32 := w <<< n ||| w >>> (32 - n)

/-- The nonlinear mixing applied to the feedback word. -/
def mixFeedback (w : UInt32) : UInt32 :=
  let w := w ^^^ (rotate w 5 ||| rotate w 7)
  w ^^^ (rotate w 19 ||| rotate w 22)

/-- The nonlinear mixing applied to the output word. -/
def mixOutput (w : UInt32) : UInt32 :=
  let w := w ^^^ (rotate w 7 ||| rotate w 22)
  w ^^^ (rotate w 5 ||| rotate w 19)

/-- The constant in force while a key or a nonce is loaded; it also marks the end of a message. -/
def initialConstant : UInt32 := 0x6996c53a

/-- Drop the oldest word and append a new one. -/
def shift (r : Register) (w : UInt32) : Register :=
  ⟨(r.toArray.extract 1 16).push w, by simp⟩

/-- Add a word into the cell that receives key, nonce and plaintext. -/
def inject (r : Register) (w : UInt32) : Register := r.set 13 (r[13] ^^^ w)

/-- Advance the register by one word; the second component is the keystream word. -/
def cycle (r : Register) (constant : UInt32) : Register × UInt32 :=
  let feedback := mixFeedback (r[12] ^^^ r[13] ^^^ constant) ^^^ rotate r[0] 1
  let r := shift r feedback
  let t := mixOutput (r[2] ^^^ r[15])
  let r := r.set 0 (r[0] ^^^ t)
  (r, t ^^^ r[8] ^^^ r[12])

/-- Advance the register sixteen times, discarding the keystream. -/
def diffuse (r : Register) (constant : UInt32) : Register :=
  (List.range 16).foldl (fun r _ => (cycle r constant).1) r

/-- Add two registers word by word. -/
def combine (r s : Register) : Register := r.zipWith (· ^^^ ·) s

/-- Load a byte string: inject its words and its length, then fold the register into itself.
The second component is the digest a message starts from. -/
def load (r : Register) (bs : Bytes) : Register × Register :=
  let r := bs.toWords.foldl (fun r w => (cycle (inject r w) initialConstant).1) r
  let r := (cycle (inject r (UInt32.ofNat bs.length)) initialConstant).1
  (combine (diffuse r initialConstant) r, r)

/-- The register before any key is loaded: the first sixteen Fibonacci numbers. -/
def blank : Register := #v[1, 1, 2, 3, 5, 8, 13, 21, 34, 55, 89, 144, 233, 377, 610, 987]

/-- A loaded key, from which every message starts afresh. -/
structure Key where
  /-- The register after the key was loaded. -/
  register : Register
  deriving DecidableEq

/-- Load a key of any length. -/
def Key.ofBytes (secret : Bytes) : Key := ⟨(load blank secret).1⟩

/-- Whether plaintext goes in or comes out. Either way a keystream is added to what goes in. -/
inductive Direction where
  | hide | reveal

/-- What is plaintext of what goes in and what comes out. -/
def Direction.plain {α : Type} (d : Direction) (input output : α) : α :=
  match d with
  | hide => input
  | reveal => output

/-- The direction that undoes another. -/
def Direction.inverse : Direction → Direction
  | hide => reveal
  | reveal => hide

/-- A word that was begun and lacks some of its bytes. -/
structure Partial where
  /-- The keystream word. -/
  stream : UInt32
  /-- The plaintext bytes so far, least significant first. -/
  plain : UInt32
  /-- How many bytes are lacking. -/
  lacking : Nat
  deriving DecidableEq

/-- The bit position of the next byte of a word. -/
def Partial.position (p : Partial) : UInt32 := 32 - 8 * UInt32.ofNat p.lacking

/-- Process the next byte of a word. -/
def Partial.fill (d : Direction) (p : Partial) (input : UInt8) : Partial × UInt8 :=
  let output := input ^^^ (p.stream >>> p.position).toUInt8
  ({ p with
      plain := p.plain ||| (d.plain input output).toUInt32 <<< p.position
      lacking := p.lacking - 1 }, output)

/-- Process some bytes of a word. -/
def Partial.fillAll (d : Direction) : Partial → Bytes → Partial × Bytes
  | p, [] => (p, [])
  | p, b :: later =>
    let (p, output) := p.fill d b
    let (p, rest) := fillAll d p later
    (p, output :: rest)

/-- The state of the cipher inside one message. -/
structure State where
  /-- The shift register. -/
  register : Register
  /-- The accumulated digest of the plaintext. -/
  digest : Register
  /-- The constant fixed by key and nonce. -/
  constant : UInt32
  /-- The word that was begun, if the last call ended inside one. -/
  unfinished : Option Partial
  deriving DecidableEq

/-- Start a message under a nonce. -/
def Key.start (key : Key) (nonce : UInt32) : State :=
  let loaded := load key.register (Bytes.ofNat 4 nonce.toNat)
  ⟨loaded.1, loaded.2, loaded.1[0], none⟩

/-- A message starts between words. -/
@[simp] theorem Key.unfinished_start (key : Key) (nonce : UInt32) :
    (key.start nonce).unfinished = none := rfl

namespace State

/-- Absorb a plaintext word into digest and register. -/
def absorb (s : State) (w : UInt32) : State :=
  { s with
    digest := shift s.digest (s.digest[0] ^^^ s.digest[2] ^^^ s.digest[15] ^^^ w)
    register := inject s.register w }

/-- Process a whole word. -/
def passWord (d : Direction) (s : State) (input : UInt32) : State × UInt32 :=
  let (register, stream) := cycle s.register s.constant
  let output := input ^^^ stream
  ({ s with register }.absorb (d.plain input output), output)

/-- Begin a word with fewer bytes than it takes. -/
def beginWord (d : Direction) (s : State) (bs : Bytes) : State × Bytes :=
  let (register, stream) := cycle s.register s.constant
  let (p, output) := Partial.fillAll d ⟨stream, 0, 4⟩ bs
  ({ s with register, unfinished := some p }, output)

/-- Process bytes from the start of a word on. -/
def words (d : Direction) : State → Bytes → State × Bytes
  | s, a :: b :: c :: e :: later =>
    let (s, output) := s.passWord d (Bytes.word a b c e)
    let (s, rest) := words d s later
    (s, Bytes.ofWord output ++ rest)
  | s, [] => (s, [])
  | s, bs => s.beginWord d bs

/-- Go on with a word by one byte; what there is of the word is absorbed. -/
def resume (d : Direction) (s : State) (p : Partial) (b : UInt8) : State × UInt8 :=
  let (p, output) := p.fill d b
  ({ s.absorb p.plain with unfinished := if p.lacking = 0 then none else some p }, output)

/-- Process bytes, those of an unfinished word first. -/
def process (d : Direction) : State → Bytes → State × Bytes
  | s, [] => (s, [])
  | s, b :: later =>
    match s.unfinished with
    | none => s.words d (b :: later)
    | some p =>
      let (s, output) := s.resume d p b
      let (s, rest) := process d s later
      (s, output :: rest)

/-- Encrypt a byte string. -/
def encrypt (s : State) (bs : Bytes) : State × Bytes := s.process .hide bs

/-- Decrypt a byte string. -/
def decrypt (s : State) (bs : Bytes) : State × Bytes := s.process .reveal bs

/-- How many bytes the unfinished word lacks. -/
def lacking (s : State) : Nat :=
  match s.unfinished with
  | none => 0
  | some p => p.lacking

/-- Absorb the unfinished word as it stands. -/
def finished (s : State) : State :=
  match s.unfinished with
  | none => s
  | some p => s.absorb p.plain

/-- The four-byte tag of everything processed so far. The number of bits that the last word lacks
is marked in the register. -/
def tag (s : State) : Bytes :=
  let bits : UInt32 := 8 * UInt32.ofNat s.lacking
  let r := inject (cycle s.finished.register s.constant).1 (initialConstant ^^^ bits <<< 3)
  let r := diffuse (combine r s.finished.digest) s.constant
  Bytes.ofWord (cycle r s.constant).2

/-! ### Undoing -/

/-- A step and the step that undoes it agree on the plaintext. -/
@[simp] theorem plain_inverse {α : Type} (d : Direction) (input output : α) :
    d.inverse.plain output input = d.plain input output := by
  cases d with
  | hide => rfl
  | reveal => rfl

theorem fill_inverse (d : Direction) (p : Partial) (b : UInt8) :
    p.fill d.inverse (p.fill d b).2 = ((p.fill d b).1, b) := by
  have hcancel : ∀ k : UInt8, b ^^^ k ^^^ k = b := by
    intro k
    rw [UInt8.xor_assoc, UInt8.xor_self, UInt8.xor_zero]
  simp only [Partial.fill, hcancel, plain_inverse]

theorem fillAll_inverse (d : Direction) (p : Partial) (bs : Bytes) :
    p.fillAll d.inverse (p.fillAll d bs).2 = ((p.fillAll d bs).1, bs) := by
  induction bs generalizing p with
  | nil => rfl
  | cons b later ih => simp only [Partial.fillAll, fill_inverse, ih]

theorem length_fillAll (d : Direction) (p : Partial) (bs : Bytes) :
    (p.fillAll d bs).2.length = bs.length := by
  induction bs generalizing p with
  | nil => rfl
  | cons b later ih => simp only [Partial.fillAll, List.length_cons, ih]

theorem passWord_inverse (d : Direction) (s : State) (w : UInt32) :
    s.passWord d.inverse (s.passWord d w).2 = ((s.passWord d w).1, w) := by
  have hcancel : ∀ k : UInt32, w ^^^ k ^^^ k = w := by
    intro k
    rw [UInt32.xor_assoc, UInt32.xor_self, UInt32.xor_zero]
  simp only [passWord, hcancel, plain_inverse]

theorem beginWord_inverse (d : Direction) (s : State) (bs : Bytes) :
    s.beginWord d.inverse (s.beginWord d bs).2 = ((s.beginWord d bs).1, bs) := by
  simp only [beginWord, fillAll_inverse]

theorem resume_inverse (d : Direction) (s : State) (p : Partial) (b : UInt8) :
    s.resume d.inverse p (s.resume d p b).2 = ((s.resume d p b).1, b) := by
  simp only [resume, fill_inverse]

theorem words_cons (d : Direction) (s : State) (a b c e : UInt8) (later : Bytes) :
    s.words d (a :: b :: c :: e :: later) =
      (((s.passWord d (Bytes.word a b c e)).1.words d later).1,
        Bytes.ofWord (s.passWord d (Bytes.word a b c e)).2 ++
          ((s.passWord d (Bytes.word a b c e)).1.words d later).2) :=
  rfl

/-- Words begin again with the bytes that came out of them. -/
theorem words_ofWord (d : Direction) (s : State) (w : UInt32) (later : Bytes) :
    s.words d (Bytes.ofWord w ++ later) =
      (((s.passWord d w).1.words d later).1,
        Bytes.ofWord (s.passWord d w).2 ++ ((s.passWord d w).1.words d later).2) := by
  change s.words d (_ :: _ :: _ :: _ :: later) = _
  rw [words_cons, Bytes.word_toUInt8]

theorem words_inverse (d : Direction) (s : State) (bs : Bytes) :
    s.words d.inverse (s.words d bs).2 = ((s.words d bs).1, bs) := by
  match bs with
  | [] => rfl
  | [a] => exact beginWord_inverse d s [a]
  | [a, b] => exact beginWord_inverse d s [a, b]
  | [a, b, c] => exact beginWord_inverse d s [a, b, c]
  | a :: b :: c :: e :: later =>
    have hlater := words_inverse d (s.passWord d (Bytes.word a b c e)).1 later
    have hword := passWord_inverse d s (Bytes.word a b c e)
    rw [words_cons, words_ofWord, hword]
    simp only [hlater, Bytes.ofWord_word, List.cons_append, List.nil_append]

/-- From the start of a word on, bytes are processed in words. -/
theorem process_of_none {d : Direction} {s : State} (h : s.unfinished = none) (bs : Bytes) :
    s.process d bs = s.words d bs := by
  cases bs with
  | nil => rfl
  | cons b later => rw [process, h]

theorem process_of_some {d : Direction} {s : State} {p : Partial} (h : s.unfinished = some p)
    (b : UInt8) (later : Bytes) :
    s.process d (b :: later) =
      (((s.resume d p b).1.process d later).1,
        (s.resume d p b).2 :: ((s.resume d p b).1.process d later).2) := by
  rw [process, h]

theorem process_inverse (d : Direction) (s : State) (bs : Bytes) :
    s.process d.inverse (s.process d bs).2 = ((s.process d bs).1, bs) := by
  induction bs generalizing s with
  | nil => rfl
  | cons b later ih =>
    cases h : s.unfinished with
    | none => rw [process_of_none h, process_of_none h, words_inverse]
    | some p =>
      rw [process_of_some h, process_of_some h, resume_inverse]
      simp only [ih]

/-- Decryption undoes encryption and passes through the same states. -/
theorem decrypt_encrypt (s : State) (bs : Bytes) :
    s.decrypt (s.encrypt bs).2 = ((s.encrypt bs).1, bs) :=
  process_inverse .hide s bs

/-- Encryption undoes decryption: each ciphertext has exactly one plaintext. -/
theorem encrypt_decrypt (s : State) (bs : Bytes) :
    s.encrypt (s.decrypt bs).2 = ((s.decrypt bs).1, bs) :=
  process_inverse .reveal s bs

/-! ### Lengths -/

theorem length_words (d : Direction) (s : State) (bs : Bytes) :
    (s.words d bs).2.length = bs.length := by
  match bs with
  | [] => rfl
  | [a] => exact length_fillAll d _ [a]
  | [a, b] => exact length_fillAll d _ [a, b]
  | [a, b, c] => exact length_fillAll d _ [a, b, c]
  | a :: b :: c :: e :: later =>
    have hlater := length_words d (s.passWord d (Bytes.word a b c e)).1 later
    rw [words_cons, List.length_append, hlater, Bytes.length_ofWord]
    simp only [List.length_cons]
    omega

theorem length_process (d : Direction) (s : State) (bs : Bytes) :
    (s.process d bs).2.length = bs.length := by
  induction bs generalizing s with
  | nil => rfl
  | cons b later ih =>
    cases h : s.unfinished with
    | none => rw [process_of_none h, length_words]
    | some p => rw [process_of_some h, List.length_cons, ih, List.length_cons]

@[simp] theorem length_encrypt (s : State) (bs : Bytes) : (s.encrypt bs).2.length = bs.length :=
  length_process _ _ _

@[simp] theorem length_decrypt (s : State) (bs : Bytes) : (s.decrypt bs).2.length = bs.length :=
  length_process _ _ _

@[simp] theorem length_tag (s : State) : s.tag.length = 4 := rfl

/-! ### A cut inside a word -/

/-- The four bytes of a word one after the other are the whole word. -/
theorem fillAll_word (d : Direction) (k : UInt32) (a b c e : UInt8) :
    Partial.fillAll d ⟨k, 0, 4⟩ [a, b, c, e] =
      (⟨k, d.plain (Bytes.word a b c e) (Bytes.word a b c e ^^^ k), 0⟩,
        Bytes.ofWord (Bytes.word a b c e ^^^ k)) := by
  have houtput : Bytes.ofWord (Bytes.word a b c e ^^^ k) =
      [a ^^^ k.toUInt8, b ^^^ (k >>> 8).toUInt8, c ^^^ (k >>> 16).toUInt8,
        e ^^^ (k >>> 24).toUInt8] := by
    rw [Bytes.ofWord_xor, Bytes.ofWord_word]
    rfl
  have hword : Bytes.word a b c e ^^^ k =
      Bytes.word (a ^^^ k.toUInt8) (b ^^^ (k >>> 8).toUInt8) (c ^^^ (k >>> 16).toUInt8)
        (e ^^^ (k >>> 24).toUInt8) := by
    have hbytes := houtput
    simp only [Bytes.ofWord, List.cons.injEq, and_true] at hbytes
    rw [← hbytes.1, ← hbytes.2.1, ← hbytes.2.2.1, ← hbytes.2.2.2, Bytes.word_toUInt8]
  have h4 : ∀ w, Partial.position ⟨k, w, 4⟩ = 0 := fun _ => show 32 - 8 * 4 = (0 : UInt32) by decide
  have h3 : ∀ w, Partial.position ⟨k, w, 3⟩ = 8 := fun _ => show 32 - 8 * 3 = (8 : UInt32) by decide
  have h2 : ∀ w, Partial.position ⟨k, w, 2⟩ = 16 := fun _ =>
    show 32 - 8 * 2 = (16 : UInt32) by decide
  have h1 : ∀ w, Partial.position ⟨k, w, 1⟩ = 24 := fun _ =>
    show 32 - 8 * 1 = (24 : UInt32) by decide
  simp only [Partial.fillAll, Partial.fill, h4, h3, h2, h1, Nat.reduceSub, houtput]
  simp only [UInt32.shiftRight_zero, UInt32.shiftLeft_zero, UInt32.zero_or]
  cases d with
  | hide => rfl
  | reveal =>
    rw [hword]
    rfl

/-- Three bytes leave a word that the fourth completes: together they are the whole word. -/
theorem beginWord_resume (d : Direction) {s : State} (h : s.unfinished = none) (a b c e : UInt8) :
    ∃ p, (s.beginWord d [a, b, c]).1.unfinished = some p ∧
      ((s.beginWord d [a, b, c]).1.resume d p e).1 = (s.passWord d (Bytes.word a b c e)).1 ∧
      (s.beginWord d [a, b, c]).2 ++ [((s.beginWord d [a, b, c]).1.resume d p e).2] =
        Bytes.ofWord (s.passWord d (Bytes.word a b c e)).2 := by
  simp only [beginWord, passWord]
  generalize cycle s.register s.constant = drawn
  obtain ⟨r, k⟩ := drawn
  have hfill := fillAll_word d k a b c e
  simp only [Partial.fillAll, Prod.mk.injEq] at hfill
  obtain ⟨hpartial, houtput⟩ := hfill
  refine ⟨(Partial.fillAll d ⟨k, 0, 4⟩ [a, b, c]).1, rfl, ?_, houtput⟩
  simp only [resume, Partial.fillAll, hpartial, if_true, absorb, h]

/-- A cut between two words, or before the last byte of one, makes no difference. -/
theorem words_append (d : Direction) {s : State} (h : s.unfinished = none) (as bs : Bytes)
    (hcut : as.length % 4 = 0 ∨ as.length % 4 = 3) :
    s.words d (as ++ bs) =
      (((s.words d as).1.process d bs).1,
        (s.words d as).2 ++ ((s.words d as).1.process d bs).2) := by
  match as with
  | [] => exact (process_of_none h bs).symm
  | [_] | [_, _] => simp at hcut
  | [a, b, c] =>
    cases bs with
    | nil => rw [List.append_nil, process, List.append_nil]
    | cons e later =>
      obtain ⟨p, hp, hstate, houtput⟩ := beginWord_resume d h a b c e
      have hnone : (s.passWord d (Bytes.word a b c e)).1.unfinished = none := h
      have hbegin : s.words d [a, b, c] = s.beginWord d [a, b, c] := rfl
      rw [hbegin, process_of_some hp, hstate, process_of_none hnone]
      change s.words d (a :: b :: c :: e :: later) = _
      rw [words_cons, ← houtput, List.append_assoc, List.singleton_append]
  | a :: b :: c :: e :: more =>
    have hmore : more.length % 4 = 0 ∨ more.length % 4 = 3 := by
      simp only [List.length_cons] at hcut
      omega
    have hnone : (s.passWord d (Bytes.word a b c e)).1.unfinished = none := h
    have hlater := words_append d hnone more bs hmore
    simp only [List.cons_append, words_cons, hlater, List.append_assoc]

/-- A cut behind the first byte of a word makes a difference. -/
example : ((((Key.ofBytes []).start 0).encrypt [0]).1.encrypt [0, 0, 0, 0]).1 ≠
    (((Key.ofBytes []).start 0).encrypt [0, 0, 0, 0, 0]).1 := by decide +kernel

/-- Encryption goes on behind three bytes as if it had not stopped. -/
theorem encrypt_append {s : State} (h : s.unfinished = none) (as bs : Bytes)
    (hcut : as.length % 4 = 0 ∨ as.length % 4 = 3) :
    s.encrypt (as ++ bs) =
      (((s.encrypt as).1.encrypt bs).1, (s.encrypt as).2 ++ ((s.encrypt as).1.encrypt bs).2) := by
  have hwords := words_append .hide h as bs hcut
  rw [← process_of_none h, ← process_of_none h] at hwords
  exact hwords

end State

end MercuryLink.Shannon
