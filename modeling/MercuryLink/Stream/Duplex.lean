import MercuryLink.Bytes
import MercuryLink.Endpoint.Error
import MercuryLink.Stream.Carrier

/-!
# Connected pairs of stream ends

Two ends that are connected to each other: what one writes, the other reads. Shutting one end
down, or closing it, ends both directions; what was written before can still be read. An end
that is closed before it has read everything leaves a reset to the other. The main statement
says that bytes come out in the order in which they went in.
-/

namespace MercuryLink

/-- One of two connected ends. -/
inductive Side where
  | first | second
  deriving DecidableEq, Repr

/-- The end across. -/
def Side.other : Side → Side
  | first => second
  | second => first

/-- What waits at one end. -/
structure StreamEnd where
  /-- Bytes that the other end wrote and this one has not read. -/
  inbox : Bytes
  /-- Whether the other end was closed before it had read everything; reported once. -/
  reset : Bool
  deriving DecidableEq, Repr

/-- Two connected ends. -/
structure Duplex where
  /-- What the pair is made of. -/
  carrier : Carrier
  /-- One end. -/
  first : StreamEnd
  /-- The other end. -/
  second : StreamEnd
  /-- Whether both directions have ended. -/
  ended : Bool
  deriving DecidableEq, Repr

namespace Duplex

/-- A new pair. -/
def ofCarrier (carrier : Carrier) : Duplex := ⟨carrier, ⟨[], false⟩, ⟨[], false⟩, false⟩

/-- What waits at an end. -/
def endOf (d : Duplex) : Side → StreamEnd
  | .first => d.first
  | .second => d.second

/-- Change what waits at an end. -/
def put (d : Duplex) (side : Side) (e : StreamEnd) : Duplex :=
  match side with
  | .first => { d with first := e }
  | .second => { d with second := e }

@[simp] theorem endOf_put_self (d : Duplex) (side : Side) (e : StreamEnd) :
    (d.put side e).endOf side = e := by cases side <;> rfl

@[simp] theorem endOf_put_other (d : Duplex) (side : Side) (e : StreamEnd) :
    (d.put side.other e).endOf side = d.endOf side := by cases side <;> rfl

/-- Write bytes. Writing none succeeds in any case. -/
def write (d : Duplex) (side : Side) (bs : Bytes) : Duplex × Except Fault Unit :=
  if bs.isEmpty then (d, .ok ())
  else if d.ended then (d, .error (.ofKind .brokenPipe))
  else
    let e := d.endOf side.other
    (d.put side.other { e with inbox := e.inbox ++ bs }, .ok ())

/-- What an end with nothing to read reports; at the end of the stream it reads nothing. -/
def readNothing (d : Duplex) (side : Side) : Duplex × Except Fault Bytes :=
  let e := d.endOf side
  if e.reset then (d.put side { e with reset := false }, .error (.ofKind .connectionReset))
  else if d.ended then (d, .ok [])
  else (d, .error (.ofKind .wouldBlock))

/-- Read at most so many bytes. -/
def read (d : Duplex) (side : Side) (count : Nat) : Duplex × Except Fault Bytes :=
  let e := d.endOf side
  if e.inbox.isEmpty then d.readNothing side
  else (d.put side { e with inbox := e.inbox.drop count }, .ok (e.inbox.take count))

/-- Read exactly so many bytes; fewer are lost with the fault. -/
def readExactly (d : Duplex) (side : Side) (count : Nat) : Duplex × Except Fault Bytes :=
  let e := d.endOf side
  if count ≤ e.inbox.length then
    (d.put side { e with inbox := e.inbox.drop count }, .ok (e.inbox.take count))
  else
    match (d.put side { e with inbox := [] }).readNothing side with
    | (d, .ok _) => (d, .error (.ofKind .unexpectedEnd))
    | (d, .error f) => (d, .error f)

/-- End both directions. -/
def shutdown (d : Duplex) : Duplex := { d with ended := true }

/-- Close an end. -/
def close (d : Duplex) (side : Side) : Duplex :=
  let across := d.endOf side.other
  let d := if (d.endOf side).inbox.isEmpty then d else d.put side.other { across with reset := true }
  (d.put side ⟨[], false⟩).shutdown

/-- The address across; the ends of a pair have none. -/
def peer? (_ : Duplex) : Option String := none

/-- The outline of an end. -/
def outline (d : Duplex) : String := d.carrier.outline d.peer?

/-- Limit the time that reading or writing may take. -/
def checkLimit (limit : TimeLimit) : Except DialError Unit := limit.check.mapError .io

/-- Hand an end over to an event loop, which only network connections can be. An end that
cannot be handed over is closed. -/
def handOver (d : Duplex) (side : Side) : Duplex × Except DialError Unit :=
  match d.carrier with
  | .network => (d, .ok ())
  | .machine =>
    (d.close side,
      .error (.io ⟨.unsupported,
        some "only TCP access-point streams can be converted to tokio streams"⟩))

/-- Write to an end, read exactly so many bytes from it, and close it. -/
def converse (d : Duplex) (side : Side) (bs : Bytes) (count : Nat) :
    Duplex × Except Fault Bytes :=
  match d.write side bs with
  | (d, .error f) => (d.close side, .error f)
  | (d, .ok ()) =>
    let (d, result) := d.readExactly side count
    (d.close side, result)

/-- What is written while the directions are open comes out across, behind what waits there. -/
theorem inbox_write {d : Duplex} (side : Side) (bs : Bytes) (h : d.ended = false) :
    ((d.write side bs).1.endOf side.other).inbox = (d.endOf side.other).inbox ++ bs := by
  unfold write
  cases bs with
  | nil => simp
  | cons b bs => simp [h]

/-- A read takes the bytes at the front. -/
theorem read_append_rest {d d' : Duplex} {side : Side} {count : Nat} {bs : Bytes}
    (h : d.read side count = (d', .ok bs)) : bs ++ (d'.endOf side).inbox = (d.endOf side).inbox := by
  unfold read at h
  simp only [] at h
  split at h
  · next he =>
    rw [List.isEmpty_iff] at he
    unfold readNothing at h
    simp only [] at h
    split at h
    · simp at h
    · split at h
      · simp only [Prod.mk.injEq, Except.ok.injEq] at h
        obtain ⟨rfl, rfl⟩ := h
        simp
      · simp at h
  · simp only [Prod.mk.injEq, Except.ok.injEq] at h
    obtain ⟨rfl, rfl⟩ := h
    simp

end Duplex

end MercuryLink
