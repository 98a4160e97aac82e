import MercuryLink.Mercury.Session

/-!
# Lines

A line is a session over a connection whose course is known: what each read yields, and what each
write is answered. Whoever waits on a line takes one arrival after the other until the answer is
there; after the last arrival the stream is at its end, so that no wait goes on for ever. The main
statement says that no line comes about where nothing can be reached.
-/

namespace MercuryLink

/-- A connection to an access point. -/
structure Connection where
  /-- What later reads yield; after the last the stream is at its end. -/
  arrivals : List Arrival
  /-- What takes the bytes written. -/
  sink : Sink

/-- A session over a connection. -/
structure Line where
  /-- The session. -/
  session : Session
  /-- What has not arrived yet. -/
  arrivals : List Arrival

namespace Line

/-- Start a session on a connection. -/
def start (keys : SessionKeys) (settings : SessionSettings) (c : Connection) :
    Except LinkError Line :=
  (Session.start keys settings .network c.sink).map fun session => ⟨session, c.arrivals⟩

/-- Connect to the first candidate that can be reached, and start a session. -/
def connect (net : Network Connection) (keys : SessionKeys) (settings : SessionSettings)
    (candidates : Except DialError (List String)) : Except LinkError Line :=
  match net.dialAny settings.dial candidates with
  | .error e => .error (.ofDial e)
  | .ok (connection, _) => start keys settings connection

/-- Take the next arrival, or the end of the stream. -/
def next (l : Line) : Line :=
  match l.arrivals with
  | [] => { l with session := (l.session.receive (.bytes [])).settle }
  | a :: rest => ⟨(l.session.receive a).settle, rest⟩

/-- How many arrivals can be taken, the end of the stream among them. -/
def remaining (l : Line) : Nat := l.arrivals.length + 1

/-- Wait for a call within a number of arrivals. -/
def awaitWithin : Nat → Line → Call → Line × Except LinkError Answer
  | 0, l, c =>
    let (session, result) := l.session.finish c
    ({ l with session }, result.getD (.error .closed))
  | n + 1, l, c =>
    match l.session.finish c with
    | (session, some result) => ({ l with session }, result)
    | (session, none) => awaitWithin n { l with session }.next c

/-- Ask something and wait for the answer. What would end beyond the clock breaks the call off. -/
def ask (l : Line) (a : Ask) : Line × Outcome Answer :=
  match l.session.ask a with
  | (session, .ok call) =>
    let (l, result) := awaitWithin l.remaining { l with session := session.settle } call
    (l, result.mapError .failed)
  | (session, .error e) => ({ l with session }, .error e)

/-- Send a request and wait for its response. -/
def fetch (l : Line) (r : Request) (timeout : Timespan) : Line × Outcome Message :=
  let (l, result) := l.ask (.request r timeout)
  (l, result.bind fun
    | .message m => .ok m
    | _ => .error (.failed .closed))

/-- Subscribe to a stem, and give the listener for its pushes. -/
def subscribe (l : Line) (stem : String) : Line × Outcome Nat :=
  let (l, result) := l.ask (.subscribe stem)
  (l, result.bind fun
    | .stream listener _ => .ok listener
    | _ => .error (.failed .closed))

/-- Take pushes within a number of arrivals, up to as many as are wanted. A failure says why there
were not enough. -/
def watchWithin : Nat → Line → Nat → Option Nat → Line × List Message × Option LinkError
  | 0, l, _, _ => (l, [], some .closed)
  | n + 1, l, listener, wanted =>
    let (session, found) := l.session.messages listener
    let l := { l with session }
    match wanted with
    | some most =>
      if most ≤ found.length then (l, found.take most, none)
      else
        match session.closeReason with
        | some e => (l, found, some e)
        | none =>
          let (l, later, e) := watchWithin n l.next listener (some (most - found.length))
          (l, found ++ later, e)
    | none =>
      match session.closeReason with
      | some e => (l, found, some e)
      | none =>
        let (l, later, e) := watchWithin n l.next listener none
        (l, found ++ later, e)

/-- Take pushes until there are as many as are wanted, which is at least one. -/
def watch (l : Line) (listener : Nat) (wanted : Option Nat) :
    Line × List Message × Option LinkError :=
  watchWithin (l.remaining + 1) l listener (wanted.map (max 1))

/-- Where nothing can be reached, no line comes about. -/
theorem connect_isolated (keys : SessionKeys) (settings : SessionSettings)
    (candidates : Except DialError (List String)) :
    ∃ e, connect (.isolated Connection) keys settings candidates = .error (.connect e) := by
  have unreached : ∀ texts : List String,
      (Network.isolated Connection).firstReached? settings.dial texts = none := by
    intro texts
    induction texts with
    | nil => rfl
    | cons text rest ih =>
      have refused : ∃ e, (Network.isolated Connection).dial settings.dial text = .error e := by
        unfold Network.dial
        split
        · exact ⟨_, rfl⟩
        · split <;> exact ⟨_, rfl⟩
      obtain ⟨e, he⟩ := refused
      simp only [Network.firstReached?, he]
      exact ih
  have dialled : ∃ e, (Network.isolated Connection).dialAny settings.dial candidates
      = .error e := by
    unfold Network.dialAny
    split
    · exact ⟨_, rfl⟩
    · exact ⟨_, rfl⟩
    · rw [unreached]
      exact ⟨_, rfl⟩
  obtain ⟨e, he⟩ := dialled
  exact ⟨e, by rw [connect, he]; rfl⟩

end Line

end MercuryLink
