import Mathlib.Data.List.Basic
import MercuryLink.Mercury.Board

/-!
# Who receives a push

A delivery goes in rounds. Each round looks at the entries with the longest stem that covers the
location: if somebody reads from one of them, those entries receive the message and the delivery
ends, and if not, all of them are removed and the next round looks at shorter stems. Seen from its
end, a delivery has one number that decides everything: the length of the longest stem that covers
the location and has a reader. The entries of this length with a reader receive the message, and
those without a reader are removed if they are at least as long.
-/

namespace MercuryLink

namespace Listener

/-- Where one text begins with another, bytes and characters agree on which is longer. -/
theorem sizes_of_start {s t : String} (h : s.toList <+: t.toList) :
    (s.utf8ByteSize ≤ t.utf8ByteSize ↔ s.length ≤ t.length) ∧
      (t.utf8ByteSize ≤ s.utf8ByteSize ↔ t.length ≤ s.length) := by
  obtain ⟨rest, hrest⟩ := h
  have htext : t = s ++ String.ofList rest := by
    rw [← String.toList_inj, String.toList_append, String.toList_ofList, hrest]
  have hbytes : t.utf8ByteSize = s.utf8ByteSize + (String.ofList rest).utf8ByteSize := by
    rw [htext, String.utf8ByteSize_append]
  have hlength : t.length = s.length + rest.length := by
    rw [htext, String.length_append, String.length_ofList]
  have hnone : (String.ofList rest).utf8ByteSize = 0 ↔ rest.length = 0 := by
    rw [String.utf8ByteSize_eq_zero_iff, List.length_eq_zero_iff, ← String.toList_inj,
      String.toList_ofList, String.toList_empty]
  omega

/-- So they do for two stems that cover the same location, of which one begins with the other. -/
theorem size_le_iff {l l' : Listener} {uri : String} (h : l.covers uri = true)
    (h' : l'.covers uri = true) :
    l.stem.utf8ByteSize ≤ l'.stem.utf8ByteSize ↔ l.stem.length ≤ l'.stem.length := by
  rw [covers, List.isPrefixOf_iff_prefix] at h h'
  rcases List.prefix_or_prefix_of_prefix h h' with hle | hge
  · exact (sizes_of_start hle).1
  · exact (sizes_of_start hge).2

end Listener

namespace Board

variable {live : Listener → Bool} {uri : String} {listeners : List Listener} {length : Nat}

/-! ### The longest stem -/

/-- No stem is the longest exactly if no entry covers the location. -/
theorem longestStem?_eq_none_iff :
    longestStem? listeners uri = none ↔ ∀ l ∈ listeners, l.covers uri = false := by
  rw [longestStem?, List.max?_eq_none_iff, List.map_eq_nil_iff, List.filter_eq_nil_iff]
  simp only [Bool.not_eq_true]

/-- The longest stem is that of an entry which covers the location, and no such entry has a longer
one. -/
theorem longestStem?_eq_some_iff :
    longestStem? listeners uri = some length ↔
      (∃ l ∈ listeners, l.covers uri = true ∧ l.stem.length = length) ∧
        ∀ l ∈ listeners, l.covers uri = true → l.stem.length ≤ length := by
  rw [longestStem?, List.max?_eq_some_iff]
  simp only [List.mem_map, List.mem_filter, and_assoc]
  refine and_congr_right fun _ => ⟨fun h l hl hcovers => h _ ⟨l, hl, hcovers, rfl⟩, ?_⟩
  rintro h _ ⟨l, hl, hcovers, rfl⟩
  exact h l hl hcovers

/-- An entry is hit exactly if it covers the location with a stem of the length. -/
theorem hits_iff {l : Listener} :
    hits uri length l = true ↔ l.covers uri = true ∧ l.stem.length = length := by
  rw [hits, Bool.and_eq_true, decide_eq_true_eq, and_comm]

/-- Where no entry of the longest length has a reader, leaving these entries out leaves all that a
condition selects, if it selects none of them. -/
theorem filter_withoutHits {keep : Listener → Bool}
    (h : ∀ l ∈ listeners, hits uri length l = true → keep l = false) :
    (withoutHits uri length listeners).filter keep = listeners.filter keep := by
  rw [withoutHits, List.filter_filter]
  refine List.filter_congr fun l hl => ?_
  cases hhit : hits uri length l with
  | true => rw [h l hl hhit]; rfl
  | false => simp

/-! ### The rounds of a delivery -/

/-- Where no entry covers the location, all are kept and nobody receives. -/
theorem receivers_of_none (h : longestStem? listeners uri = none) :
    receivers live uri listeners = (listeners, []) := by
  rw [receivers]
  split
  · rfl
  · next length hsome =>
    rw [h] at hsome
    cases hsome

/-- Where somebody reads from an entry of the longest length, the delivery ends. -/
theorem receivers_of_live (h : longestStem? listeners uri = some length)
    (hlive : (listeners.any fun l => hits uri length l && live l) = true) :
    receivers live uri listeners =
      (listeners.filter fun l => !hits uri length l || live l,
        listeners.filter fun l => hits uri length l && live l) := by
  rw [receivers]
  split
  · next hnone =>
    rw [h] at hnone
    cases hnone
  · next length' hsome =>
    rw [h] at hsome
    cases hsome
    rw [if_pos hlive]

/-- Where nobody does, it goes on without them. -/
theorem receivers_of_dead (h : longestStem? listeners uri = some length)
    (hdead : ¬ (listeners.any fun l => hits uri length l && live l) = true) :
    receivers live uri listeners = receivers live uri (withoutHits uri length listeners) := by
  rw [receivers]
  split
  · next hnone =>
    rw [h] at hnone
    cases hnone
  · next length' hsome =>
    rw [h] at hsome
    cases hsome
    rw [if_neg hdead]

/-- Whether an entry is in the way of a message that goes to stems of a length: it covers the
location with at least this length, and nobody reads from it. -/
def blocks (live : Listener → Bool) (uri : String) (length : Nat) (l : Listener) : Bool :=
  l.covers uri && !live l && length ≤ l.stem.length

/-- The longest stem with a reader decides who is kept and who receives. -/
theorem receivers_eq (live : Listener → Bool) (uri : String) (listeners : List Listener) :
    receivers live uri listeners =
      match longestStem? (listeners.filter live) uri with
      | none => (listeners.filter fun l => !l.covers uri, [])
      | some length =>
        (listeners.filter fun l => !blocks live uri length l,
          listeners.filter fun l => hits uri length l && live l) := by
  induction listeners using receivers.induct live uri with
  | case1 listeners hnone =>
    have hcovers := longestStem?_eq_none_iff.1 hnone
    have hlive : longestStem? (listeners.filter live) uri = none :=
      longestStem?_eq_none_iff.2 fun l hl => hcovers l (List.mem_of_mem_filter hl)
    have hkept : (listeners.filter fun l => !l.covers uri) = listeners :=
      List.filter_eq_self.2 fun l hl => by rw [hcovers l hl]; rfl
    rw [receivers_of_none hnone, hlive, hkept]
  | case2 listeners length hsome hlive =>
    obtain ⟨-, hmax⟩ := longestStem?_eq_some_iff.1 hsome
    obtain ⟨l, hl, hhit⟩ := List.any_eq_true.1 hlive
    rw [Bool.and_eq_true, hits_iff] at hhit
    have hlongest : longestStem? (listeners.filter live) uri = some length :=
      longestStem?_eq_some_iff.2 ⟨⟨l, List.mem_filter.2 ⟨hl, hhit.2⟩, hhit.1⟩,
        fun l hl => hmax l (List.mem_of_mem_filter hl)⟩
    rw [receivers_of_live hsome hlive, hlongest]
    -- No entry is longer, so those that block are the hits without a reader.
    refine Prod.ext (List.filter_congr fun l hl => ?_) rfl
    have hle := hmax l hl
    grind [blocks, hits]
  | case3 listeners length hsome hdead hless ih =>
    obtain ⟨-, hmax⟩ := longestStem?_eq_some_iff.1 hsome
    have hunread : ∀ l ∈ listeners, hits uri length l = true → live l = false := by
      grind
    have hrest : (withoutHits uri length listeners).filter live = listeners.filter live :=
      filter_withoutHits hunread
    rw [receivers_of_dead hsome hdead, ih, hrest]
    cases hlongest : longestStem? (listeners.filter live) uri with
    | none =>
      refine Prod.ext (filter_withoutHits fun l _ hhit => ?_) rfl
      rw [(hits_iff.1 hhit).1]
      rfl
    | some shorter =>
      have hshorter : shorter ≤ length := by
        obtain ⟨⟨l, hl, hcovers, rfl⟩, -⟩ := longestStem?_eq_some_iff.1 hlongest
        exact hmax l (List.mem_of_mem_filter hl) hcovers
      refine Prod.ext (filter_withoutHits fun l hl hhit => ?_)
        (filter_withoutHits fun l hl hhit => ?_)
      · obtain ⟨hcovers, rfl⟩ := hits_iff.1 hhit
        simp [blocks, hcovers, hunread l hl hhit, hshorter]
      · rw [hunread l hl hhit, Bool.and_false]

/-- At most so many rounds of a delivery, and what they come to if that is enough. -/
def rounds (live : Listener → Bool) (uri : String) :
    Nat → List Listener → Option (List Listener × List Listener)
  | 0, _ => none
  | more + 1, listeners =>
    match longestStem? listeners uri with
    | none => some (listeners, [])
    | some length =>
      let kept := listeners.filter fun l => !hits uri length l || live l
      let found := listeners.filter fun l => hits uri length l && live l
      if found.isEmpty then rounds live uri more kept else some (kept, found)

/-- Every round but the last removes an entry that covers the location, so they come to an end. -/
theorem rounds_eq {enough : Nat}
    (h : (listeners.filter (·.covers uri)).length < enough) :
    rounds live uri enough listeners = some (receivers live uri listeners) := by
  induction enough generalizing listeners with
  | zero => exact absurd h (Nat.not_lt_zero _)
  | succ more ih =>
    rw [rounds]
    cases hlongest : longestStem? listeners uri with
    | none => rw [receivers_of_none hlongest]
    | some length =>
      dsimp only
      by_cases hlive : (listeners.any fun l => hits uri length l && live l) = true
      · have hfound : (listeners.filter fun l => hits uri length l && live l).isEmpty = false := by
          rw [List.isEmpty_eq_false_iff, ne_eq, List.filter_eq_nil_iff]
          simpa using hlive
        rw [hfound, receivers_of_live hlongest hlive]
        rfl
      · have hfound : (listeners.filter fun l => hits uri length l && live l).isEmpty = true := by
          rw [List.isEmpty_iff, List.filter_eq_nil_iff]
          simpa using hlive
        have hkept : (listeners.filter fun l => !hits uri length l || live l) =
            withoutHits uri length listeners := by
          refine List.filter_congr fun l hl => ?_
          grind
        have hfewer : ((withoutHits uri length listeners).filter (·.covers uri)).length <
            (listeners.filter (·.covers uri)).length := by
          obtain ⟨⟨l, hl, hcovers, hlength⟩, -⟩ := longestStem?_eq_some_iff.1 hlongest
          rw [withoutHits, List.filter_comm, List.length_filter_lt_length_iff_exists]
          refine ⟨l, List.mem_filter.2 ⟨hl, hcovers⟩, ?_⟩
          rw [hits_iff.2 ⟨hcovers, hlength⟩]
          decide
        rw [hfound, if_pos rfl, hkept, receivers_of_dead hlongest hlive]
        exact ih (by omega)

/-- **A push goes to the longest stem that has a reader.** Let some entries cover the location of a
complete push, and let `longest` be the length in bytes of the longest stem among those that
somebody reads from. Exactly the entries of this length that somebody reads from receive the push,
one copy for each; exactly the covering entries that nobody reads from and that are at least as long
are removed; every other entry stays, in its order. Where nobody reads from any covering entry, all
of them are removed and nothing is sent. The rounds of a delivery come to an end in every table,
with one more round than there are covering entries at the latest. -/
theorem push_takes_longest_live_stem (b : Board) (m : Message) :
    let covering := b.listeners.filter (·.covers m.uri)
    let read := covering.filter b.isLive
    b.deliver m =
      (match (read.map (·.stem.utf8ByteSize)).max? with
      | none => ({ b with listeners := b.listeners.filter fun l => !l.covers m.uri }, [])
      | some longest =>
        ({ b with
            listeners := b.listeners.filter fun l =>
              !(l.covers m.uri && !b.isLive l && longest ≤ l.stem.utf8ByteSize) },
          (read.filter (·.stem.utf8ByteSize = longest)).map fun l => .push l.id m)) ∧
    ∀ live, rounds live m.uri (covering.length + 1) b.listeners =
      some (receivers live m.uri b.listeners) := by
  intro covering read
  refine ⟨?_, fun live => rounds_eq (Nat.lt_succ_self _)⟩
  have hread : ∀ {l}, l ∈ read ↔ (l ∈ b.listeners ∧ l.covers m.uri = true) ∧ b.isLive l = true := by
    intro l
    rw [List.mem_filter, List.mem_filter]
  rw [deliver, receivers_eq]
  cases hlongest : longestStem? (b.listeners.filter b.isLive) m.uri with
  | none =>
    have hnone : read = [] := by
      refine List.eq_nil_iff_forall_not_mem.2 fun l hl => ?_
      obtain ⟨⟨hl, hcovers⟩, hlive⟩ := hread.1 hl
      have huncovered := longestStem?_eq_none_iff.1 hlongest l (List.mem_filter.2 ⟨hl, hlive⟩)
      rw [hcovers] at huncovered
      cases huncovered
    rw [hnone]
    rfl
  | some length =>
    obtain ⟨⟨first, hfirst, hcovers, rfl⟩, hmax⟩ := longestStem?_eq_some_iff.1 hlongest
    obtain ⟨hfirst, hlive⟩ := List.mem_filter.1 hfirst
    have hlonger : (read.map (·.stem.utf8ByteSize)).max? = some first.stem.utf8ByteSize := by
      refine List.max?_eq_some_iff.2 ⟨List.mem_map_of_mem (hread.2 ⟨⟨hfirst, hcovers⟩, hlive⟩), ?_⟩
      intro size hsize
      obtain ⟨l, hl, rfl⟩ := List.mem_map.1 hsize
      obtain ⟨⟨hl, hcovers'⟩, hlive'⟩ := hread.1 hl
      exact (Listener.size_le_iff hcovers' hcovers).2
        (hmax l (List.mem_filter.2 ⟨hl, hlive'⟩) hcovers')
    rw [hlonger]
    -- Among the entries that cover the location, a length in characters is as good as one in bytes.
    have hle : ∀ l : Listener, l.covers m.uri = true →
        (first.stem.length ≤ l.stem.length ↔ first.stem.utf8ByteSize ≤ l.stem.utf8ByteSize) :=
      fun l hl => (Listener.size_le_iff hcovers hl).symm
    have heq : ∀ l : Listener, l.covers m.uri = true →
        (l.stem.length = first.stem.length ↔ l.stem.utf8ByteSize = first.stem.utf8ByteSize) := by
      intro l hl
      have hge := Listener.size_le_iff hl hcovers
      have hle := hle l hl
      omega
    have hkept : (b.listeners.filter fun l => !blocks b.isLive m.uri first.stem.length l) =
        b.listeners.filter fun l => !(l.covers m.uri && !b.isLive l &&
          first.stem.utf8ByteSize ≤ l.stem.utf8ByteSize) := by
      refine List.filter_congr fun l _ => ?_
      cases hl : l.covers m.uri with
      | false => simp [blocks, hl]
      | true => simp [blocks, hl, hle l hl]
    have hfound : (b.listeners.filter fun l => hits m.uri first.stem.length l && b.isLive l) =
        read.filter (·.stem.utf8ByteSize = first.stem.utf8ByteSize) := by
      rw [List.filter_filter, List.filter_filter]
      refine List.filter_congr fun l _ => ?_
      cases hl : l.covers m.uri with
      | false => simp [hits, hl]
      | true => simp [hits, hl, heq l hl, Bool.and_comm]
    dsimp only
    rw [hkept, hfound]

/-- Nobody reads from the longest stem, so it is removed and the next one receives; a longer one that
does not cover the location stays. -/
example :
    receivers (fun l => l.id ≠ 1) "a/b" [⟨0, "a"⟩, ⟨1, "a/"⟩, ⟨1, "a/bc"⟩, ⟨2, "a"⟩] =
      ([⟨0, "a"⟩, ⟨1, "a/bc"⟩, ⟨2, "a"⟩], [⟨0, "a"⟩, ⟨2, "a"⟩]) := by
  simp only [receivers_eq]
  decide

end Board

end MercuryLink
