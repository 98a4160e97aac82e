import MercuryLink.Mercury.Packet

/-!
# Tables by sequence id

A table holds at most one entry for each sequence id, in order of insertion. The statements
say what a look-up finds after each operation.
-/

namespace MercuryLink

/-- Entries by sequence id. -/
abbrev Table (ν : Type) := List (SequenceId × ν)

namespace Table

variable {ν : Type}

/-- The entry of an id. -/
def get? (t : Table ν) (id : SequenceId) : Option ν := (t.find? (·.1 = id)).map (·.2)

/-- Remove the entry of an id. -/
def erase (t : Table ν) (id : SequenceId) : Table ν := t.filter (·.1 ≠ id)

/-- Add an entry, in the place of an earlier one of the same id. -/
def insert (t : Table ν) (id : SequenceId) (value : ν) : Table ν := t.erase id ++ [(id, value)]

/-- Change the entry of an id where it stands. -/
def modify (t : Table ν) (id : SequenceId) (f : ν → ν) : Table ν :=
  t.map fun entry => if entry.1 = id then (entry.1, f entry.2) else entry

@[simp] theorem get?_nil (id : SequenceId) : get? ([] : Table ν) id = none := rfl

@[simp] theorem get?_erase_self (t : Table ν) (id : SequenceId) : (t.erase id).get? id = none := by
  simp [get?, erase]

/-- What a look-up finds is in the table. -/
theorem mem_of_get? {t : Table ν} {id : SequenceId} {value : ν} (h : t.get? id = some value) :
    (id, value) ∈ t := by
  simp only [get?, Option.map_eq_some_iff] at h
  obtain ⟨entry, hfind, rfl⟩ := h
  have hid : entry.1 = id := by simpa using List.find?_some hfind
  rw [← hid]
  exact List.mem_of_find?_eq_some hfind

/-- A look-up finds nothing exactly if no entry has the id. -/
theorem get?_eq_none_iff {t : Table ν} {id : SequenceId} :
    t.get? id = none ↔ ∀ entry ∈ t, entry.1 ≠ id := by
  simp [get?]

/-- Removing an absent id changes nothing. -/
theorem erase_eq_self {t : Table ν} {id : SequenceId} (h : t.get? id = none) : t.erase id = t := by
  rw [erase, List.filter_eq_self]
  intro entry hmem
  simpa using get?_eq_none_iff.1 h entry hmem

/-- Removing an entry leaves the others. -/
theorem get?_erase_of_ne (t : Table ν) {id other : SequenceId} (h : other ≠ id) :
    (t.erase id).get? other = t.get? other := by
  simp only [get?, erase, List.find?_filter]
  congr 1
  apply congrArg (List.find? · t)
  funext entry
  by_cases he : entry.1 = other
  · simp [he, h]
  · simp [he]

@[simp] theorem get?_insert_self (t : Table ν) (id : SequenceId) (value : ν) :
    (t.insert id value).get? id = some value := by
  have h : (t.erase id).find? (·.1 = id) = none := by simp [erase]
  simp only [get?, insert, List.find?_append, h, Option.none_or]
  simp

/-- Adding an entry leaves the others. -/
theorem get?_insert_of_ne (t : Table ν) {id other : SequenceId} (value : ν) (h : other ≠ id) :
    (t.insert id value).get? other = t.get? other := by
  rw [← get?_erase_of_ne t h]
  simp only [get?, insert, List.find?_append]
  have : [(id, value)].find? (·.1 = other) = none := by simp [Ne.symm h]
  rw [this, Option.or_none]

/-- Adding an entry under an absent id and removing it again changes nothing. -/
theorem erase_insert {t : Table ν} {id : SequenceId} (value : ν) (h : t.get? id = none) :
    (t.insert id value).erase id = t := by
  have hself : List.filter (fun entry => decide (entry.1 ≠ id)) t = t := erase_eq_self h
  rw [insert, erase_eq_self h, erase, List.filter_append, hself]
  simp

/-- Adding an entry under an absent id puts it behind the others. -/
theorem insert_of_get?_eq_none {t : Table ν} {id : SequenceId} (value : ν)
    (h : t.get? id = none) : t.insert id value = t ++ [(id, value)] := by
  rw [insert, erase_eq_self h]

@[simp] theorem get?_modify_self (t : Table ν) (id : SequenceId) (f : ν → ν) :
    (t.modify id f).get? id = (t.get? id).map f := by
  induction t with
  | nil => rfl
  | cons entry t ih =>
    simp only [get?, modify, List.map_cons, List.find?_cons] at ih ⊢
    by_cases he : entry.1 = id
    · simp [he]
    · simpa [he] using ih

/-- Changing an entry leaves the others. -/
theorem get?_modify_of_ne (t : Table ν) {id other : SequenceId} (f : ν → ν) (h : other ≠ id) :
    (t.modify id f).get? other = t.get? other := by
  induction t with
  | nil => rfl
  | cons entry t ih =>
    simp only [get?, modify, List.map_cons, List.find?_cons] at ih ⊢
    by_cases he : entry.1 = id
    · simpa [he, Ne.symm h] using ih
    · by_cases ho : entry.1 = other
      · simp [ho, h]
      · simpa [he, ho] using ih

/-- Every id has at most one entry. -/
def Distinct (t : Table ν) : Prop := (t.map (·.1)).Nodup

/-- Where ids are distinct, a look-up finds every entry. -/
theorem Distinct.get?_eq_some_iff {t : Table ν} (ht : t.Distinct) {id : SequenceId} {value : ν} :
    t.get? id = some value ↔ (id, value) ∈ t := by
  refine ⟨mem_of_get?, ?_⟩
  intro hmem
  induction t with
  | nil => simp at hmem
  | cons entry t ih =>
    simp only [Distinct, List.map_cons, List.nodup_cons] at ht
    simp only [get?, List.find?_cons]
    rcases List.mem_cons.1 hmem with rfl | hlater
    · simp
    · have hne : entry.1 ≠ id := by
        intro he
        exact ht.1 (List.mem_map.2 ⟨(id, value), hlater, he.symm⟩)
      simpa [hne, get?] using ih ht.2 hlater

/-- Where ids are distinct, the entry found is the only one of its id. -/
theorem Distinct.filter_eq_singleton {t : Table ν} (ht : t.Distinct) {id : SequenceId} {value : ν}
    (h : t.get? id = some value) : t.filter (fun entry => entry.1 = id) = [(id, value)] := by
  induction t with
  | nil => simp at h
  | cons entry t ih =>
    simp only [Distinct, List.map_cons, List.nodup_cons] at ht
    by_cases he : entry.1 = id
    · have hvalue : entry.2 = value := by simpa [get?, he] using h
      have hlater : t.filter (fun entry => entry.1 = id) = [] := by
        rw [List.filter_eq_nil_iff]
        intro other hmem
        have hne : other.1 ≠ entry.1 := fun ho => ht.1 (List.mem_map.2 ⟨other, hmem, ho⟩)
        simpa [← he] using hne
      rw [List.filter_cons_of_pos (by simpa using he), hlater, ← he, ← hvalue]
    · have hfind : get? t id = some value := by simpa [get?, he] using h
      rw [List.filter_cons_of_neg (by simpa using he)]
      exact ih ht.2 hfind

end Table

end MercuryLink
