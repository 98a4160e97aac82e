import MercuryLink.Record.Wire

/-!
# Reading fields that were written

What was written reads back in front of any bytes. For a single value this is one lemma for each
reader. For the fields of a record it is the relation `Reads`: some bytes take a record from one
value to another, field by field. Whoever writes a record shows that its bytes read in this sense;
the loop over the fields, the length in front of a nested record and the end of the bytes are dealt
with here once.
-/

namespace MercuryLink.Record

section Values

variable {source rest : Bytes}

/-- A number that was written is read. -/
theorem readVarint_encode {n : Nat} (h : n < UInt64.size)
    (hsource : source = Varint.encode n ++ rest) :
    ∃ hrest, readVarint source = .ok (n, ⟨rest, hrest⟩) := by
  have hn : Varint.decode? source = some (n, rest) := by
    rw [hsource]
    exact Varint.decode?_encode rest h
  rw [readVarint]
  split
  · next hread =>
    rw [hn] at hread
    cases hread
    exact ⟨Varint.length_lt_of_decode? hn, rfl⟩
  · next hread =>
    rw [hn] at hread
    cases hread

/-- The bytes in front are read. -/
theorem readBytes_append {n : Nat} {front : Bytes} (hlength : front.length = n)
    (hsource : source = front ++ rest) :
    ∃ hrest, readBytes n source = .ok (front, ⟨rest, hrest⟩) := by
  have hcut : Bytes.split? n source = some (front, rest) :=
    Bytes.split?_eq_some_iff.2 ⟨hsource, hlength⟩
  rw [readBytes]
  split
  · next hread =>
    rw [hcut] at hread
    cases hread
    exact ⟨by rw [hsource]; simp, rfl⟩
  · next hread =>
    rw [hcut] at hread
    cases hread

/-- Bytes behind their length are read. -/
theorem readDelimited_delimited {front : Bytes} (h : front.length < UInt64.size)
    (hsource : source = delimited front ++ rest) :
    ∃ hrest, readDelimited source = .ok (front, ⟨rest, hrest⟩) := by
  rw [delimited, List.append_assoc] at hsource
  obtain ⟨hfront, hlength⟩ := readVarint_encode h hsource
  have hfound : ∃ hrest, readBytes front.length (front ++ rest) = .ok (front, ⟨rest, hrest⟩) :=
    readBytes_append rfl rfl
  obtain ⟨hrest, hbytes⟩ := hfound
  refine ⟨Nat.le_trans hrest (Nat.le_of_lt hfront), ?_⟩
  rw [readDelimited, hlength]
  simp only [hbytes]

/-- The value of a text field is read. -/
theorem readText_delimited {s : String} (h : (Text.Utf8.encode s).length < UInt64.size)
    (hsource : source = delimited (Text.Utf8.encode s) ++ rest) :
    ∃ hrest, readText .delimited source = .ok (s, ⟨rest, hrest⟩) := by
  obtain ⟨hrest, hread⟩ := readDelimited_delimited h hsource
  exact ⟨hrest, by simp [readText, hread]⟩

/-- The value of a byte string field is read. -/
theorem readBlob_delimited {bs : Bytes} (h : bs.length < UInt64.size)
    (hsource : source = delimited bs ++ rest) :
    ∃ hrest, readBlob .delimited source = .ok (bs, ⟨rest, hrest⟩) := by
  obtain ⟨hrest, hread⟩ := readDelimited_delimited h hsource
  exact ⟨hrest, by simp [readBlob, hread]⟩

/-- The value of a number field is read. -/
theorem readNumber_encode {n : Nat} (h : n < UInt64.size)
    (hsource : source = Varint.encode n ++ rest) :
    ∃ hrest, readNumber .varint source = .ok (n, ⟨rest, hrest⟩) := by
  obtain ⟨hrest, hread⟩ := readVarint_encode h hsource
  exact ⟨Nat.le_of_lt hrest, by simp [readNumber, hread]⟩

/-- The key of a field is read. -/
theorem readKey_key {tag : Nat} {wire : WireType} (hpositive : 0 < tag)
    (hsmall : 8 * tag + wire.toNat < UInt32.size) (hsource : source = key tag wire ++ rest) :
    ∃ hrest, readKey source = .ok (tag, wire, ⟨rest, hrest⟩) := by
  have hwire : wire.toNat < 8 := by cases wire <;> decide
  have hroom : UInt32.size < UInt64.size := by decide
  obtain ⟨hrest, hread⟩ := readVarint_encode (Nat.lt_trans hsmall hroom) hsource
  have hcode : (8 * tag + wire.toNat) % 8 = wire.toNat := by omega
  have hnumber : (8 * tag + wire.toNat) / 8 = tag := by omega
  refine ⟨hrest, ?_⟩
  rw [readKey, hread]
  simp only [hcode, hnumber, WireType.ofNat?_toNat]
  rw [if_neg (Nat.not_le.2 hsmall), if_neg (Nat.pos_iff_ne_zero.1 hpositive)]

end Values

/-! ### Fields -/

/-- Some bytes take a record from one value to another, field by field, whatever follows them. -/
inductive Reads {σ : Type} (take : TakeField σ) (depth : Nat) : σ → Bytes → σ → Prop where
  /-- No bytes leave the record as it is. -/
  | nil (record : σ) : Reads take depth record [] record
  /-- A field is taken, and then the others. -/
  | cons {record record' record'' : σ} {tag : Nat} {wire : WireType} {value more : Bytes}
    (positive : 0 < tag) (small : 8 * tag + wire.toNat < UInt32.size)
    (taken : ∀ source rest, source = value ++ rest →
      ∃ hrest, take depth record tag wire source = (record', .ok ⟨rest, hrest⟩))
    (later : Reads take depth record' more record'') :
    Reads take depth record (key tag wire ++ value ++ more) record''

/-- What a field holds is no longer than the field. -/
theorem length_lt_of_blobField {tag n : Nat} {bs : Bytes} (h : (blobField tag bs).length < n) :
    bs.length < n := by
  simp only [blobField, delimited, List.length_append] at h
  omega

section Reads

variable {σ : Type} {take : TakeField σ} {depth : Nat}

/-- A single field reads if its value is taken. -/
theorem Reads.field {record record' : σ} {tag : Nat} {wire : WireType} {value : Bytes}
    (positive : 0 < tag) (small : 8 * tag + wire.toNat < UInt32.size)
    (taken : ∀ source rest, source = value ++ rest →
      ∃ hrest, take depth record tag wire source = (record', .ok ⟨rest, hrest⟩)) :
    Reads take depth record (key tag wire ++ value) record' := by
  rw [← List.append_nil (key tag wire ++ value)]
  exact .cons positive small taken (.nil record')

/-- Fields read one after the other. -/
theorem Reads.append {record record' record'' : σ} {bs more : Bytes}
    (h : Reads take depth record bs record') (h' : Reads take depth record' more record'') :
    Reads take depth record (bs ++ more) record'' := by
  induction h with
  | nil => exact h'
  | cons positive small taken _ ih =>
    rw [List.append_assoc]
    exact .cons positive small taken (ih h')

/-- An optional field reads if it does where it is present; where it is absent nothing changes. -/
theorem Reads.optional {α : Type} {write : α → Bytes} {o : Option α} {record record' : σ} {n : Nat}
    (hlength : (Record.optional write o).length < n) (absent : o = none → record = record')
    (present : ∀ value, o = some value → (write value).length < n →
      Reads take depth record (write value) record') :
    Reads take depth record (Record.optional write o) record' := by
  cases o with
  | none =>
    rw [absent rfl]
    exact .nil record'
  | some value => exact present value rfl hlength

section Store

variable {record broken : σ} {name field : String} {tag : Nat}

/-- A byte string field reads where the record stores what it holds. -/
theorem Reads.blob (keep : Bytes → σ) {bs : Bytes} (positive : 0 < tag)
    (small : 8 * tag + 2 < UInt32.size) (h : (blobField tag bs).length < UInt64.size)
    (hstore : ∀ source, take depth record tag .delimited source =
      store (readBlob .delimited source) keep broken name field) :
    Reads take depth record (blobField tag bs) (keep bs) := by
  refine .field positive small ?_
  intro source rest hsource
  obtain ⟨hrest, hread⟩ := readBlob_delimited (length_lt_of_blobField h) hsource
  exact ⟨hrest, by rw [hstore, hread, store]⟩

/-- A text field reads where the record stores what it holds. -/
theorem Reads.text (keep : String → σ) {s : String} (positive : 0 < tag)
    (small : 8 * tag + 2 < UInt32.size) (h : (textField tag s).length < UInt64.size)
    (hstore : ∀ source, take depth record tag .delimited source =
      store (readText .delimited source) keep broken name field) :
    Reads take depth record (textField tag s) (keep s) := by
  refine .field positive small ?_
  intro source rest hsource
  obtain ⟨hrest, hread⟩ := readText_delimited (length_lt_of_blobField h) hsource
  exact ⟨hrest, by rw [hstore, hread, store]⟩

/-- An optional text field reads where the record stores what it holds. -/
theorem Reads.optionalText (put : Option String → σ) {o : Option String} (positive : 0 < tag)
    (small : 8 * tag + 2 < UInt32.size)
    (h : (Record.optional (textField tag) o).length < UInt64.size)
    (hstore : ∀ source, take depth (put none) tag .delimited source =
      store (readText .delimited source) (fun s => put (some s)) broken name field) :
    Reads take depth (put none) (Record.optional (textField tag) o) (put o) := by
  refine .optional h (by rintro rfl; rfl) ?_
  rintro s rfl hs
  exact .text (fun s => put (some s)) positive small hs hstore

/-- A number field reads where the record stores what it holds. -/
theorem Reads.number (keep : Nat → σ) {n : Nat} (positive : 0 < tag)
    (small : 8 * tag < UInt32.size) (h : n < UInt64.size)
    (hstore : ∀ source, take depth record tag .varint source =
      store (readNumber .varint source) keep broken name field) :
    Reads take depth record (numberField tag n) (keep n) := by
  refine .field positive small ?_
  intro source rest hsource
  obtain ⟨hrest, hread⟩ := readNumber_encode h hsource
  exact ⟨hrest, by rw [hstore, hread, store]⟩

end Store

/-- The loop over the fields takes what reads, and goes on behind it. -/
theorem Reads.readFields {record record' : σ} {bs : Bytes} (h : Reads take depth record bs record')
    {limit : Nat} {origin rest : Bytes} (hlimit : limit ≤ rest.length) {source : Left origin}
    (hsource : source.1 = bs ++ rest) :
    ∃ hrest, Record.readFields take depth limit origin record source =
      Record.readFields take depth limit origin record' ⟨rest, hrest⟩ := by
  induction h generalizing source with
  | nil record =>
    obtain ⟨bytes, hbytes⟩ := source
    cases hsource
    exact ⟨hbytes, rfl⟩
  | @cons record record' record'' tag wire value more positive small taken later ih =>
    have hsplit : source.1 = key tag wire ++ (value ++ (more ++ rest)) := by
      rw [hsource]
      simp only [List.append_assoc]
    obtain ⟨hkey, hreadKey⟩ := readKey_key positive small hsplit
    obtain ⟨hvalue, htake⟩ := taken (value ++ (more ++ rest)) (more ++ rest) rfl
    have hkeep : (more ++ rest).length ≤ origin.length := by
      have := source.2
      omega
    -- A field has a key, so the limit is not reached in front of it.
    have hmore : ¬ source.1.length ≤ limit := by
      simp only [List.length_append] at hkey
      omega
    obtain ⟨hrest, hlater⟩ := @ih ⟨more ++ rest, hkeep⟩ rfl
    refine ⟨hrest, ?_⟩
    rw [Record.readFields, if_neg hmore, hreadKey]
    simp only [htake]
    exact hlater

/-- The loop over the fields ends where the limit is reached. -/
theorem readFields_at_limit (take : TakeField σ) (depth : Nat) {limit : Nat} (record : σ)
    {origin : Bytes} (rest : Left origin) (h : rest.1.length ≤ limit) :
    Record.readFields take depth limit origin record rest = (record, .ok rest) := by
  rw [Record.readFields, if_pos h]

/-- A whole byte string that reads is decoded. -/
theorem Reads.decode {blank record : σ} {bs : Bytes}
    (h : Reads take depthLimit blank bs record) : Record.decode take blank bs = .ok record := by
  have hsource : (⟨bs, Nat.le_refl _⟩ : Left bs).1 = bs ++ [] := (List.append_nil bs).symm
  obtain ⟨hrest, hloop⟩ := h.readFields (Nat.zero_le _) hsource
  have hend := readFields_at_limit take depthLimit record ⟨[], hrest⟩ (Nat.zero_le 0)
  rw [Record.decode, merge, hloop, hend]
  rfl

/-- A nested record that reads is taken from behind its length, one level deeper. -/
theorem Reads.nested {record record' : σ} {bs : Bytes}
    (h : Reads take depth record bs record') (hlength : bs.length < UInt64.size)
    {source rest : Bytes} (hsource : source = delimited bs ++ rest) :
    ∃ hrest, readNested take (depth + 1) record source = (record', .ok ⟨rest, hrest⟩) := by
  rw [delimited, List.append_assoc] at hsource
  obtain ⟨hread, hreadVarint⟩ := readVarint_encode hlength hsource
  have hlimit : (bs ++ rest).length - bs.length = rest.length := by
    rw [List.length_append, Nat.add_sub_cancel_left]
  have hfits : ¬ bs.length > (bs ++ rest).length := by
    rw [List.length_append]
    omega
  have hwhole : (⟨bs ++ rest, Nat.le_refl _⟩ : Left (bs ++ rest)).1 = bs ++ rest := rfl
  obtain ⟨hrest, hloop⟩ := h.readFields (Nat.le_refl rest.length) hwhole
  have hend := readFields_at_limit take depth record' ⟨rest, hrest⟩ (Nat.le_refl rest.length)
  refine ⟨Nat.le_trans hrest (Nat.le_of_lt hread), ?_⟩
  rw [readNested, if_neg (Nat.succ_ne_zero depth), hreadVarint]
  simp only [hlimit, Nat.add_sub_cancel, if_neg hfits, hloop, hend, if_true]

end Reads

/-! ### Signed numbers -/

/-- A signed number takes 32 bits with its sign in the lowest. -/
theorem zigzag_lt (i : Int32) : zigzag i < UInt32.size := by
  have hlow : -2 ^ 31 ≤ i.toInt := i.le_toInt
  have hhigh : i.toInt < 2 ^ 31 := i.toInt_lt
  have hsize : UInt32.size = 2 ^ 32 := rfl
  rw [zigzag]
  split
  · omega
  · omega

/-- A signed number reads back from the form with its sign in the lowest bit. -/
theorem ofZigzag_zigzag (i : Int32) : ofZigzag (zigzag i) = i := by
  have hlow : -2 ^ 31 ≤ i.toInt := i.le_toInt
  have hhigh : i.toInt < 2 ^ 31 := i.toInt_lt
  have hback : Int32.ofInt i.toInt = i := Int32.ofInt_toInt i
  rw [ofZigzag, Nat.mod_eq_of_lt (zigzag_lt i), zigzag]
  by_cases hneg : i.toInt < 0
  · rw [if_pos hneg]
    have hodd : (-2 * i.toInt - 1).toNat % 2 ≠ 0 := by omega
    have hhalf : (-(((-2 * i.toInt - 1).toNat / 2 : Nat) : Int) - 1) = i.toInt := by omega
    simp only [if_neg hodd, hhalf, hback]
  · rw [if_neg hneg]
    have heven : (2 * i.toInt).toNat % 2 = 0 := by omega
    have hhalf : (((2 * i.toInt).toNat / 2 : Nat) : Int) = i.toInt := by omega
    simp only [if_pos heven, hhalf, hback]

end MercuryLink.Record
