import MercuryLink.Record.Wire
import MercuryLink.Text.Outline

/-!
# Headers of messages

The first part of a message is a header record: where the message belongs, what it holds,
how a request is to be handled or how it went, and further fields of the user. Each field
may be absent. Reading starts from an empty header; a field that occurs again replaces the
earlier value, except that user fields accumulate. A schema gathers what there is to know about
one kind of record; what a record holds is shown cell by cell.
-/

namespace MercuryLink

open Record

/-- A key and a value that travel along with a message. -/
structure UserField where
  /-- The key. -/
  key : Option String
  /-- The value. -/
  value : Option Bytes
  deriving DecidableEq, Repr

namespace UserField

/-- The field with everything absent. -/
def blank : UserField := ⟨none, none⟩

/-- Take one field of the record. A text that cannot be read leaves the empty text, a byte
string that cannot be read leaves the earlier one. -/
def take : TakeField UserField := fun depth f tag wire source =>
  match tag with
  | 1 =>
    store (readText wire source) (fun key => { f with key := some key })
      { f with key := some "" } "UserField" "key"
  | 2 =>
    store (readBlob wire source) (fun value => { f with value := some value })
      { f with value := some (f.value.getD []) } "UserField" "value"
  | _ => skipField depth f tag wire source

/-- The bytes of the record. -/
def encode (f : UserField) : Bytes :=
  optional (textField 1) f.key ++ optional (blobField 2) f.value

end UserField

/-- What one field of a record holds. -/
inductive Cell where
  /-- A text. -/
  | text (value : Option String)
  /-- A byte string. -/
  | blob (value : Option Bytes)
  /-- A number. -/
  | number (value : Option Int32)
  /-- Any number of user fields. -/
  | userFields (fields : List UserField)
  deriving DecidableEq

/-- The cells of a user field, by name. -/
def UserField.cells (f : UserField) : List (String × Cell) :=
  [("key", .text f.key), ("value", .blob f.value)]

/-- The outline of a cell that holds no records. -/
def Cell.plainOutline : Cell → String
  | text value => Text.Outline.option (value.map Text.Outline.text)
  | blob value => Text.Outline.option (value.map Text.Outline.bytes)
  | number value => Text.Outline.option (value.map fun n => Text.Outline.int n.toInt)
  | userFields fields => Text.Outline.nat fields.length

/-- The outline of a user field. -/
def UserField.outline (f : UserField) : String :=
  Text.Outline.record "UserField" (f.cells.map fun (name, cell) => (name, cell.plainOutline))

/-- The outline of a cell. -/
def Cell.outline : Cell → String
  | userFields fields => Text.Outline.list (fields.map UserField.outline)
  | cell => cell.plainOutline

/-- What there is to know about one kind of record. -/
structure Schema (σ : Type) where
  /-- The name of the kind. -/
  name : String
  /-- The record with everything absent. -/
  blank : σ
  /-- How a record takes one field. -/
  take : TakeField σ
  /-- The bytes of a record. -/
  encode : σ → Bytes
  /-- What a record holds, by the names of its fields. -/
  cells : σ → List (String × Cell)

namespace Schema

variable {σ : Type}

/-- Read all bytes as a record. -/
def decode (s : Schema σ) (source : Bytes) : Except DecodeError σ :=
  Record.decode s.take s.blank source

/-- Read a length and a record of that length, whatever follows. -/
def decodePrefixed (s : Schema σ) (source : Bytes) : Except DecodeError σ :=
  Record.decodePrefixed s.take s.blank source

/-- Read all bytes as further fields of a record. -/
def merge (s : Schema σ) (record : σ) (source : Bytes) : σ × Except DecodeError Unit :=
  Record.merge s.take record source

/-- The bytes of a record behind their number. -/
def encodePrefixed (s : Schema σ) (record : σ) : Bytes := delimited (s.encode record)

/-- The outline of a record. -/
def outline (s : Schema σ) (record : σ) : String :=
  Text.Outline.record s.name ((s.cells record).map fun (name, cell) => (name, cell.outline))

end Schema

/-- User fields as a kind of record. -/
def UserField.schema : Schema UserField where
  name := "UserField"
  blank := UserField.blank
  take := UserField.take
  encode := UserField.encode
  cells := UserField.cells

/-- The header of a message. -/
structure Header where
  /-- Where the message belongs. -/
  uri : Option String
  /-- What its parts hold. -/
  contentType : Option String
  /-- The method of a request. -/
  method : Option String
  /-- How a request went. -/
  status : Option Int32
  /-- Further fields, in order. -/
  userFields : List UserField
  deriving DecidableEq

namespace Header

/-- The header with everything absent. -/
def blank : Header := ⟨none, none, none, none, []⟩

/-- Take one field of the record. -/
def take : TakeField Header := fun depth h tag wire source =>
  match tag with
  | 1 =>
    store (readText wire source) (fun uri => { h with uri := some uri })
      { h with uri := some "" } "Header" "uri"
  | 2 =>
    store (readText wire source) (fun contentType => { h with contentType := some contentType })
      { h with contentType := some "" } "Header" "content_type"
  | 3 =>
    store (readText wire source) (fun method => { h with method := some method })
      { h with method := some "" } "Header" "method"
  | 4 =>
    store (readNumber wire source) (fun n => { h with status := some (ofZigzag n) })
      { h with status := some (h.status.getD 0) } "Header" "status_code"
  | 6 =>
    if wire ≠ .delimited then
      (h, .error ⟨[("Header", "user_fields")], .mismatch wire .delimited⟩)
    else
      match readNested UserField.take depth UserField.blank source with
      | (f, .ok rest) => ({ h with userFields := h.userFields ++ [f] }, .ok rest)
      | (_, .error e) => (h, .error (e.within "Header" "user_fields"))
  | _ => skipField depth h tag wire source

/-- The bytes of the record, fields in the order of their numbers. -/
def encode (h : Header) : Bytes :=
  optional (textField 1) h.uri ++ optional (textField 2) h.contentType
    ++ optional (textField 3) h.method
    ++ optional (fun status => numberField 4 (zigzag status)) h.status
    ++ h.userFields.flatMap (fun f => blobField 6 f.encode)

/-- Headers as a kind of record. -/
def schema : Schema Header where
  name := "Header"
  blank
  take
  encode
  cells h :=
    [("uri", .text h.uri), ("content_type", .text h.contentType), ("method", .text h.method),
      ("status_code", .number h.status), ("user_fields", .userFields h.userFields)]

/-- Read a header. -/
def decode (source : Bytes) : Except DecodeError Header := schema.decode source

end Header

/-- One acknowledged subscription. -/
structure Subscription where
  /-- The subscribed location. -/
  uri : Option String
  /-- How long the subscription holds. -/
  expiry : Option Int32
  /-- How the subscription went. -/
  status : Option Int32
  deriving DecidableEq

namespace Subscription

/-- The subscription with everything absent. -/
def blank : Subscription := ⟨none, none, none⟩

/-- Take one field of the record. -/
def take : TakeField Subscription := fun depth s tag wire source =>
  match tag with
  | 1 =>
    store (readText wire source) (fun uri => { s with uri := some uri })
      { s with uri := some "" } "Subscription" "uri"
  | 2 =>
    store (readNumber wire source) (fun n => { s with expiry := some (ofLowBits n) })
      { s with expiry := some (s.expiry.getD 0) } "Subscription" "expiry"
  | 3 =>
    store (readNumber wire source) (fun n => { s with status := some (ofLowBits n) })
      { s with status := some (s.status.getD 0) } "Subscription" "status_code"
  | _ => skipField depth s tag wire source

/-- The bytes of the record, fields in the order of their numbers. -/
def encode (s : Subscription) : Bytes :=
  optional (textField 1) s.uri
    ++ optional (fun n => numberField 2 (signExtend n)) s.expiry
    ++ optional (fun n => numberField 3 (signExtend n)) s.status

/-- Subscriptions as a kind of record. -/
def schema : Schema Subscription where
  name := "Subscription"
  blank
  take
  encode
  cells s := [("uri", .text s.uri), ("expiry", .number s.expiry), ("status_code", .number s.status)]

/-- Read a subscription. -/
def decode (source : Bytes) : Except DecodeError Subscription := schema.decode source

end Subscription

end MercuryLink
