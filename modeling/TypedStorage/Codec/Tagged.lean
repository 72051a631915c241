/-
Tagged values: how a preference is kept as bytes. Four letters say the kind, the rest is text in the form
the kind has: strings as they are, bytes and JSON in base64, numbers, booleans and instants in their plain
text. Reading asks for a kind and refuses bytes with another tag.
-/
import TypedStorage.Base64
import TypedStorage.Scalar.Basic
import TypedStorage.Json.Source

namespace TypedStorage

inductive ValueKind where
  | string | bytes | int | double | bool | date | json
  deriving DecidableEq

inductive Tagged where
  | string (s : String)
  | bytes (b : List UInt8)
  | int (i : Int64)
  | double (x : Double)
  | bool (b : Bool)
  | date (t : Timestamp)
  | json (d : Json.Document)

namespace ValueKind

def all : List ValueKind := [.string, .bytes, .int, .double, .bool, .date, .json]

def name : ValueKind → String
  | .string => "String"
  | .bytes => "Bytes"
  | .int => "Int"
  | .double => "Double"
  | .bool => "Bool"
  | .date => "Date"
  | .json => "Json"

/-- The four letters in front of every value of the kind. -/
def tag : ValueKind → String
  | .string => "STR:"
  | .bytes => "BIN:"
  | .int => "INT:"
  | .double => "DBL:"
  | .bool => "BOO:"
  | .date => "DAT:"
  | .json => "JSN:"

def tagBytes (k : ValueKind) : List UInt8 := Text.utf8Bytes k.tag

/-- The kind that stored bytes claim to be. -/
def ofEncoded? (stored : List UInt8) : Option ValueKind := all.find? fun k => k.tagBytes = stored.take 4

end ValueKind

namespace Tagged

open Text

def kind : Tagged → ValueKind
  | .string _ => .string
  | .bytes _ => .bytes
  | .int _ => .int
  | .double _ => .double
  | .bool _ => .bool
  | .date _ => .date
  | .json _ => .json

/-- The text after the tag. -/
def payload : Tagged → String
  | .string s => s
  | .bytes b => Base64.text b
  | .int i => intText i.toInt
  | .double x => x.text
  | .bool b => if b then "true" else "false"
  | .date t => t.text
  | .json d => Base64.text (utf8Bytes d.text)

def encode (v : Tagged) : List UInt8 := v.kind.tagBytes ++ utf8Bytes v.payload

/-- An integer of 64 bits, with or without a sign. -/
def readInt64? (s : String) : Option Int64 :=
  (readInt? s.toList).bind fun i => if -0x8000000000000000 ≤ i ∧ i < 0x8000000000000000 then some (Int64.ofInt i) else none

/-- The value of the kind that a payload is the text of. -/
def ofPayload? (k : ValueKind) (s : String) : Option Tagged :=
  match k with
  | .string => some (.string s)
  | .bytes => (Base64.ofText? s).map .bytes
  | .int => (readInt64? s).map .int
  | .double => (Double.ofText? s).map .double
  | .bool => if s = "true" then some (.bool true) else if s = "false" then some (.bool false) else none
  | .date => (Timestamp.ofText? s).map .date
  | .json => do
    let raw ← Base64.ofText? s
    let t ← ofUtf8? raw
    let d ← Json.Document.ofText? t
    return .json d

/-- The value of the wanted kind that the bytes store. -/
def decode? (stored : List UInt8) (k : ValueKind) : Option Tagged :=
  if stored.take 4 = k.tagBytes then (ofUtf8? (stored.drop 4)).bind (ofPayload? k) else none

end Tagged

end TypedStorage
