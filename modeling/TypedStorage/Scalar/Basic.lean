/-
Scalars: the values a column or a bound argument can hold. A scalar has a kind, a literal that stands for it
inside a statement, and a text that names a record when it is a key.
-/
import TypedStorage.Json.Text
import TypedStorage.Time.Text
import TypedStorage.Uuid
import TypedStorage.Text.Bytes

namespace TypedStorage

inductive Scalar where
  | null
  | text (s : String)
  | integer (i : Int64)
  | real (x : Double)
  | boolean (b : Bool)
  | blob (bytes : List UInt8)
  | timestamp (t : Timestamp)
  | uuid (u : Uuid)
  | json (d : Json.Document)

/-- Column names and their values, a row or the fields of a record. -/
abbrev ValueMap := KeyMap Scalar

namespace Scalar

open Text

instance : Inhabited Scalar := ⟨.null⟩

def isNull : Scalar → Bool
  | .null => true
  | _ => false

def kindName : Scalar → String
  | .null => "Null"
  | .text _ => "Text"
  | .integer _ => "Integer"
  | .real _ => "Real"
  | .boolean _ => "Boolean"
  | .blob _ => "Blob"
  | .timestamp _ => "Timestamp"
  | .uuid _ => "Uuid"
  | .json _ => "Json"

/-! ## Literals -/

/-- Text between single quotes, a quote inside it written twice. -/
def quoteChars (cs : List Char) : List Char :=
  '\'' :: (cs.flatMap (fun c => if c = '\'' then ['\'', '\''] else [c]) ++ ['\''])

def quoteLiteral (s : String) : String := String.ofList (quoteChars s.toList)

/-- Bytes as `X'…'` with uppercase digits. -/
def blobLiteral (bytes : List UInt8) : String :=
  String.ofList ('X' :: '\'' :: ((bytes.flatMap hexByte).map Char.toUpper ++ ['\'']))

/-- The scalar as it is written inside a statement. -/
def literal : Scalar → String
  | .null => "NULL"
  | .text s => quoteLiteral s
  | .integer i => intText i.toInt
  | .real x => x.text
  | .boolean b => if b then "1" else "0"
  | .blob bytes => blobLiteral bytes
  | .timestamp t => quoteLiteral t.text
  | .uuid u => quoteLiteral u.text
  | .json d => quoteLiteral d.text

/-- The text that names a record with this key: without quotes where the key has a text of its own. -/
def idText : Scalar → String
  | .text s => s
  | .integer i => intText i.toInt
  | .uuid u => u.text
  | .timestamp t => t.text
  | s => s.literal

end Scalar

end TypedStorage
