/-
The code that a record type stands for: how its records become values, how they are read from rows, and how
its table is defined. Lexemes have one space between them, as printed lexemes have.
-/
import TypedStorage.Record.Basic

namespace TypedStorage.Code

/-! ## Pieces -/

/-- The pieces that are there, with single spaces between them. -/
def join (parts : List String) : String := " ".intercalate (parts.filter (· ≠ ""))

def block (parts : List String) : String := join ("\x7b" :: parts ++ ["\x7d"])

/-- Characters between quotes; NUL is written longer where a digit behind it could be read along. -/
def escape : List Char → List Char
  | [] => []
  | '\x00' :: c :: rest =>
    (if '0' ≤ c ∧ c ≤ '7' then "\\x00".toList else "\\0".toList) ++ escape (c :: rest)
  | c :: rest => Text.quoteChar c ++ escape rest

def literal (s : String) : String := String.ofList ('"' :: (escape s.toList ++ ['"']))

def scalarType : String := ":: store_object :: type_mapping :: ScalarValue"

/-- The scalar of a field of the record at hand. -/
def scalarOf (field : String) : String :=
  scalarType ++ " :: from (:: std :: clone :: Clone :: clone (& self . " ++ field ++ "))"

def function (head result : String) (body : List String) : String := join ["fn", head, "->", result, block body]

def implementation (interface name : String) (body : List String) : String :=
  join ["impl :: store_object ::", interface, "for", name, block body]

/-! ## The three implementations -/

def insertion (f : Field) : String :=
  "values . insert (" ++ literal f.column ++ " . to_string () , " ++ scalarOf f.name ++ " ,) ;"

def mapping (t : RecordType) : String :=
  implementation "RecordMapping" t.name [
    function "table_name ()" "& 'static str" [literal t.table],
    function "primary_key_field ()" "& 'static str" [literal t.key.column],
    function "primary_key_value (& self)" scalarType [scalarOf t.key.name],
    function "field_values (& self)" (":: std :: collections :: HashMap < String , " ++ scalarType ++ " >")
      (("let mut values = :: std :: collections :: HashMap :: with_capacity (" ++ toString t.stored.length ++ "usize) ;")
        :: t.stored.map insertion ++ ["values"])]

def initializer (f : Field) : String :=
  f.name ++ (if f.isStored then " : :: store_object :: read_field (row , " ++ literal f.column ++ ") ? ,"
    else " : :: std :: default :: Default :: default () ,")

def reading (t : RecordType) : String :=
  implementation "FromRecord" t.name [
    function "from_record (row : & :: store_object :: type_mapping :: Record ,)"
      ":: std :: result :: Result < Self , :: store_object :: StoreError >"
      [":: std :: result :: Result :: Ok (Self " ++ block (t.fields.map initializer) ++ ")"]]

def column (f : Field) : String :=
  ". column (" ++ join [
    ":: store_object :: ColumnDefinition :: new (" ++ literal f.column
      ++ " , :: store_object :: type_mapping :: ColumnType :: from_keyword (" ++ literal f.keyword ++ ") ,)",
    if f.isKey then ". primary_key ()" else "",
    if f.isNotNull then ". not_null ()" else "",
    if f.isUnique then ". unique ()" else "",
    match f.default with
    | some e => ". default (" ++ Lexeme.text e ++ ")"
    | none => ""] ++ ")"

def definition (t : RecordType) : String :=
  implementation "RecordSchema" t.name [
    function "table_definition ()" ":: store_object :: TableDefinition"
      ((":: store_object :: TableDefinition :: new (" ++ literal t.table ++ ")") :: t.stored.map column)]

end TypedStorage.Code
