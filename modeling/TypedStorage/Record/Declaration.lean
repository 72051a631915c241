/-
Record declarations: a name, a shape, attributes, and fields with attributes of their own. The attribute
`table` names the table; `primary_key` marks the key; `column` says what differs from what the field's name
and type say. Attributes with other names mean nothing here. Arguments are looked at one after the other, and
of two that say the same the later one counts.
-/
import TypedStorage.Record.Lexeme
import TypedStorage.Schema.Table

namespace TypedStorage

/-- What the arguments of an attribute are: a word, maybe with the text of a value. -/
structure Argument where
  key : String
  value : Option String

structure Attribute where
  name : String
  /-- Nothing where the attribute has no parentheses. -/
  arguments : Option (List Argument)

inductive Shape where
  | namedFields | tuple | unit | enumeration | union
  deriving DecidableEq

structure FieldDeclaration where
  name : String
  typeName : String
  attributes : List Attribute

structure Declaration where
  name : String
  shape : Shape
  attributes : List Attribute
  fields : List FieldDeclaration

inductive DeclarationError where
  | noTable
  | tableName (name : String) (fault : NameFault)
  | noNamedFields
  | keySkipped
  | fieldName (name : String) (fault : NameFault)
  | fieldType (typeName : String)
  | keyCount (count : Nat)
  | unknownTableKey
  | unknownColumnKey
  | noEquals
  | noString
  | noExpression
  | noComma
  | noParentheses (name : String)
  deriving DecidableEq

namespace DeclarationError

def faultText (name : String) : NameFault → String
  | .empty => "Name cannot be empty"
  | .tooLong length =>
    "Name '" ++ name ++ "' is too long: " ++ toString length ++ " characters (max " ++ toString Identifier.maxLength ++ ")"
  | .badStart => "Name '" ++ name ++ "' must start with a letter or underscore"
  | .badCharacter =>
    "Name '" ++ name ++ "' contains invalid characters: only alphanumeric characters and underscores are allowed"
  | .reserved => "Name '" ++ name ++ "' is a reserved SQL keyword"

def message : DeclarationError → String
  | .noTable => "table attribute is required: add #[table(name = \"table_name\")] to your struct"
  | .tableName name fault => "Invalid table name '" ++ name ++ "': " ++ faultText name fault
  | .noNamedFields => "Record can only be derived for structs with named fields"
  | .keySkipped => "the primary key cannot be skipped"
  | .fieldName name fault => "Invalid field name '" ++ name ++ "': " ++ faultText name fault
  | .fieldType typeName =>
    "field type '" ++ typeName ++ "' has no scalar mapping; use String, i32, i64, f64, bool, Vec<u8>, Uuid, DateTime<Utc>, serde_json::Value or an Option of these"
  | .keyCount count => "Record requires exactly one #[primary_key] field, found " ++ toString count
  | .unknownTableKey => "unsupported table attribute, expected `name`"
  | .unknownColumnKey =>
    "unsupported column attribute, expected one of `name`, `type`, `default`, `unique`, `not_null`, `skip`"
  | .noEquals => "expected `=`"
  | .noString => "expected string literal"
  | .noExpression => "unexpected end of input, expected an expression"
  | .noComma => "expected `,`"
  | .noParentheses name => "expected attribute arguments in parentheses: #[" ++ name ++ "(...)]"

end DeclarationError

namespace Argument

/-- The argument holds nothing but its word. -/
def flag (a : Argument) : Except DeclarationError Unit :=
  match a.value with
  | none => .ok ()
  | some _ => .error .noComma

def expression (a : Argument) : Except DeclarationError Expression :=
  match a.value.map Lexeme.ofText with
  | none => .error .noEquals
  | some [] => .error .noExpression
  | some e => .ok e

/-- The text of the string literal that the argument holds. -/
def string (a : Argument) : Except DeclarationError String :=
  match a.value.map Lexeme.ofText with
  | none => .error .noEquals
  | some [] => .error .noString
  | some (l :: rest) =>
    match l.stringValue? with
    | none => .error .noString
    | some s => if rest.isEmpty then .ok s else .error .noComma

end Argument

/-- The arguments of the attributes with this name, in order; each must have parentheses when it is its turn. -/
def foldArguments {σ : Type} (name : String) (step : σ → Argument → Except DeclarationError σ) :
    σ → List Attribute → Except DeclarationError σ
  | s, [] => .ok s
  | s, a :: rest =>
    if a.name ≠ name then foldArguments name step s rest
    else match a.arguments with
      | none => .error (.noParentheses name)
      | some args => (args.foldlM step s).bind fun s => foldArguments name step s rest

namespace Declaration

/-- The words that a declaration may not take for names, in capitals. -/
def reservedWords : List String := [
  "ALL", "ALTER", "AND", "AS", "BETWEEN", "BY", "CASE", "CHECK", "COLLATE", "COLUMN", "CONFLICT",
  "CONSTRAINT", "CREATE", "DEFAULT", "DELETE", "DISTINCT", "DROP", "ELSE", "END", "ESCAPE", "EXCEPT",
  "EXISTS", "FOREIGN", "FROM", "GROUP", "HAVING", "IN", "INDEX", "INSERT", "INTERSECT", "INTO", "IS",
  "JOIN", "KEY", "LIKE", "LIMIT", "NOT", "NOTHING", "NULL", "OFFSET", "ON", "OR", "ORDER", "PRIMARY",
  "REFERENCES", "RETURNING", "SELECT", "SET", "TABLE", "THEN", "TO", "TRANSACTION", "UNION", "UNIQUE",
  "UPDATE", "USING", "VALUES", "WHEN", "WHERE", "WITH"]

def isReserved (name : String) : Bool := reservedWords.contains (Identifier.upper name)

/-- The first fault of a name in a declaration, by a check of its own: there is no table yet that could be checked. -/
def nameFault? (name : String) : Option NameFault :=
  if name = "" then some .empty
  else if 63 < name.utf8ByteSize then some (.tooLong name.utf8ByteSize)
  else if !name.toList.head?.any Identifier.isStart then some .badStart
  else if !name.toList.all Identifier.isPart then some .badCharacter
  else if isReserved name then some .reserved
  else none

/-- It is the fault that the name has in a table. -/
theorem nameFault?_eq (name : String) : nameFault? name = Identifier.fault? name := by
  rw [nameFault?, Identifier.fault?]
  cases hn : name.toList with
  | nil => rw [if_pos (by simpa using hn)]
  | cons c cs =>
    have hne : name ≠ "" := by
      rintro rfl
      cases hn
    rw [if_neg hne]
    rfl

def tableStep (_ : Option String) (a : Argument) : Except DeclarationError (Option String) :=
  if a.key = "name" then a.string.map some else .error .unknownTableKey

/-- The name of the table that the declaration's attributes give, where it may be one. -/
def table (d : Declaration) : Except DeclarationError { name : String // Identifier.fault? name = none } :=
  match foldArguments "table" tableStep none d.attributes with
  | .error e => .error e
  | .ok none => .error .noTable
  | .ok (some name) =>
    match h : nameFault? name with
    | some fault => .error (.tableName name fault)
    | none => .ok ⟨name, nameFault?_eq name ▸ h⟩

end Declaration

/-- What the attributes of a field say of its column. -/
structure ColumnSettings where
  column : String
  keyword : String
  isNotNull : Bool
  isUnique : Bool
  default : Option Expression
  isSkipped : Bool

namespace FieldDeclaration

def isKey (f : FieldDeclaration) : Bool := f.attributes.any (·.name = "primary_key")

/-- What holds of the column without any attribute: a field that must have a value is never null. -/
def initial (f : FieldDeclaration) : ColumnSettings where
  column := f.name
  keyword := (FieldTypeName.columnType f.typeName).keyword
  isNotNull := !f.isKey && !FieldTypeName.isOptional (String.ofList (FieldTypeName.withoutSpaces f.typeName.toList))
  isUnique := false
  default := none
  isSkipped := false

def columnStep (s : ColumnSettings) (a : Argument) : Except DeclarationError ColumnSettings :=
  match a.key with
  | "name" => a.string.map fun name => { s with column := name }
  | "type" => a.string.map fun keyword => { s with keyword := keyword }
  | "default" => a.expression.map fun e => { s with default := some e }
  | "unique" => a.flag.map fun _ => { s with isUnique := true }
  | "not_null" => a.flag.map fun _ => { s with isNotNull := true }
  | "skip" => a.flag.map fun _ => { s with isSkipped := true }
  | _ => .error .unknownColumnKey

def settings (f : FieldDeclaration) : Except DeclarationError ColumnSettings :=
  foldArguments "column" columnStep f.initial f.attributes

end FieldDeclaration

end TypedStorage
