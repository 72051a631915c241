/-
Table definitions and the statements that create and drop the table. One key column carries its clause with
it; two or more are listed in one clause at the end. A definition is checked before it is used: its name,
then column by column the name and, in a strict table, the type.
-/
import TypedStorage.Schema.Identifier
import TypedStorage.Schema.ColumnType
import TypedStorage.Scalar.Basic

namespace TypedStorage

inductive TableOption where
  | ifNotExists | temporary | withoutRowId | strict
  deriving DecidableEq

namespace TableOption

def all : List TableOption := [.ifNotExists, .temporary, .withoutRowId, .strict]

def name : TableOption → String
  | .ifNotExists => "IfNotExists"
  | .temporary => "Temporary"
  | .withoutRowId => "WithoutRowId"
  | .strict => "Strict"

end TableOption

/-- A set of options. -/
structure TableOptions where
  ifNotExists : Bool
  temporary : Bool
  withoutRowId : Bool
  strict : Bool
  deriving DecidableEq

namespace TableOptions

def none : TableOptions := ⟨false, false, false, false⟩

def insert (o : TableOptions) : TableOption → TableOptions
  | .ifNotExists => { o with ifNotExists := true }
  | .temporary => { o with temporary := true }
  | .withoutRowId => { o with withoutRowId := true }
  | .strict => { o with strict := true }

def contains (o : TableOptions) : TableOption → Bool
  | .ifNotExists => o.ifNotExists
  | .temporary => o.temporary
  | .withoutRowId => o.withoutRowId
  | .strict => o.strict

def ofList (options : List TableOption) : TableOptions := options.foldl insert none

def toList (o : TableOptions) : List TableOption := TableOption.all.filter o.contains

end TableOptions

structure ColumnDefinition where
  name : String
  type : ColumnType
  isPrimaryKey : Bool
  isNotNull : Bool
  isUnique : Bool
  default : Option Scalar

structure TableDefinition where
  name : String
  columns : List ColumnDefinition
  options : TableOptions

/-- What a name or a definition is refused for. -/
inductive ValidationError where
  | name (name : String) (fault : NameFault)
  | strictType (column : String) (type : String)
  deriving DecidableEq

namespace ValidationError

def message : ValidationError → String
  | .name n .badCharacter =>
    "Invalid characters in name '" ++ n ++ "': only alphanumeric characters and underscores are allowed"
  | .name n (.tooLong length) =>
    "Name '" ++ n ++ "' is too long: " ++ toString length ++ " characters (max " ++ toString Identifier.maxLength ++ ")"
  | .name _ .empty => "Name cannot be empty"
  | .name n .badStart => "Name '" ++ n ++ "' must start with a letter or underscore"
  | .name n .reserved => "Name '" ++ n ++ "' is a reserved SQL keyword"
  | .strictType column type =>
    "Column '" ++ column ++ "' has type " ++ type ++ ": STRICT tables allow only INTEGER, REAL, TEXT, BLOB or ANY"

/-- The kind of the error in one word. -/
def label : ValidationError → String
  | .name _ .badCharacter => "InvalidCharacters"
  | .name _ (.tooLong _) => "TooLong"
  | .name _ .empty => "Empty"
  | .name _ .badStart => "InvalidStartCharacter"
  | .name _ .reserved => "ReservedKeyword"
  | .strictType _ _ => "StrictColumnType"

end ValidationError

/-- The name of a table or a column, if it may be one. -/
def validateName (name : String) : Except ValidationError String :=
  match Identifier.fault? name with
  | some fault => .error (.name name fault)
  | none => .ok name

namespace ColumnDefinition

def ofType (name : String) (type : ColumnType) : ColumnDefinition := ⟨name, type, false, false, false, none⟩

/-- The words of the column's clause after its name and type. -/
def constraints (c : ColumnDefinition) (inlineKey : Bool) : List String :=
  (if c.isPrimaryKey && inlineKey then ["PRIMARY KEY"] else [])
    ++ (if c.isNotNull then ["NOT NULL"] else [])
    ++ (if c.isUnique then ["UNIQUE"] else [])
    ++ (match c.default with
      | some v => ["DEFAULT " ++ v.literal]
      | none => [])

def clause (c : ColumnDefinition) (inlineKey : Bool) : String :=
  " ".intercalate (c.name :: c.type.keyword :: c.constraints inlineKey)

end ColumnDefinition

namespace TableDefinition

def withOption (d : TableDefinition) (o : TableOption) : TableDefinition := { d with options := d.options.insert o }

def primaryKey (d : TableDefinition) : List String := (d.columns.filter (·.isPrimaryKey)).map (·.name)

def isComposite (d : TableDefinition) : Bool := 1 < d.primaryKey.length

def validateColumn (strict : Bool) (c : ColumnDefinition) : Except ValidationError Unit := do
  let _ ← validateName c.name
  if strict && !c.type.isStrict then throw (.strictType c.name c.type.keyword)

def validate (d : TableDefinition) : Except ValidationError Unit := do
  let _ ← validateName d.name
  d.columns.forM (validateColumn d.options.strict)

/-- The clauses between the parentheses. -/
def clauses (d : TableDefinition) : List String :=
  d.columns.map (·.clause !d.isComposite)
    ++ (if d.isComposite then ["PRIMARY KEY (" ++ ", ".intercalate d.primaryKey ++ ")"] else [])

/-- The words after the parentheses. -/
def trailing (d : TableDefinition) : List String :=
  (if d.options.withoutRowId then ["WITHOUT ROWID"] else []) ++ (if d.options.strict then ["STRICT"] else [])

def createSql (d : TableDefinition) : String :=
  "CREATE " ++ (if d.options.temporary then "TEMPORARY " else "") ++ "TABLE "
    ++ (if d.options.ifNotExists then "IF NOT EXISTS " else "")
    ++ d.name ++ " (" ++ ", ".intercalate d.clauses ++ ")"
    ++ (if d.trailing.isEmpty then "" else " " ++ ", ".intercalate d.trailing)

def dropSql (d : TableDefinition) : String := "DROP TABLE IF EXISTS " ++ d.name

end TableDefinition

end TypedStorage
