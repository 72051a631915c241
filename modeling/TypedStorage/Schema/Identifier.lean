/-
Names of tables and columns. A name is 1 to 63 letters, digits and underscores of ASCII, does not start with
a digit, and is no word that statements reserve, in any case. The checks run in a fixed order and the first
that fails is the fault of the name; length is counted in bytes, so it is checked before the characters are.
-/
namespace TypedStorage

/-- What is wrong with a name. -/
inductive NameFault where
  | empty
  | tooLong (length : Nat)
  | badStart
  | badCharacter
  | reserved
  deriving DecidableEq

namespace Identifier

/-- The greatest length of a name in bytes. -/
def maxLength : Nat := 63

/-- The words that statements reserve, in capitals. -/
def reservedWords : List String := [
  "ALL", "ALTER", "AND", "AS", "BETWEEN", "BY", "CASE", "CHECK", "COLLATE", "COLUMN", "CONFLICT",
  "CONSTRAINT", "CREATE", "DEFAULT", "DELETE", "DISTINCT", "DROP", "ELSE", "END", "ESCAPE", "EXCEPT",
  "EXISTS", "FOREIGN", "FROM", "GROUP", "HAVING", "IN", "INDEX", "INSERT", "INTERSECT", "INTO", "IS",
  "JOIN", "KEY", "LIKE", "LIMIT", "NOT", "NOTHING", "NULL", "OFFSET", "ON", "OR", "ORDER", "PRIMARY",
  "REFERENCES", "RETURNING", "SELECT", "SET", "TABLE", "THEN", "TO", "TRANSACTION", "UNION", "UNIQUE",
  "UPDATE", "USING", "VALUES", "WHEN", "WHERE", "WITH"]

def isStart (c : Char) : Bool := c.isAlpha || c = '_'

def isPart (c : Char) : Bool := c.isAlphanum || c = '_'

def upper (s : String) : String := String.ofList (s.toList.map Char.toUpper)

/-- The first fault of a name, if it has one. -/
def fault? (name : String) : Option NameFault :=
  match name.toList with
  | [] => some .empty
  | first :: _ =>
    if maxLength < name.utf8ByteSize then some (.tooLong name.utf8ByteSize)
    else if !isStart first then some .badStart
    else if !name.toList.all isPart then some .badCharacter
    else if reservedWords.contains (upper name) then some .reserved
    else none

/-- A name that has no fault. -/
def isValid (name : String) : Bool := (fault? name).isNone

end Identifier

end TypedStorage
