/-
Conditions on rows. A filter compares one field with one scalar, or asks whether it is among several. A
filter whose operator and operand do not fit, and one that asks for membership in no values at all, hold of
no row.
-/
import TypedStorage.Scalar.Basic

namespace TypedStorage

inductive Operator where
  | equals | notEquals | like | greaterThan | lessThan | inSet
  deriving DecidableEq

namespace Operator

def all : List Operator := [.equals, .notEquals, .like, .greaterThan, .lessThan, .inSet]

def name : Operator → String
  | .equals => "Equals"
  | .notEquals => "NotEquals"
  | .like => "Like"
  | .greaterThan => "GreaterThan"
  | .lessThan => "LessThan"
  | .inSet => "InSet"

/-- The operator inside a statement. -/
def sql : Operator → String
  | .equals => "="
  | .notEquals => "!="
  | .like => "LIKE"
  | .greaterThan => ">"
  | .lessThan => "<"
  | .inSet => "IN"

def takesSeveral (op : Operator) : Bool := op = .inSet

end Operator

inductive Operand where
  | single (v : Scalar)
  | multiple (vs : List Scalar)

structure Filter where
  field : String
  operator : Operator
  operand : Operand

namespace Filter

def eq (field : String) (v : Scalar) : Filter := ⟨field, .equals, .single v⟩
def ne (field : String) (v : Scalar) : Filter := ⟨field, .notEquals, .single v⟩
def like (field : String) (pattern : String) : Filter := ⟨field, .like, .single (.text pattern)⟩
def gt (field : String) (v : Scalar) : Filter := ⟨field, .greaterThan, .single v⟩
def lt (field : String) (v : Scalar) : Filter := ⟨field, .lessThan, .single v⟩
def inSet (field : String) (vs : List Scalar) : Filter := ⟨field, .inSet, .multiple vs⟩

/-- The operand has the shape that the operator takes. -/
def isWellFormed (f : Filter) : Bool :=
  match f.operand with
  | .single _ => !f.operator.takesSeveral
  | .multiple _ => f.operator.takesSeveral

end Filter

end TypedStorage
