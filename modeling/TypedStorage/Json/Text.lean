/-
The compact text of a JSON value: no blanks, the members of an object in the order the value lists them. In
strings only the quote, the backslash and the control characters below U+0020 are escaped. A double is
written with its shortest digits, of two equally near words the one that ends in an even digit; with a
point where it falls among or near the digits, and with an exponent beyond.
-/
import TypedStorage.Json.Basic
import TypedStorage.Double.Text

namespace TypedStorage.Json

open Text

/-! ## Numbers -/

/-- `d.ddde±N`; the power of ten is that of the first digit. -/
def scientificDigits (word : List Char) (power : Int) : List Char :=
  word.take 1 ++ (if 1 < word.length then '.' :: word.drop 1 else [])
    ++ 'e' :: (if power < 0 then '-' else '+') :: natDigits power.natAbs

/-- Digits with a point where it stands after at most 16 of them or before at most 4 zeros. -/
def doubleDigits (d : Decimal) : List Char :=
  let word := natDigits d.digits
  let point : Int := word.length + d.exponent
  if -5 < point ∧ point ≤ 16 then
    if 0 ≤ d.exponent then Double.plainDigits d ++ ['.', '0'] else Double.plainDigits d
  else scientificDigits word (point - 1)

def doubleChars (x : Double.Finite) : List Char :=
  Double.signed x.negative (doubleDigits (if x.rank = 0 then ⟨0, 0⟩ else x.shortest .toEven))

def Number.chars : Number → List Char
  | .int i _ => intDigits i
  | .double x => doubleChars x

/-! ## Strings -/

/-- One character as it stands between the quotes. -/
def escapeChar (c : Char) : List Char :=
  match c with
  | '"' => ['\\', '"']
  | '\\' => ['\\', '\\']
  | '\x08' => ['\\', 'b']
  | '\x0c' => ['\\', 'f']
  | '\n' => ['\\', 'n']
  | '\r' => ['\\', 'r']
  | '\t' => ['\\', 't']
  | c => if c.toNat < 0x20 then ['\\', 'u', '0', '0'] ++ hexByte (UInt8.ofNat c.toNat) else [c]

def stringChars (s : String) : List Char := '"' :: (s.toList.flatMap escapeChar ++ ['"'])

/-! ## Values -/

mutual

def chars : Json → List Char
  | .null => ['n', 'u', 'l', 'l']
  | .bool true => ['t', 'r', 'u', 'e']
  | .bool false => ['f', 'a', 'l', 's', 'e']
  | .number n => n.chars
  | .string s => stringChars s
  | .array [] => ['[', ']']
  | .array (j :: items) => '[' :: (chars j ++ itemChars items)
  | .object [] => ['{', '}']
  | .object ((k, j) :: members) => '{' :: (stringChars k ++ ':' :: (chars j ++ memberChars members))

/-- The items after the first one, and the closing bracket. -/
def itemChars : List Json → List Char
  | [] => [']']
  | j :: items => ',' :: (chars j ++ itemChars items)

/-- The members after the first one, and the closing brace. -/
def memberChars : List (String × Json) → List Char
  | [] => ['}']
  | (k, j) :: members => ',' :: (stringChars k ++ ':' :: (chars j ++ memberChars members))

end

def text (j : Json) : String := String.ofList j.chars

def Document.text (d : Document) : String := d.tree.text

end TypedStorage.Json
