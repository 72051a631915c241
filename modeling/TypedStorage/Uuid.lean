/-
Universally unique identifiers: 128 bits, written as 32 lowercase hexadecimal digits in groups of 8, 4, 4, 4
and 12. Reading also takes the digits without hyphens, braces around the hyphenated form, and the form as a
name in the space `urn:uuid:`; letters in any case.
-/
import TypedStorage.Text.Digits

namespace TypedStorage

structure Uuid where
  value : BitVec 128
  deriving DecidableEq

namespace Uuid

open Text

/-- The last `width` hexadecimal digits of a number. -/
def fixedHex : Nat → Nat → List Char
  | 0, _ => []
  | width + 1, n => fixedHex width (n / 16) ++ [Nat.digitChar (n % 16)]

def digits (u : Uuid) : List Char := fixedHex 32 u.value.toNat

def chars (u : Uuid) : List Char :=
  let ds := u.digits
  ds.take 8 ++ '-' :: (ds.drop 8).take 4 ++ '-' :: (ds.drop 12).take 4 ++ '-' :: (ds.drop 16).take 4
    ++ '-' :: ds.drop 20

def text (u : Uuid) : String := String.ofList u.chars

/-- Hexadecimal digits as a number. -/
def hexNat? (cs : List Char) : Option Nat :=
  cs.foldlM (fun n c => (hexValue? c).map (16 * n + ·)) 0

def ofDigits? (cs : List Char) : Option Uuid :=
  if cs.length = 32 then (hexNat? cs).map fun n => ⟨BitVec.ofNat 128 n⟩ else none

/-- The digits of a hyphenated form, if the hyphens are where they belong. -/
def dehyphenate? (cs : List Char) : Option (List Char) :=
  if cs.length = 36 ∧ cs[8]? = some '-' ∧ cs[13]? = some '-' ∧ cs[18]? = some '-' ∧ cs[23]? = some '-' then
    some (cs.take 8 ++ (cs.drop 9).take 4 ++ (cs.drop 14).take 4 ++ (cs.drop 19).take 4 ++ cs.drop 24)
  else none

def ofHyphenated? (cs : List Char) : Option Uuid := (dehyphenate? cs).bind ofDigits?

def urnSpace : List Char := "urn:uuid:".toList

def ofChars? (cs : List Char) : Option Uuid :=
  if cs.length = 32 then ofDigits? cs
  else if cs.length = 36 then ofHyphenated? cs
  else if cs.length = 38 ∧ cs.head? = some '{' ∧ cs.getLast? = some '}' then ofHyphenated? ((cs.drop 1).take 36)
  else if cs.length = 45 ∧ (cs.take 9).map Char.toLower = urnSpace then ofHyphenated? (cs.drop 9)
  else none

def ofText? (s : String) : Option Uuid := ofChars? s.toList

end Uuid

end TypedStorage
