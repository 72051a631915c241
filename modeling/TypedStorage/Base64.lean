/-
Base64 with the standard alphabet. Three bytes are four letters; a last group of one or two bytes is padded
with `=` to four. Reading takes nothing but what writing produces: the padding must be there, the unused
bits of the last letter must be zero, and no blank or foreign letter is skipped.
-/
namespace TypedStorage.Base64

/-- The letters in the order of their values. -/
def alphabet : List Char :=
  "ABCDEFGHIJKLMNOPQRSTUVWXYZabcdefghijklmnopqrstuvwxyz0123456789+/".toList

/-- The letter of a six-bit value. -/
def letter (v : Nat) : Char := alphabet.getD v '='

/-- The six-bit value of a letter. -/
def value? (c : Char) : Option Nat :=
  let n := c.toNat
  if 'A' ≤ c ∧ c ≤ 'Z' then some (n - 65)
  else if 'a' ≤ c ∧ c ≤ 'z' then some (n - 71)
  else if '0' ≤ c ∧ c ≤ '9' then some (n + 4)
  else if c = '+' then some 62
  else if c = '/' then some 63
  else none

def encode : List UInt8 → List Char
  | [] => []
  | [a] => [letter (a.toNat / 4), letter (a.toNat % 4 * 16), '=', '=']
  | [a, b] =>
    [letter (a.toNat / 4), letter (a.toNat % 4 * 16 + b.toNat / 16), letter (b.toNat % 16 * 4), '=']
  | a :: b :: c :: rest =>
    letter (a.toNat / 4) :: letter (a.toNat % 4 * 16 + b.toNat / 16)
      :: letter (b.toNat % 16 * 4 + c.toNat / 64) :: letter (c.toNat % 64) :: encode rest

/-- The last group, which alone may be padded. -/
def decodeLast? (p q r s : Char) : Option (List UInt8) := do
  let a ← value? p
  let b ← value? q
  if r = '=' ∧ s = '=' then
    if b % 16 = 0 then some [UInt8.ofNat (a * 4 + b / 16)] else none
  else
    let c ← value? r
    if s = '=' then
      if c % 4 = 0 then some [UInt8.ofNat (a * 4 + b / 16), UInt8.ofNat (b % 16 * 16 + c / 4)] else none
    else
      let d ← value? s
      some [UInt8.ofNat (a * 4 + b / 16), UInt8.ofNat (b % 16 * 16 + c / 4), UInt8.ofNat (c % 4 * 64 + d)]

def decode? : List Char → Option (List UInt8)
  | [] => some []
  | [p, q, r, s] => decodeLast? p q r s
  | p :: q :: r :: s :: rest => do
    let a ← value? p
    let b ← value? q
    let c ← value? r
    let d ← value? s
    let bytes ← decode? rest
    return UInt8.ofNat (a * 4 + b / 16) :: UInt8.ofNat (b % 16 * 16 + c / 4) :: UInt8.ofNat (c % 4 * 64 + d)
      :: bytes
  | _ => none

def text (bytes : List UInt8) : String := String.ofList (encode bytes)

def ofText? (s : String) : Option (List UInt8) := decode? s.toList

end TypedStorage.Base64
