/-
Values of TOML that are one word: truth values, numbers, and times. A number may have single underscores between
its digits, and but for zero a decimal number starts with no zero. A time is a date, a time of day or both; with
a date, it may have an offset.
-/
import TypedStorage.Double.Text
import TypedStorage.Text.Pieces
import TypedStorage.Time.Civil
import TypedStorage.Toml.Basic

namespace TypedStorage.Toml

open Text

def isWordChar (c : Char) : Bool := c.isAlphanum || "+-_.:".toList.contains c

/-! ## Numbers -/

/-- Digits with single underscores between them, without the underscores. -/
def digitRun? (isDigit : Char → Bool) (cs : List Char) : Option (List Char) :=
  let parts := pieces '_' cs
  if parts.all fun p => !p.isEmpty && p.all isDigit then some parts.flatten else none

def decimal? (cs : List Char) : Option (List Char) := do
  let digits ← digitRun? Char.isDigit cs
  guard (digits.length = 1 ∨ digits.head? ≠ some '0')
  return digits

/-- A natural number to a base up to 16. -/
def inBase? (base : Nat) (cs : List Char) : Option Nat := do
  let digits ← digitRun? (fun c => (hexValue? c).any (· < base)) cs
  return digits.foldl (fun n c => base * n + (hexValue? c).getD 0) 0

def integer? : List Char → Option Int
  | '0' :: 'x' :: cs => (inBase? 16 cs).map Int.ofNat
  | '0' :: 'o' :: cs => (inBase? 8 cs).map Int.ofNat
  | '0' :: 'b' :: cs => (inBase? 2 cs).map Int.ofNat
  | '-' :: cs => (decimal? cs).map fun ds => -(digitsValue ds : Int)
  | '+' :: cs => (decimal? cs).map fun ds => (digitsValue ds : Int)
  | cs => (decimal? cs).map fun ds => (digitsValue ds : Int)

def isDigitOrMark (c : Char) : Bool := c.isDigit || c = '_'

/-- A point and digits, or nothing, in plain digits; and the rest. -/
def fraction? : List Char → Option (List Char × List Char)
  | '.' :: cs => (digitRun? Char.isDigit (cs.takeWhile isDigitOrMark)).map fun ds =>
    ('.' :: ds, cs.dropWhile isDigitOrMark)
  | cs => some ([], cs)

/-- An exponent, which ends the number, or nothing. -/
def exponent? : List Char → Option (List Char)
  | [] => some []
  | e :: cs =>
    if e = 'e' ∨ e = 'E' then
      match cs with
      | '-' :: cs => (digitRun? Char.isDigit cs).map fun ds => 'e' :: '-' :: ds
      | '+' :: cs => (digitRun? Char.isDigit cs).map ('e' :: ·)
      | cs => (digitRun? Char.isDigit cs).map ('e' :: ·)
    else none

/-- A number with a fraction or an exponent, without its sign. -/
def unsigned? (cs : List Char) : Option Double := do
  if cs = ['i', 'n', 'f'] then return .infinite false
  if cs = ['n', 'a', 'n'] then return .nan
  let whole ← decimal? (cs.takeWhile isDigitOrMark)
  let (fraction, rest) ← fraction? (cs.dropWhile isDigitOrMark)
  let exponent ← exponent? rest
  guard (fraction ≠ [] ∨ exponent ≠ [])
  match ← Double.readChars? (whole ++ fraction ++ exponent) with
  | .infinite _ => none
  | x => return x

def double? : List Char → Option Double
  | '-' :: cs => (unsigned? cs).map Double.negate
  | '+' :: cs => unsigned? cs
  | cs => unsigned? cs

/-- A double, or an integer of up to 128 bits. -/
def number? (cs : List Char) : Option Toml :=
  match integer? cs with
  | some i => if -0x80000000000000000000000000000000 ≤ i ∧ i < 0x100000000000000000000000000000000 then some (.number (-0x8000000000000000 ≤ i ∧ i < 0x10000000000000000)) else none
  | none => (double? cs).map fun _ => .number true

/-! ## Times -/

/-- The number of two digits at the front that are at most `limit`, and the rest. -/
def pair? (limit : Nat) (cs : List Char) : Option (Nat × List Char) := do
  let (n, rest) ← takeDigits? 2 cs
  guard (n ≤ limit)
  return (n, rest)

def mark? (c : Char) : List Char → Option (List Char)
  | [] => none
  | d :: cs => if d = c then some cs else none

/-- What follows a date. -/
def afterDate? (cs : List Char) : Option (List Char) := do
  let (year, rest) ← takeDigits? 4 cs
  let (month, rest) ← takeDigits? 2 (← mark? '-' rest)
  let (day, rest) ← takeDigits? 2 (← mark? '-' rest)
  guard (Time.Date.isValid ⟨year, month, day⟩)
  return rest

/-- What follows a fraction of a second. -/
def afterFraction? : List Char → Option (List Char)
  | '.' :: cs =>
    let (digits, rest) := spanDigits cs
    if digits = [] then none else some rest
  | cs => some cs

/-- What follows a time of day; the seconds may be missing. -/
def afterClock? (cs : List Char) : Option (List Char) := do
  let (_, rest) ← pair? 23 cs
  let (_, rest) ← pair? 59 (← mark? ':' rest)
  match mark? ':' rest with
  | none => return rest
  | some rest =>
    let (_, rest) ← pair? 60 rest
    afterFraction? rest

/-- An offset from universal time, or nothing. -/
def isOffset : List Char → Bool
  | [] | ['Z'] | ['z'] => true
  | sign :: cs => (sign = '+' || sign = '-') && ((do
    let (_, rest) ← pair? 23 cs
    let (_, rest) ← pair? 59 (← mark? ':' rest)
    guard rest.isEmpty) : Option Unit).isSome

def isClock (cs : List Char) : Bool := afterClock? cs = some []

def isClockWithOffset (cs : List Char) : Bool := (afterClock? cs).any isOffset

/-- A word that is a time. -/
def isTime (cs : List Char) : Bool :=
  match afterDate? cs with
  | some [] => true
  | some (c :: rest) => (c = 'T' || c = 't') && isClockWithOffset rest
  | none => isClock cs

/-- The time of day that may follow a date after one blank, and the rest. -/
def clockAfterBlank? : List Char → Option (List Char × List Char)
  | ' ' :: cs =>
    let word := cs.takeWhile isWordChar
    if ((takeDigits? 2 word).bind fun (_, rest) => mark? ':' rest).isSome then some (word, cs.dropWhile isWordChar)
    else none
  | _ => none

/-! ## Words -/

def word? (word : List Char) : Option Toml :=
  if word = ['t', 'r', 'u', 'e'] then some (.boolean true)
  else if word = ['f', 'a', 'l', 's', 'e'] then some (.boolean false)
  else if isTime word then some (.time (String.ofList word))
  else number? word

/-- The value of one word, or of a date and a time of day with a blank between them. -/
def scalar? (cs : List Char) : Option (Toml × List Char) := do
  let word := cs.takeWhile isWordChar
  let rest := cs.dropWhile isWordChar
  match if afterDate? word = some [] then clockAfterBlank? rest else none with
  | some (clock, rest) =>
    guard (isClockWithOffset clock)
    return (.time (String.ofList (word ++ ' ' :: clock)), rest)
  | none => return (← word? word, rest)

end TypedStorage.Toml
