/-
The text of an instant, after RFC 3339. Stored text has nine places for the fraction; short text has as many
groups of three as the nanoseconds need. Years outside 0 to 9999 are written with a sign, a leap second as
:60. There are two readers: the strict one takes four-digit years only and nothing around the fields; the
lenient one also takes signed years, fields without leading zeros, and blanks between the fields.
-/
import TypedStorage.Time.Timestamp
import TypedStorage.Text.Digits
import TypedStorage.Text.Blank

namespace TypedStorage.Timestamp

open Time Text

/-! ## Writing -/

def yearDigits (year : Int) : List Char :=
  if 0 ≤ year ∧ year ≤ 9999 then fixedDigits 4 year.toNat
  else (if year < 0 then '-' else '+') :: paddedDigits 4 year.natAbs

/-- Everything before the fraction. -/
def clockChars (t : Timestamp) : List Char :=
  let s := t.secondOfDay
  let sec := s % 60 + t.nanos / second
  yearDigits t.date.year ++ '-' :: fixedDigits 2 t.date.month ++ '-' :: fixedDigits 2 t.date.day
    ++ 'T' :: fixedDigits 2 (s / 3600) ++ ':' :: fixedDigits 2 (s / 60 % 60) ++ ':' :: fixedDigits 2 sec

def chars (t : Timestamp) : List Char := t.clockChars ++ '.' :: fixedDigits 9 (t.nanos % second) ++ ['Z']

/-- The stored text: always nine places. -/
def text (t : Timestamp) : String := String.ofList t.chars

/-- The fraction in groups of three digits, none for a whole second. -/
def shortFraction (nanos : Nat) : List Char :=
  if nanos = 0 then []
  else if nanos % 1000000 = 0 then '.' :: fixedDigits 3 (nanos / 1000000)
  else if nanos % 1000 = 0 then '.' :: fixedDigits 6 (nanos / 1000)
  else '.' :: fixedDigits 9 nanos

def shortText (t : Timestamp) : String :=
  String.ofList (t.clockChars ++ shortFraction (t.nanos % second) ++ ['Z'])

/-! ## The strict reader -/

def expect? (c : Char) : List Char → Option (List Char)
  | d :: cs => if d = c then some cs else none
  | [] => none

/-- A point and at least one digit, of which nine count; or nothing. -/
def readFraction? : List Char → Option (Nat × List Char)
  | '.' :: cs =>
    let (word, rest) := spanDigits cs
    if word = [] then none
    else some (digitsValue (word.take 9) * Nat.pow 10 (9 - (word.take 9).length), rest)
  | cs => some (0, cs)

/-- The sign of an offset: whether it is a minus, of which there are two. -/
def readSign? : List Char → Option (Bool × List Char)
  | '+' :: cs => some (false, cs)
  | '-' :: cs => some (true, cs)
  | '\u2212' :: cs => some (true, cs)
  | _ => none

/-- Hours and minutes as seconds; what stands between them is passed by `skip`. -/
def readOffset? (skip : List Char → Option (List Char)) (cs : List Char) : Option (Int × List Char) := do
  let (negative, cs) ← readSign? cs
  let (hours, cs) ← takeDigits? 2 cs
  let cs ← skip cs
  let (minutes, cs) ← takeDigits? 2 cs
  guard (hours < 24 ∧ minutes < 60)
  let seconds : Int := hours * 3600 + minutes * 60
  return (if negative then -seconds else seconds, cs)

def readZone? (skip : List Char → Option (List Char)) : List Char → Option (Int × List Char)
  | 'Z' :: cs | 'z' :: cs => some (0, cs)
  | cs => readOffset? skip cs

def separators : List Char := ['T', 't', ' ']

def ofChars? (cs : List Char) : Option Timestamp := do
  let (year, cs) ← takeDigits? 4 cs
  let cs ← expect? '-' cs
  let (month, cs) ← takeDigits? 2 cs
  let cs ← expect? '-' cs
  let (day, cs) ← takeDigits? 2 cs
  guard (cs.head?.any separators.contains)
  let (hour, cs) ← takeDigits? 2 (cs.drop 1)
  let cs ← expect? ':' cs
  let (minute, cs) ← takeDigits? 2 cs
  let cs ← expect? ':' cs
  let (sec, cs) ← takeDigits? 2 cs
  let (nanos, cs) ← readFraction? cs
  let (offset, cs) ← readZone? (expect? ':') cs
  guard (cs = [])
  ofLocal? ⟨year, month, day⟩ hour minute sec nanos offset

/-- The instant a text names, by the strict reader. -/
def ofText? (s : String) : Option Timestamp := ofChars? s.toList

/-! ## The lenient reader -/

/-- One digit up to `width` digits, blanks before them. -/
def looseNat? (width : Nat) (cs : List Char) : Option (Nat × List Char) :=
  let cs := trimStart cs
  let word := (cs.take width).takeWhile Char.isDigit
  if word = [] then none else some (digitsValue word, cs.drop word.length)

/-- A year of up to four digits, or of any number of digits after a sign. -/
def looseYear? (cs : List Char) : Option (Int × List Char) :=
  match trimStart cs with
  | '-' :: cs => signedYear true cs
  | '+' :: cs => signedYear false cs
  | cs => (looseNat? 4 cs).map fun (n, rest) => ((n : Int), rest)
where
  signedYear (negative : Bool) (cs : List Char) : Option (Int × List Char) :=
    let (word, rest) := spanDigits cs
    if word = [] then none
    else some (if negative then -(digitsValue word : Int) else digitsValue word, rest)

/-- A mark with blanks before it. -/
def looseMark? (c : Char) (cs : List Char) : Option (List Char) := expect? c (trimStart cs)

/-- Passes any blanks and colons. -/
def skipColons (cs : List Char) : Option (List Char) := some (cs.dropWhile fun c => c = ':' || isBlank c)

/-- The letters UTC in any case stand for the offset zero too. -/
def looseZone? (cs : List Char) : Option (Int × List Char) :=
  if (cs.take 3).map Char.toUpper = ['U', 'T', 'C'] then some (0, cs.drop 3) else readZone? skipColons cs

def ofLooseChars? (cs : List Char) : Option Timestamp := do
  let (year, cs) ← looseYear? cs
  let cs ← looseMark? '-' cs
  let (month, cs) ← looseNat? 2 cs
  let cs ← looseMark? '-' cs
  let (day, cs) ← looseNat? 2 cs
  guard (cs.head?.any separators.contains)
  let (hour, cs) ← looseNat? 2 (cs.drop 1)
  let cs ← looseMark? ':' cs
  let (minute, cs) ← looseNat? 2 cs
  let cs ← looseMark? ':' cs
  let (sec, cs) ← looseNat? 2 cs
  let (nanos, cs) ← readFraction? cs
  let (offset, cs) ← looseZone? (trimStart cs)
  guard (trimStart cs = [])
  ofLocal? ⟨year, month, day⟩ hour minute sec nanos offset

/-- The instant a text names, by the lenient reader. -/
def ofLooseText? (s : String) : Option Timestamp := ofLooseChars? s.toList

end TypedStorage.Timestamp
