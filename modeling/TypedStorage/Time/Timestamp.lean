/-
Instants in UTC: whole seconds since 1970-01-01 and nanoseconds. A nanosecond count of 10^9 and more is a
leap second, which only a second that ends in :59 can have. The seconds span the years −262143 to 262142.
-/
import TypedStorage.Time.Civil

namespace TypedStorage

namespace Time

/-- The first second of the year −262143. -/
def firstSecond : Int := -8334601228800

/-- The last second of the year 262142. -/
def lastSecond : Int := 8210266876799

/-- One second, in nanoseconds. -/
def second : Nat := 1000000000

end Time

structure Timestamp where
  seconds : Int
  nanos : Nat
  inRange : Time.firstSecond ≤ seconds ∧ seconds ≤ Time.lastSecond
  nanos_lt : nanos < 2 * Time.second
  leap : Time.second ≤ nanos → seconds % 60 = 59
  deriving DecidableEq

namespace Timestamp

open Time

/-- The instant of these seconds and nanoseconds, if there is one. -/
def ofParts? (seconds : Int) (nanos : Nat) : Option Timestamp :=
  if h : (firstSecond ≤ seconds ∧ seconds ≤ lastSecond) ∧ nanos < 2 * second
      ∧ (second ≤ nanos → seconds % 60 = 59) then
    some ⟨seconds, nanos, h.1, h.2.1, h.2.2⟩
  else none

/-- Time order; a leap second lies between its second and the next. -/
def lt (a b : Timestamp) : Prop := a.seconds < b.seconds ∨ (a.seconds = b.seconds ∧ a.nanos < b.nanos)

def date (t : Timestamp) : Date := Date.ofDays (t.seconds / 86400)

def year (t : Timestamp) : Int := t.date.year

def secondOfDay (t : Timestamp) : Nat := (t.seconds % 86400).toNat

/-- A date and a time of day, with nanoseconds, at a distance from UTC given in seconds. -/
def ofLocal? (date : Date) (hour minute sec nanos : Nat) (offset : Int) : Option Timestamp :=
  if date.isValid ∧ hour < 24 ∧ minute < 60 ∧ sec ≤ 60 then
    let (sec, nanos) := if sec = 60 then (59, nanos + second) else (sec, nanos)
    let here := date.toDays * 86400 + ((hour * 3600 + minute * 60 + sec : Nat) : Int)
    if firstSecond ≤ here ∧ here ≤ lastSecond then ofParts? (here - offset) nanos else none
  else none

end Timestamp

end TypedStorage
