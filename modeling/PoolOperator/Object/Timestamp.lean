/-!
# Points in time

Times with whole seconds in universal time, in their one written form `YYYY-MM-DDThh:mm:ssZ`.
-/

namespace PoolOperator

namespace Timestamp

/-- The number that two decimal digits write. -/
def twoDigits? (a b : Char) : Option Nat :=
  if a.isDigit && b.isDigit then some (10 * (a.toNat - 48) + (b.toNat - 48)) else none

/-- The number of days of a month of a year. -/
def daysIn (year month : Nat) : Nat :=
  if month = 2 then
    if year % 4 = 0 ∧ (year % 100 ≠ 0 ∨ year % 400 = 0) then 29 else 28
  else if month = 4 ∨ month = 6 ∨ month = 9 ∨ month = 11 then 30
  else 31

/-- Whether the parts name a day and a time of day. -/
def isCalendarTime (year month day hour minute second : Nat) : Bool :=
  1 ≤ month && month ≤ 12 && 1 ≤ day && day ≤ daysIn year month &&
    hour < 24 && minute < 60 && second < 60

/-- Whether a text has the written form of a time. -/
def isWritten : List Char → Bool
  | [y₁, y₂, y₃, y₄, '-', m₁, m₂, '-', d₁, d₂, 'T', h₁, h₂, ':', n₁, n₂, ':', s₁, s₂, 'Z'] =>
    match twoDigits? y₁ y₂, twoDigits? y₃ y₄, twoDigits? m₁ m₂, twoDigits? d₁ d₂,
      twoDigits? h₁ h₂, twoDigits? n₁ n₂, twoDigits? s₁ s₂ with
    | some century, some year, some month, some day, some hour, some minute, some second =>
      isCalendarTime (100 * century + year) month day hour minute second
    | _, _, _, _, _, _, _ => false
  | _ => false

end Timestamp

/-- A point in time, as it is written. Left out are the other texts of RFC 3339, those with a fraction
of a second or with an offset: whoever accepts these as well writes them back in whole seconds of
universal time. -/
structure Timestamp where
  text : String
  valid : Timestamp.isWritten text.toList = true
deriving DecidableEq

/-- Reads a point in time. -/
def Timestamp.parse? (text : String) : Option Timestamp :=
  if h : Timestamp.isWritten text.toList = true then some ⟨text, h⟩ else none

end PoolOperator
