import InstanceLifecycle.Text.Digits

/-!
# Time stamps

The time of an event is a date and a time of day to the second. A text is such a stamp if its parts
have their full width and name an existing day and second; a minute may end in a leap second.
-/

namespace InstanceLifecycle.Timestamp

/-- Whether a year has a 29th of February. -/
def isLeap (year : Nat) : Bool :=
  year % 4 = 0 && (year % 100 ≠ 0 || year % 400 = 0)

/-- The days of a month; months count from one. -/
def daysIn (year month : Nat) : Nat :=
  if month = 2 then (if isLeap year then 29 else 28)
  else if month = 4 ∨ month = 6 ∨ month = 9 ∨ month = 11 then 30
  else 31

/-- Whether some numbers name an existing second. -/
def isSecond (year month day hour minute second : Nat) : Bool :=
  1 ≤ month && month ≤ 12 && 1 ≤ day && day ≤ daysIn year month && hour < 24 && minute < 60 &&
    second ≤ 60

/-- Whether a text is a stamp: year, month, day, hour, minute and second in their full width. -/
def isStamp (s : String) : Bool :=
  match s.toList with
  | [y₁, y₂, y₃, y₄, '-', m₁, m₂, '-', d₁, d₂, ' ', h₁, h₂, ':', n₁, n₂, ':', s₁, s₂] =>
    (do
      let year ← Text.readNat? 10 [y₁, y₂, y₃, y₄]
      let month ← Text.readNat? 10 [m₁, m₂]
      let day ← Text.readNat? 10 [d₁, d₂]
      let hour ← Text.readNat? 10 [h₁, h₂]
      let minute ← Text.readNat? 10 [n₁, n₂]
      let second ← Text.readNat? 10 [s₁, s₂]
      pure (isSecond year month day hour minute second)).getD false
  | _ => false

end InstanceLifecycle.Timestamp
