import ConversationMemory.Settings.Toml.Blank
import ConversationMemory.Text.Character

/-!
# TOML dates and times

* `Toml.Moment`: a date, a time, or both, perhaps with the distance from universal time.
  `Toml.moment` reads one, `Toml.Moment.text` writes it.
-/

namespace ConversationMemory.Toml

open Reader

/-- A day. -/
structure Date where
  year : Nat
  month : Nat
  day : Nat
  deriving DecidableEq, Repr

/-- A time of the day. -/
structure Time where
  hour : Nat
  minute : Nat
  second : Nat
  /-- The digits of the fraction of the second. -/
  fraction : List Char
  deriving DecidableEq, Repr

/-- The distance from universal time. -/
inductive Offset
  | universal
  | minutes (count : Int)
  deriving DecidableEq, Repr

/-- A date, a time, or both. -/
inductive Moment
  | date (day : Date)
  | time (hour : Time)
  | both (day : Date) (hour : Time) (offset : Option Offset)
  deriving DecidableEq, Repr

/-! ## Writing -/

/-- A number with zeros at its front. -/
def padded (count n : Nat) : String :=
  let digits := Nat.toDigits 10 n
  String.ofList (List.replicate (count - digits.length) '0' ++ digits)

/-- The date in normal form. -/
def Date.text (date : Date) : String :=
  padded 4 date.year ++ "-" ++ padded 2 date.month ++ "-" ++ padded 2 date.day

/-- The time in normal form: at most nine digits of the fraction, without zeros at the end. -/
def Time.text (time : Time) : String :=
  let kept := ((time.fraction.take 9).reverse.dropWhile (· == '0')).reverse
  padded 2 time.hour ++ ":" ++ padded 2 time.minute ++ ":" ++ padded 2 time.second ++
    if kept.isEmpty then "" else "." ++ String.ofList kept

/-- The distance in normal form. -/
def Offset.text : Offset → String
  | universal => "Z"
  | minutes count =>
    (if count < 0 then "-" else "+") ++ padded 2 (count.natAbs / 60) ++ ":" ++
      padded 2 (count.natAbs % 60)

/-- Dates and times in normal form. -/
def Moment.text : Moment → String
  | date day => day.text
  | time hour => hour.text
  | both day hour offset => day.text ++ "T" ++ hour.text ++ offset.elim "" Offset.text

/-! ## Reading -/

/-- A number of so many digits. -/
def digits (count : Nat) : Reader Nat := Text.valueIn 10 <$> exactly count Char.isDigit

/-- Two digits within bounds. -/
def part (least most : Nat) : Reader Nat :=
  (digits 2).convert fun n => if least ≤ n ∧ n ≤ most then .ok n else .error .outOfRange

/-- The days of a month. -/
def daysOf (year month : Nat) : Nat :=
  if month = 2 then if year % 4 = 0 ∧ (year % 100 ≠ 0 ∨ year % 400 = 0) then 29 else 28
  else if [4, 6, 9, 11].contains month then 30
  else 31

/-- A date. -/
def date : Reader Date := do
  let year ← digits 4
  mark '-'
  let month ← (part 1 12).commit
  (mark '-').commit
  let day ← (part 1 (daysOf year month)).commit
  return ⟨year, month, day⟩

/-- A time of the day. -/
def time : Reader Time := do
  let hour ← part 0 23
  mark ':'
  commit do
    let minute ← part 0 59
    mark ':'
    let second ← part 0 60
    let fraction ← (mark '.' *> run1 Char.isDigit).maybe
    return ⟨hour, minute, second, fraction.getD []⟩

/-- The distance from universal time. -/
def offset : Reader Offset :=
  (orElse (char (fun c => c == 'Z' || c == 'z') *> pure .universal) do
    let sign ← char fun c => c == '+' || c == '-'
    commit do
      let hours ← part 0 23
      mark ':'
      let minutes ← part 0 59
      let count : Int := hours * 60 + minutes
      return .minutes (if sign = '-' then -count else count)).named "time offset"

/-- What may stand between a date and a time. -/
def isTimeMark (c : Char) : Bool := c == 'T' || c == 't' || c == ' '

/-- A date with its time or without, or a time alone. -/
def moment : Reader Moment :=
  orElse
    (Reader.named "date-time" do
      let day ← date
      let rest ← maybe do
        discard (char isTimeMark)
        return (← time, ← offset.maybe)
      return rest.elim (.date day) fun rest => .both day rest.1 rest.2)
    ((Moment.time <$> time).named "time")

end ConversationMemory.Toml
