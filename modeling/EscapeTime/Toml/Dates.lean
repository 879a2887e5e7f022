import EscapeTime.Decimal

set_option autoImplicit false

namespace EscapeTime.Toml

structure Day where
  year : Nat
  month : Nat
  day : Nat
deriving DecidableEq

structure Clock where
  hour : Nat
  minute : Nat
  second : Option Nat
  nanosecond : Option Nat
deriving DecidableEq

inductive Offset where
  | universal
  | minutes (ahead : Int)
deriving DecidableEq

inductive Moment where
  | day (date : Day)
  | clock (time : Clock)
  | both (date : Day) (time : Clock) (offset : Option Offset)
deriving DecidableEq

def fixedDigits? (count : Nat) (text : List Char) : Option (Nat × List Char) :=
  let digits := text.take count
  if digits.length = count ∧ digits.all Char.isDigit then
    some (Decimal.ofDigits digits, text.drop count)
  else none

def daysIn (year month : Nat) : Nat :=
  if month = 2 then
    if year % 4 = 0 ∧ (year % 100 ≠ 0 ∨ year % 400 = 0) then 29 else 28
  else if month = 4 ∨ month = 6 ∨ month = 9 ∨ month = 11 then 30
  else 31

def readDay? (text : List Char) : Option (Day × List Char) := do
  let (year, text) ← fixedDigits? 4 text
  let '-' :: text := text | none
  let (month, text) ← fixedDigits? 2 text
  let '-' :: text := text | none
  let (day, text) ← fixedDigits? 2 text
  if 1 ≤ month ∧ month ≤ 12 ∧ 1 ≤ day ∧ day ≤ daysIn year month then
    some (⟨year, month, day⟩, text)
  else none

def nanoseconds (digits : List Char) : Nat :=
  Decimal.ofDigits ((digits ++ List.replicate 9 '0').take 9)

def readSeconds? : List Char → Option ((Option Nat × Option Nat) × List Char)
  | ':' :: text => do
      let (second, text) ← fixedDigits? 2 text
      if 60 < second then none
      else
        match text with
        | '.' :: tail =>
            match tail.takeWhile Char.isDigit with
            | [] => none
            | digits =>
                some ((some second, some (nanoseconds digits)), tail.dropWhile Char.isDigit)
        | text => some ((some second, none), text)
  | text => some ((none, none), text)

def readClock? (text : List Char) : Option (Clock × List Char) := do
  let (hour, text) ← fixedDigits? 2 text
  let ':' :: text := text | none
  let (minute, text) ← fixedDigits? 2 text
  if 23 < hour ∨ 59 < minute then none
  else
    let ((second, nanosecond), text) ← readSeconds? text
    return (⟨hour, minute, second, nanosecond⟩, text)

def span? (text : List Char) : Option Int := do
  let (hour, text) ← fixedDigits? 2 text
  let ':' :: text := text | none
  let (minute, text) ← fixedDigits? 2 text
  if hour ≤ 23 ∧ minute ≤ 59 ∧ text = [] then some (60 * hour + minute : Nat) else none

def offset? : List Char → Option Offset
  | ['Z'] | ['z'] => some .universal
  | '+' :: text => (span? text).map .minutes
  | '-' :: text => (span? text).map fun ahead => .minutes (-ahead)
  | _ => none

def isTimeMark (c : Char) : Bool :=
  c == 'T' || c == 't' || c == ' '

def moment? (text : List Char) : Option Moment :=
  match readDay? text with
  | some (day, []) => some (.day day)
  | some (day, mark :: text) => do
      let (clock, text) ← readClock? text
      if isTimeMark mark then
        match text with
        | [] => some (.both day clock none)
        | text => (offset? text).map fun offset => .both day clock (some offset)
      else none
  | none =>
      match readClock? text with
      | some (clock, []) => some (.clock clock)
      | _ => none

def padded (width n : Nat) : List Char :=
  let digits := Decimal.digits n
  List.replicate (width - digits.length) '0' ++ digits

def fractionText (nanosecond : Nat) : List Char :=
  match (padded 9 nanosecond).reverse.dropWhile (· = '0') with
  | [] => ['0']
  | digits => digits.reverse

def Day.text (day : Day) : List Char :=
  padded 4 day.year ++ '-' :: padded 2 day.month ++ '-' :: padded 2 day.day

def Clock.text (clock : Clock) : List Char :=
  let second := clock.second.elim [] fun second => ':' :: padded 2 second
  let fraction := clock.nanosecond.elim [] fun nanosecond => '.' :: fractionText nanosecond
  padded 2 clock.hour ++ ':' :: padded 2 clock.minute ++ second ++ fraction

def Offset.text : Offset → List Char
  | universal => ['Z']
  | minutes ahead =>
      (if ahead < 0 then '-' else '+') :: padded 2 (ahead.natAbs / 60) ++
        ':' :: padded 2 (ahead.natAbs % 60)

def Moment.text : Moment → String
  | .day date => String.ofList date.text
  | .clock time => String.ofList time.text
  | .both date time offset =>
      String.ofList (date.text ++ 'T' :: time.text ++ offset.elim [] Offset.text)

end EscapeTime.Toml
