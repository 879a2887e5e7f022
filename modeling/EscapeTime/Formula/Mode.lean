set_option autoImplicit false

namespace EscapeTime

inductive Grouping where
  /-- Any one token after a group is passed over, and tokens after the formula are ignored. -/
  | lenient
  /-- A group needs its closing delimiter, and nothing may follow the formula. -/
  | strict
deriving DecidableEq

inductive ImplicitFactor where
  /-- An operand or the application of a function: `2z^2` ends after `2z`. -/
  | primary
  /-- A power, and an explicit product may go on after the chain: `2z^2` is `2 (z^2)`. -/
  | exponent
deriving DecidableEq

structure ReadMode where
  grouping : Grouping
  implicit : ImplicitFactor
deriving DecidableEq

namespace Grouping

def name : Grouping → String
  | lenient => "lenient"
  | strict => "strict"

def ofName? : String → Option Grouping
  | "lenient" => some lenient
  | "strict" => some strict
  | _ => none

theorem of_name?_name (grouping : Grouping) : ofName? grouping.name = some grouping := by
  cases grouping <;> rfl

end Grouping

namespace ImplicitFactor

def name : ImplicitFactor → String
  | primary => "primary"
  | exponent => "exponent"

def ofName? : String → Option ImplicitFactor
  | "primary" => some primary
  | "exponent" => some exponent
  | _ => none

theorem of_name?_name (implicit : ImplicitFactor) : ofName? implicit.name = some implicit := by
  cases implicit <;> rfl

end ImplicitFactor

namespace ReadMode

def standard : ReadMode := ⟨.lenient, .primary⟩

end ReadMode

end EscapeTime
