import EscapeTime.Decimal.Shortest

set_option autoImplicit false

namespace EscapeTime.Decimal

structure Style where
  nan : String
  infinity : String
  negativeInfinity : String
  zero : String
  tie : Tie
  finite : Decimal → String

namespace Style

def write (style : Style) (format : Format) (negative : Bool) (pattern : Nat) : String :=
  if format.infinity < pattern then style.nan
  else if pattern = format.infinity then
    if negative then style.negativeInfinity else style.infinity
  else
    let magnitude := if pattern = 0 then style.zero else style.finite (shortest format style.tie pattern)
    if negative then "-" ++ magnitude else magnitude

def write64 (style : Style) (x : Float) : String :=
  style.write .binary64 (Binary.isNegative64 x) (Binary.magnitude64 x)

def write32 (style : Style) (x : Float32) : String :=
  style.write .binary32 (Binary.isNegative32 x) (Binary.magnitude32 x)

end Style

end EscapeTime.Decimal
