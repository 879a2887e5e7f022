set_option autoImplicit false

namespace EscapeTime

structure Format where
  precision : Nat
  exponentBits : Nat
deriving DecidableEq

namespace Format

def binary32 : Format := ⟨24, 8⟩

def binary64 : Format := ⟨53, 11⟩

def minExponent (format : Format) : Int :=
  3 - (Nat.pow 2 (format.exponentBits - 1) : Int) - (format.precision : Int)

def binade (format : Format) : Nat :=
  Nat.pow 2 (format.precision - 1)

def infinity (format : Format) : Nat :=
  (Nat.pow 2 format.exponentBits - 1) * format.binade

def nan (format : Format) : Nat :=
  format.infinity + format.binade / 2

def signBit (format : Format) : Nat :=
  Nat.pow 2 (format.exponentBits + format.precision - 1)

def significand (format : Format) (pattern : Nat) : Nat :=
  if pattern < format.binade then pattern else pattern % format.binade + format.binade

def exponent (format : Format) (pattern : Nat) : Int :=
  if pattern < format.binade then format.minExponent
  else format.minExponent + (pattern / format.binade - 1 : Nat)

end Format

/-- The quotient `num / den` of natural numbers, rounded to the nearest; a half goes to the even
neighbour. -/
def divNearest (num den : Nat) : Nat :=
  if 2 * (num % den) < den then num / den
  else if den < 2 * (num % den) then num / den + 1
  else num / den + num / den % 2

-- A nonnegative fraction; `den` is never zero where one is built.
structure Ratio where
  num : Nat
  den : Nat
deriving DecidableEq

namespace Ratio

def scale (base : Nat) (ratio : Ratio) (power : Int) : Ratio :=
  if 0 ≤ power then ⟨ratio.num * Nat.pow base power.toNat, ratio.den⟩
  else ⟨ratio.num, ratio.den * Nat.pow base (-power).toNat⟩

def isLarge (ratio : Ratio) : Bool :=
  ratio.den ≤ ratio.num

def log2 (ratio : Ratio) : Int :=
  let guess : Int := (ratio.num.log2 : Int) - ratio.den.log2
  if (ratio.scale 2 (-guess)).isLarge then guess else guess - 1

end Ratio

namespace Format

def ratio (format : Format) (pattern : Nat) : Ratio :=
  Ratio.scale 2 ⟨format.significand pattern, 1⟩ (format.exponent pattern)

/-- The pattern of the number nearest to a ratio; a half goes to the even neighbour, and what is
too large goes to infinity. -/
def nearest (format : Format) (ratio : Ratio) : Nat :=
  if ratio.num = 0 then 0
  else
    let exponent := max format.minExponent (ratio.log2 - ((format.precision - 1 : Nat) : Int))
    let scaled := ratio.scale 2 (-exponent)
    min format.infinity
      ((exponent - format.minExponent).toNat * format.binade + divNearest scaled.num scaled.den)

def convert (source target : Format) (pattern : Nat) : Nat :=
  if source.infinity < pattern then target.nan
  else if pattern = source.infinity then target.infinity
  else target.nearest (source.ratio pattern)

end Format

namespace Binary

def magnitude64 (x : Float) : Nat :=
  x.toBits.toNat % Format.binary64.signBit

def isNegative64 (x : Float) : Bool :=
  Format.binary64.signBit ≤ x.toBits.toNat

def magnitude32 (x : Float32) : Nat :=
  x.toBits.toNat % Format.binary32.signBit

def isNegative32 (x : Float32) : Bool :=
  Format.binary32.signBit ≤ x.toBits.toNat

def ofMagnitude64 (negative : Bool) (pattern : Nat) : Float :=
  Float.ofBits (UInt64.ofNat (if negative then pattern + Format.binary64.signBit else pattern))

def ofMagnitude32 (negative : Bool) (pattern : Nat) : Float32 :=
  Float32.ofBits (UInt32.ofNat (if negative then pattern + Format.binary32.signBit else pattern))

def narrow (x : Float) : Float32 :=
  ofMagnitude32 (isNegative64 x) (Format.binary64.convert .binary32 (magnitude64 x))

def widen (x : Float32) : Float :=
  ofMagnitude64 (isNegative32 x) (Format.binary32.convert .binary64 (magnitude32 x))

def ofInt32 (n : Int) : Float32 :=
  ofMagnitude32 (n < 0) (Format.binary32.nearest ⟨n.natAbs, 1⟩)

def isFinite32 (x : Float32) : Bool :=
  magnitude32 x < Format.binary32.infinity

end Binary

end EscapeTime
