set_option autoImplicit false

namespace EscapeTime

structure Complex where
  re : Float
  im : Float
deriving DecidableEq

namespace Complex

def zero : Complex := ⟨0, 0⟩

def unit : Complex := ⟨0, 1⟩

def real (re : Float) : Complex := ⟨re, 0⟩

def add (a b : Complex) : Complex := ⟨a.re + b.re, a.im + b.im⟩

def sub (a b : Complex) : Complex := ⟨a.re - b.re, a.im - b.im⟩

def mul (a b : Complex) : Complex :=
  ⟨a.re * b.re - a.im * b.im, a.re * b.im + a.im * b.re⟩

def neg (a : Complex) : Complex := ⟨-a.re, -a.im⟩

def normSq (a : Complex) : Float := a.re * a.re + a.im * a.im

def div (a b : Complex) : Complex :=
  let d := b.normSq
  ⟨(a.re * b.re + a.im * b.im) / d, (a.im * b.re - a.re * b.im) / d⟩

def abs (a : Complex) : Float := a.normSq.sqrt

def arg (a : Complex) : Float := Float.atan2 a.im a.re

def ln (a : Complex) : Complex := ⟨a.abs.log, a.arg⟩

def log (a : Complex) : Complex :=
  let ten := Float.log 10
  ⟨a.ln.re / ten, a.ln.im / ten⟩

-- The principal power in polar form. A zero base gives zero for every exponent.
def pow (a b : Complex) : Complex :=
  if a.re == 0 && a.im == 0 then zero
  else
    let logRadius := a.abs.log
    let theta := a.arg
    let magnitude := (b.re * logRadius - b.im * theta).exp
    let angle := b.im * logRadius + b.re * theta
    ⟨magnitude * angle.cos, magnitude * angle.sin⟩

def clamp (x : Float) : Float := if 0 < x then x else 0

def sqrt (a : Complex) : Complex :=
  let radius := a.abs
  let sign : Float := if a.im < 0 then -1 else 1
  ⟨(clamp ((radius + a.re) * 0.5)).sqrt, sign * (clamp ((radius - a.re) * 0.5)).sqrt⟩

def sin (a : Complex) : Complex := ⟨a.re.sin * a.im.cosh, a.re.cos * a.im.sinh⟩

def cos (a : Complex) : Complex := ⟨a.re.cos * a.im.cosh, -a.re.sin * a.im.sinh⟩

def tan (a : Complex) : Complex := a.sin.div a.cos

def same (a b : Complex) : Bool := a.re == b.re && a.im == b.im

def isNear (a b : Complex) (tolerance : Float) : Bool :=
  (a.re - b.re).abs ≤ tolerance && (a.im - b.im).abs ≤ tolerance

end Complex

end EscapeTime
