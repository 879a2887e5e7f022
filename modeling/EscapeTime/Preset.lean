import EscapeTime.Error

set_option autoImplicit false

namespace EscapeTime

structure Seed where
  name : String
  real : Float32
  imag : Float32
deriving DecidableEq

structure Preset where
  name : String
  initial : String
  step : String
  seeds : List Seed
deriving DecidableEq

namespace Preset

def all : List Preset :=
  [⟨"time-julia-set", "x",
      "z^2+a\\left(\\cos\\left(t\\right)+i\\sin\\left(t\\right)\\right)", [⟨"a", 0.9, 0⟩]⟩,
    ⟨"mouse-julia-set", "ax", "z^2 + c", [⟨"a", 1, 0⟩]⟩,
    ⟨"star-julia", "x", "z^5 + a", [⟨"a", 0.765, 0.535⟩]⟩,
    ⟨"inverse-julia", "x", "\\frac{1}{z^2} + a", [⟨"a", 0.016, 0.535⟩]⟩,
    ⟨"mandelbrot-set", "0", "z^2 + x", []⟩,
    ⟨"sine-mandelbrot", "0", "\\sin\\left(z^2+x\\right)", []⟩,
    ⟨"moth", "x", "z^x+z^z", []⟩,
    ⟨"web", "x^5",
      "\\frac{1}{4}\\sin\\left(z^2+\\ln\\left(z\\right)+\\cos\\left(2t\\right)+" ++
        "i\\sin\\left(2t\\right)\\right)", []⟩]

def find (name : String) : Except Error Preset :=
  match all.find? fun preset => preset.name = name with
  | some preset => .ok preset
  | none => .error (.unknownPreset name)

end Preset

end EscapeTime
