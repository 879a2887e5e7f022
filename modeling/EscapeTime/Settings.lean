import EscapeTime.Dictionary
import EscapeTime.Formula.Mode
import EscapeTime.Palette

set_option autoImplicit false

namespace EscapeTime

structure Color where
  red : Float32
  green : Float32
  blue : Float32
  alpha : Float32
deriving DecidableEq

structure ShaderSettings where
  maxIterations : UInt32
  escapeRadius : Float32
  palette : Palette
  interior : Color
deriving DecidableEq

structure Settings where
  shader : ShaderSettings
  reading : ReadMode
  names : Dictionary
deriving DecidableEq

namespace Color

def black : Color := ⟨0, 0, 0, 1⟩

end Color

namespace ShaderSettings

def standard : ShaderSettings := ⟨256, 2, .rainbow, .black⟩

end ShaderSettings

namespace Settings

def standard : Settings := ⟨.standard, .standard, .standard⟩

end Settings

end EscapeTime
