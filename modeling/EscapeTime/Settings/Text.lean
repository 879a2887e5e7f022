import EscapeTime.Error
import EscapeTime.Settings.Decode
import EscapeTime.Toml.Writer

set_option autoImplicit false

namespace EscapeTime.Settings

def parse? (text : String) : Option Settings :=
  (Toml.read? text).bind (ofDatum? .toml)

def line (text : String) : String :=
  text ++ "\n"

def paletteLine : Palette → String
  | .custom _ => ""
  | palette => line ("color_map = " ++ Toml.quoteValue palette.name)

def paletteTable : Palette → String
  | .custom body => "\n" ++ line "[shader.color_map]" ++ line ("custom = " ++ Toml.quoteValue body)
  | _ => ""

def colorLines (color : Color) : String :=
  let part := fun x => line ("    " ++ Toml.number x ++ ",")
  line "non_escape_color = [" ++ part color.red ++ part color.green ++ part color.blue ++
    part color.alpha ++ line "]"

def shaderText (shader : ShaderSettings) : String :=
  line "[shader]" ++ line ("max_iterations = " ++ toString shader.maxIterations.toNat) ++
    line ("escape_radius = " ++ Toml.number shader.escapeRadius) ++ paletteLine shader.palette ++
    colorLines shader.interior ++ paletteTable shader.palette

def readingText (mode : ReadMode) : String :=
  line "[parser]" ++ line ("grouping = " ++ Toml.quoteValue mode.grouping.name) ++
    line ("implicit_products = " ++ Toml.quoteValue mode.implicit.name)

def namesText (names : Dictionary) : String :=
  line "[parameters.names]" ++ String.join (names.entries.map fun entry =>
    line (Toml.quoteKey entry.1 ++ " = " ++ Toml.quoteValue entry.2))

def render (settings : Settings) : String :=
  shaderText settings.shader ++ "\n" ++ readingText settings.reading ++ "\n" ++
    namesText settings.names

def ofText (path text : String) : Except Error Settings :=
  match parse? text with
  | some settings => .ok settings
  | none => .error (.config "invalid settings" path)

def ofRead (path : String) (read : Except FileFault String) : Except Error Settings := do
  ofText path (← read.mapError .file)

end EscapeTime.Settings
