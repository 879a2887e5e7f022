import EscapeTime.Binary
import EscapeTime.Settings
import EscapeTime.Variables
import EscapeTime.Wgsl.Expr

set_option autoImplicit false

namespace EscapeTime

inductive FieldType where
  | f32
  | vec2
  | vec4
deriving DecidableEq

namespace FieldType

def name : FieldType → String
  | f32 => "f32"
  | vec2 => "vec2<f32>"
  | vec4 => "vec4<f32>"

end FieldType

structure Field where
  name : String
  type : FieldType
deriving DecidableEq

namespace Field

def declaration (field : Field) : String :=
  "    " ++ field.name ++ ": " ++ field.type.name ++ ",\n"

end Field

def frameFields : List Field :=
  [⟨"color", .vec4⟩, ⟨"t", .vec2⟩, ⟨"c", .vec2⟩, ⟨"canvas", .vec2⟩, ⟨"zoom", .f32⟩,
    ⟨"iterations", .f32⟩, ⟨"pan", .vec2⟩]

def slotFields (table : Variables) : List Field :=
  table.entries.map fun entry => ⟨Wgsl.slotField entry.2.id, .vec2⟩

def uniformFields (table : Variables) : List Field :=
  frameFields ++ slotFields table

structure Pair where
  first : Float32
  second : Float32
deriving DecidableEq

structure Frame where
  color : Color
  time : Float32
  c : Pair
  canvas : Pair
  zoom : Float32
  iterations : Float32
  pan : Pair
deriving DecidableEq

namespace Frame

def standard : Frame := ⟨.black, 0, ⟨0, 0⟩, ⟨800, 600⟩, 2, 256, ⟨0, 0⟩⟩

def ofSettings (settings : ShaderSettings) : Frame :=
  { standard with
    color := settings.interior
    iterations := Binary.ofInt32 settings.maxIterations.toNat }

def floats (frame : Frame) : List Float32 :=
  [frame.color.red, frame.color.green, frame.color.blue, frame.color.alpha, frame.time, 0,
    frame.c.first, frame.c.second, frame.canvas.first, frame.canvas.second, frame.zoom,
    frame.iterations, frame.pan.first, frame.pan.second]

end Frame

def frameLength : Nat := 14

def uniformLength (count : Nat) : Nat :=
  (frameLength + 2 * count + 3) / 4 * 4

def Variables.floats (table : Variables) : List Float32 :=
  table.entries.flatMap fun entry => [entry.2.real, entry.2.imag]

def packUniforms (frame : Frame) (table : Variables) : List Float32 :=
  let filled := frame.floats ++ table.floats
  filled ++ List.replicate (uniformLength table.size - filled.length) 0

def uniformBytes (floats : List Float32) : List UInt8 :=
  floats.flatMap fun x =>
    let bits : UInt32 := x.toBits
    [bits.toUInt8, (bits >>> 8).toUInt8, (bits >>> 16).toUInt8, (bits >>> 24).toUInt8]

end EscapeTime
