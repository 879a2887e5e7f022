set_option autoImplicit false

namespace EscapeTime

inductive Palette where
  | green
  | rainbow
  | viridis
  | custom (body : String)
deriving DecidableEq

namespace Palette

def name : Palette → String
  | green => "green"
  | rainbow => "rainbow"
  | viridis => "viridis"
  | custom _ => "custom"

def greenBody : String :=
  "    return 2.0 * mix(vec3<f32>(0.0, 0.0, 0.0), vec3<f32>(0.4, 0.8, 0.6), vec3<f32>(t));"

def rainbowBody : String :=
  "    let c = vec3<f32>(5.0 * t, 0.5, 1.0);\n" ++
  "    let k = vec4<f32>(1.0, 2.0 / 3.0, 1.0 / 3.0, 3.0);\n" ++
  "    let p = abs(fract(c.xxx + k.xyz) * 6.0 - k.www);\n" ++
  "    return c.z * mix(k.xxx, clamp(p - k.xxx, vec3<f32>(0.0), vec3<f32>(1.0)), vec3<f32>(c.y));"

def viridisBody : String :=
  "    let s = t * 2.0;\n" ++
  "    let c0 = vec3<f32>(0.274344, 0.004462, 0.331359);\n" ++
  "    let c1 = vec3<f32>(0.108915, 1.397291, 1.388110);\n" ++
  "    let c2 = vec3<f32>(-0.319631, 0.243490, 0.156419);\n" ++
  "    let c3 = vec3<f32>(-4.629188, -5.882803, -19.646115);\n" ++
  "    let c4 = vec3<f32>(6.181719, 14.388598, 57.442181);\n" ++
  "    let c5 = vec3<f32>(4.876952, -13.955112, -66.125783);\n" ++
  "    let c6 = vec3<f32>(-5.513165, 4.709245, 26.582180);\n" ++
  "    return c0 + s * (c1 + s * (c2 + s * (c3 + s * (c4 + s * (c5 + s * c6)))));"

def body : Palette → String
  | green => greenBody
  | rainbow => rainbowBody
  | viridis => viridisBody
  | custom text => text

def ofName? : String → Option Palette
  | "green" => some green
  | "rainbow" => some rainbow
  | "viridis" => some viridis
  | _ => none

def ofAnyCase? (name : String) : Option Palette :=
  ofName? (name.map Char.toLower)

end Palette

end EscapeTime
