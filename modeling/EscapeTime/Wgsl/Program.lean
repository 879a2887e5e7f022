import EscapeTime.Settings
import EscapeTime.Uniforms

set_option autoImplicit false

namespace EscapeTime.Wgsl

def lines (texts : List String) : String :=
  String.join (texts.map (· ++ "\n"))

def vertexStage : String :=
  lines [
    "",
    "@vertex",
    "fn vs_main(@location(0) position: vec2<f32>) -> @builtin(position) vec4<f32> \x7b",
    "    return vec4<f32>(position, 0.0, 1.0);",
    "\x7d"]

def complexLibrary : String :=
  lines [
    "",
    "fn complex_mult(a: vec2<f32>, b: vec2<f32>) -> vec2<f32> \x7b",
    "    return vec2<f32>(a.x * b.x - a.y * b.y, a.x * b.y + a.y * b.x);",
    "\x7d",
    "",
    "fn complex_div(a: vec2<f32>, b: vec2<f32>) -> vec2<f32> \x7b",
    "    let d = dot(b, b);",
    "    return vec2<f32>(a.x * b.x + a.y * b.y, a.y * b.x - a.x * b.y) / d;",
    "\x7d",
    "",
    "fn complex_ln(a: vec2<f32>) -> vec2<f32> \x7b",
    "    return vec2<f32>(log(length(a)), atan2(a.y, a.x));",
    "\x7d",
    "",
    "fn complex_log(a: vec2<f32>) -> vec2<f32> \x7b",
    "    return complex_ln(a) / 2.302585092994046;",
    "\x7d",
    "",
    "fn complex_pow(a: vec2<f32>, b: vec2<f32>) -> vec2<f32> \x7b",
    "    if (a.x == 0.0 && a.y == 0.0) \x7b",
    "        return vec2<f32>(0.0, 0.0);",
    "    \x7d",
    "    let log_r = log(length(a));",
    "    let theta = atan2(a.y, a.x);",
    "    let magnitude = exp(b.x * log_r - b.y * theta);",
    "    let angle = b.y * log_r + b.x * theta;",
    "    return magnitude * vec2<f32>(cos(angle), sin(angle));",
    "\x7d",
    "",
    "fn complex_sqrt(a: vec2<f32>) -> vec2<f32> \x7b",
    "    let r = length(a);",
    "    var s: f32 = 1.0;",
    "    if (a.y < 0.0) \x7b",
    "        s = -1.0;",
    "    \x7d",
    "    return vec2<f32>(sqrt(max((r + a.x) * 0.5, 0.0)), s * sqrt(max((r - a.x) * 0.5, 0.0)));",
    "\x7d",
    "",
    "fn complex_sin(a: vec2<f32>) -> vec2<f32> \x7b",
    "    return vec2<f32>(sin(a.x) * cosh(a.y), cos(a.x) * sinh(a.y));",
    "\x7d",
    "",
    "fn complex_cos(a: vec2<f32>) -> vec2<f32> \x7b",
    "    return vec2<f32>(cos(a.x) * cosh(a.y), -sin(a.x) * sinh(a.y));",
    "\x7d",
    "",
    "fn complex_tan(a: vec2<f32>) -> vec2<f32> \x7b",
    "    return complex_div(complex_sin(a), complex_cos(a));",
    "\x7d"]

-- The bounds of the escape loop. The radius is squared in double precision.
def constants (settings : ShaderSettings) : String :=
  let radius := Binary.widen settings.escapeRadius
  lines [
    "// Fractus Generated Shader",
    "const MAX_ITERATIONS: u32 = " ++ toString settings.maxIterations.toNat ++ "u;",
    "const ESCAPE_RADIUS_SQ: f32 = " ++ number (radius * radius) ++ ";"]

def uniformStruct (fields : List Field) : String :=
  lines ["", "struct Uniforms \x7b"] ++
    String.join (fields.map Field.declaration) ++
    lines ["\x7d;", "@group(0) @binding(0) var<uniform> uniforms: Uniforms;"]

def paletteFunction (palette : Palette) : String :=
  lines ["", "fn color_map(t: f32) -> vec3<f32> \x7b"] ++ palette.body ++ lines ["", "\x7d"]

def fragmentStage (initial step : String) : String :=
  lines [
    "",
    "@fragment",
    "fn fs_main(@builtin(position) pos: vec4<f32>) -> @location(0) vec4<f32> \x7b",
    "    let uv = pos.xy / uniforms.canvas * 2.0 - 1.0;",
    "    let aspect = uniforms.canvas.x / uniforms.canvas.y;",
    "    let x = vec2<f32>((uv.x + uniforms.pan.x) * aspect, uv.y + uniforms.pan.y) * uniforms.zoom;",
    "",
    "    var z = vec2<f32>(0.0, 0.0);",
    "    z = " ++ initial ++ ";",
    "",
    "    let limit = min(u32(uniforms.iterations), MAX_ITERATIONS);",
    "    for (var n: u32 = 0u; n < limit; n = n + 1u) \x7b",
    "        z = " ++ step ++ ";",
    "        if (dot(z, z) > ESCAPE_RADIUS_SQ) \x7b",
    "            let smoothed = f32(n) + 1.0 - log2(log(length(z)));",
    "            return vec4<f32>(color_map(smoothed / f32(limit)), 1.0);",
    "        \x7d",
    "    \x7d",
    "    return uniforms.color;",
    "\x7d"]

def program (settings : ShaderSettings) (initial step : String) (table : Variables) : String :=
  constants settings ++ uniformStruct (uniformFields table) ++ vertexStage ++ complexLibrary ++
    paletteFunction settings.palette ++ fragmentStage initial step

end EscapeTime.Wgsl
