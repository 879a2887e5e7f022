import EscapeTime.Preset
import EscapeTime.Wgsl.Program

set_option autoImplicit false

namespace EscapeTime

structure Shader where
  source : String
  uniformLength : Nat
  initialCode : String
  stepCode : String
deriving DecidableEq

@[ext]
structure Session where
  settings : Settings
  table : Variables
  shader : Option Shader
deriving DecidableEq

namespace Session

def new (settings : Settings) : Session := ⟨settings, .empty, none⟩

def readFormula (settings : Settings) (markup source : String) : Except Error Formula :=
  let scan := Markup.scan settings.names markup
  match scan.failure with
  | some failure => .error failure.error
  | none => (Formula.parse settings.reading scan.tokens).result source

def assemble (settings : ShaderSettings) (table : Variables) (initialCode stepCode : String) :
    Shader :=
  ⟨Wgsl.program settings initialCode stepCode table, uniformLength table.size,
    initialCode, stepCode⟩

def build (settings : Settings) (table : Variables) (initial step : String) :
    Except Error (Variables × Shader) := do
  let initialFormula ← readFormula settings initial "initial value"
  let stepFormula ← readFormula settings step "iteration step"
  let table ← table.allocate initialFormula stepFormula
  let initialCode ← (initialFormula.code table).mapError CodeFault.error
  let stepCode ← (stepFormula.code table).mapError CodeFault.error
  return (table, assemble settings.shader table initialCode.render stepCode.render)

def compile (session : Session) (initial step : String) : Except Error Session := do
  let (table, shader) ← build session.settings session.table initial step
  return { session with table, shader := some shader }

def setVariable (session : Session) (name : String) (real imag : Float32) :
    Except Error Session := do
  let table ← session.table.assign name real imag
  return { session with table }

def setPalette (session : Session) (palette : Palette) : Session :=
  let shader := { session.settings.shader with palette }
  { session with
    settings := { session.settings with shader }
    shader := session.shader.map fun current =>
      { current with
        source := Wgsl.program shader current.initialCode current.stepCode session.table } }

@[ext]
structure Outcome where
  session : Session
  error : Option Error
deriving DecidableEq

def commit (session : Session) (result : Except Error Session) : Outcome :=
  match result with
  | .ok changed => ⟨changed, none⟩
  | .error error => ⟨session, some error⟩

def seed (session : Session) : List Seed → Outcome
  | [] => ⟨session, none⟩
  | first :: rest =>
      match session.setVariable first.name first.real first.imag with
      | .ok changed => changed.seed rest
      | .error error => ⟨session, some error⟩

-- A preset has to end with a shader.
def Outcome.withShader (outcome : Outcome) : Outcome :=
  if outcome.error = none ∧ outcome.session.shader = none then
    { outcome with error := some (.compile "preset produced no shader") }
  else outcome

def applyPreset (session : Session) (name : String) : Outcome :=
  match Preset.find name with
  | .error error => ⟨session, some error⟩
  | .ok preset =>
      match session.compile preset.initial preset.step with
      | .error error => ⟨session, some error⟩
      | .ok compiled => (compiled.seed preset.seeds).withShader

inductive Operation where
  | compile (initial step : String)
  | applyPreset (name : String)
  | setVariable (name : String) (real imag : Float32)
  | setPalette (palette : Palette)
deriving DecidableEq

def perform (session : Session) : Operation → Outcome
  | .compile initial step => session.commit (session.compile initial step)
  | .applyPreset name => session.applyPreset name
  | .setVariable name real imag => session.commit (session.setVariable name real imag)
  | .setPalette palette => ⟨session.setPalette palette, none⟩

def run (session : Session) (operations : List Operation) : Session :=
  operations.foldl (fun current operation => (current.perform operation).session) session

def frame (session : Session) : Frame :=
  .ofSettings session.settings.shader

def packUniforms (session : Session) (frame : Frame) : List Float32 :=
  EscapeTime.packUniforms frame session.table

end Session

def compileSource (initial step : String) : Except Error String := do
  let (_, shader) ← Session.build .standard .empty initial step
  return shader.source

end EscapeTime
