import EscapeTime.CommandLine.Arguments
import EscapeTime.CommandLine.Failure
import EscapeTime.CommandLine.Script
import EscapeTime.Json
import EscapeTime.Settings.Text

set_option autoImplicit false

namespace EscapeTime.CommandLine

def versionText : String := "fractus 0.1.0\n"

def usageText : String :=
  "usage: fractus [--config PATH] (compile INITIAL STEP | tokens MARKUP | ast MARKUP | " ++
    "presets [NAME] | init-config [PATH])\n"

def padLeft (width : Nat) (text : String) : String :=
  String.ofList (List.replicate (width - text.length) ' ') ++ text

def padRight (width : Nat) (text : String) : String :=
  text ++ String.ofList (List.replicate (width - text.length) ' ')

def fail (failure : Failure) : Script :=
  .tell .errors failure.render (.finish 1)

def tokenLine (token : Token) : String :=
  padLeft 4 (toString token.offset) ++ "  " ++ token.display ++ "\n"

def tokens (settings : Settings) (markup : String) : Script :=
  let scan := Markup.scan settings.names markup
  .log .worked <|
    .printAll .output (scan.tokens.map tokenLine) <|
      .printAll .errors (scan.warnings.map fun warning => warning.display ++ "\n") <|
        match scan.failure with
        | some failure => fail (.ofError failure.error)
        | none => .finish 0

-- The tree is printed even if it is not valid.
def tree (settings : Settings) (markup : String) : Script :=
  let scan := Markup.scan settings.names markup
  .log .worked <|
    match scan.failure with
    | some failure => fail (.ofError failure.error)
    | none =>
        let parse := Formula.parse settings.reading scan.tokens
        .print .output (parse.tree.display ++ "\n") <|
          match parse.message with
          | some message => fail ⟨"invalid syntax: " ++ message, []⟩
          | none => .finish 0

def presetLine (preset : Preset) : String :=
  padRight 16 preset.name ++ " z0 = " ++ padRight 6 preset.initial ++ " z -> " ++ preset.step ++
    "\n"

def emit (session : Session) (output : Option String) (json : Bool) : Script :=
  match session.shader with
  | none => fail ⟨"no shader has been compiled", []⟩
  | some shader =>
      if json then .print .output ((shader.report session.table).pretty ++ "\n") (.finish 0)
      else
        match output with
        | none => .print .output shader.source (.finish 0)
        | some path =>
            .write path shader.source fun
              | .ok () => .log (.wrote path) (.finish 0)
              | .error fault => fail ⟨"failed to write shader: " ++ path, [fault.message]⟩

def withPalette (settings : Settings) : Option String → Except Error Settings
  | none => .ok settings
  | some name => do
      let palette ← Palette.find name
      return { settings with shader := { settings.shader with palette } }

def compile (settings : Settings) (initial step : String) (palette output : Option String)
    (json : Bool) : Script :=
  match withPalette settings palette with
  | .error error => fail (.ofError error)
  | .ok settings =>
      .log .worked <|
        match (Session.new settings).compile initial step with
        | .error error => fail (.during "compilation failed" error)
        | .ok session => emit session output json

def presets (settings : Settings) (name : Option String) (json : Bool) : Script :=
  match name with
  | none => .printAll .output (Preset.all.map presetLine) (.finish 0)
  | some name =>
      .log .worked <|
        let outcome := (Session.new settings).applyPreset name
        match outcome.error with
        | some error => fail (.during ("failed to compile preset '" ++ name ++ "'") error)
        | none => emit outcome.session none json

def confirmation (path : String) : String :=
  "Wrote default configuration to " ++ path ++ "\n"

-- The file is there before the run knows whether it can say so.
def writeSettings (path : String) : Script :=
  .look path fun
    | true => fail ⟨path ++ " already exists", []⟩
    | false =>
        .write path Settings.standard.render fun
          | .ok () => .print .output (confirmation path) (.finish 0)
          | .error fault => fail (.during ("failed to write config: " ++ path) (.file fault))

def perform (settings : Settings) : Command → Script
  | .compile initial step palette output json => compile settings initial step palette output json
  | .tokens markup => tokens settings markup
  | .tree markup => tree settings markup
  | .presets name json => presets settings name json
  | .writeSettings path => writeSettings path

def invoke (invocation : Invocation) : Script :=
  match invocation.settings with
  | none => perform .standard invocation.command
  | some path =>
      .read path fun read =>
        match Settings.ofRead path read with
        | .ok settings => perform settings invocation.command
        | .error error => fail (.during ("failed to load config: " ++ path) error)

def script (arguments : List String) : Script :=
  match request? arguments with
  | none => .tell .errors usageText (.finish 2)
  | some .version => .tell .output versionText (.finish 0)
  | some (.run invocation) => invoke invocation

end EscapeTime.CommandLine
