set_option autoImplicit false

namespace EscapeTime.CommandLine

inductive Command where
  | compile (initial step : String) (palette output : Option String) (json : Bool)
  | tokens (markup : String)
  | tree (markup : String)
  | presets (name : Option String) (json : Bool)
  | writeSettings (path : String)
deriving DecidableEq

structure Invocation where
  settings : Option String
  command : Command
deriving DecidableEq

inductive Request where
  | version
  | run (invocation : Invocation)
deriving DecidableEq

-- What an option takes. A path is never empty; a text may be.
inductive Takes where
  | nothing
  | text
  | path
deriving DecidableEq

def Takes.accepts : Takes → String → Bool
  | nothing, _ => false
  | text, _ => true
  | path, value => value ≠ ""

structure OptionForm where
  name : String
  letter : Option Char
  takes : Takes
deriving DecidableEq

structure Words where
  operands : List String
  options : List (String × String)
deriving DecidableEq

namespace Words

def empty : Words := ⟨[], []⟩

def value? (words : Words) (name : String) : Option String :=
  words.options.lookup name

def has (words : Words) (name : String) : Bool :=
  (words.value? name).isSome

def give? (words : Words) (name value : String) : Option Words :=
  if words.has name then none
  else some { words with options := words.options ++ [(name, value)] }

def addOperands (words : Words) (operands : List String) : Words :=
  { words with operands := words.operands ++ operands }

end Words

inductive Shape where
  | operand
  | divider
  | option (form : OptionForm) (attached : Option String)
  | unknown
deriving DecidableEq

def attached? : List Char → Option String
  | '=' :: value => some (String.ofList value)
  | _ => none

def longShape (forms : List OptionForm) (text : List Char) : Shape :=
  let name := String.ofList (text.takeWhile (· ≠ '='))
  match forms.find? (·.name = name) with
  | some form => .option form (attached? (text.dropWhile (· ≠ '=')))
  | none => .unknown

def letterShape (forms : List OptionForm) (letter : Char) (text : List Char) : Shape :=
  match forms.find? (·.letter = some letter) with
  | some form =>
      .option form (if text = [] then none else some ((attached? text).getD (String.ofList text)))
  | none => .unknown

def shape (forms : List OptionForm) (argument : String) : Shape :=
  match argument.toList with
  | ['-', '-'] => .divider
  | '-' :: '-' :: text => longShape forms text
  | '-' :: letter :: text => letterShape forms letter text
  | _ => .operand

def readWords? (forms : List OptionForm) : Words → List String → Option Words
  | words, [] => some words
  | words, argument :: rest =>
      match shape forms argument with
      | .operand => readWords? forms (words.addOperands [argument]) rest
      | .divider => some (words.addOperands rest)
      | .unknown => none
      | .option form (some value) =>
          if form.takes.accepts value then
            (words.give? form.name value).bind fun words => readWords? forms words rest
          else none
      | .option form none =>
          if form.takes = .nothing then
            (words.give? form.name "").bind fun words => readWords? forms words rest
          else
            match rest with
            | [] => none
            | value :: rest =>
                if shape forms value = .operand ∧ form.takes.accepts value then
                  (words.give? form.name value).bind fun words => readWords? forms words rest
                else none

def settingsForm : OptionForm := ⟨"config", none, .path⟩
def paletteForm : OptionForm := ⟨"color-map", none, .text⟩
def outputForm : OptionForm := ⟨"output", some 'o', .path⟩
def jsonForm : OptionForm := ⟨"json", none, .nothing⟩

def forms? : String → Option (List OptionForm)
  | "compile" => some [settingsForm, paletteForm, outputForm, jsonForm]
  | "tokens" | "ast" | "init-config" => some [settingsForm]
  | "presets" => some [settingsForm, jsonForm]
  | _ => none

def standardPath : String := "fractus.toml"

def command? (name : String) (words : Words) : Option Command :=
  match name, words.operands with
  | "compile", [initial, step] =>
      some (.compile initial step (words.value? paletteForm.name) (words.value? outputForm.name)
        (words.has jsonForm.name))
  | "tokens", [markup] => some (.tokens markup)
  | "ast", [markup] => some (.tree markup)
  | "presets", [] => some (.presets none (words.has jsonForm.name))
  | "presets", [preset] => some (.presets (some preset) (words.has jsonForm.name))
  | "init-config", [] => some (.writeSettings standardPath)
  | "init-config", [path] => if path = "" then none else some (.writeSettings path)
  | _, _ => none

-- A subcommand with its arguments. Settings named behind it go before `settings`.
def invocation? (settings : Option String) (name : String) (arguments : List String) :
    Option Invocation := do
  let words ← readWords? (← forms? name) .empty arguments
  return ⟨(words.value? settingsForm.name).or settings, ← command? name words⟩

def asksVersion (argument : String) : Bool :=
  argument = "--version" || argument.toList.take 2 = ['-', 'V']

def readRequest? : (settings : Option String) → List String → Option Request
  | _, [] => none
  | settings, argument :: rest =>
      if asksVersion argument then some .version
      else
        match shape [settingsForm] argument with
        | .operand => (invocation? settings argument rest).map .run
        | .divider | .unknown => none
        | .option form (some path) =>
            if settings = none ∧ form.takes.accepts path then readRequest? (some path) rest else none
        | .option form none =>
            match rest with
            | [] => none
            | path :: rest =>
                if settings = none ∧ shape [settingsForm] path = .operand ∧ form.takes.accepts path
                then readRequest? (some path) rest else none

def request? (arguments : List String) : Option Request :=
  readRequest? none arguments

end EscapeTime.CommandLine
