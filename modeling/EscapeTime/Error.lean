import EscapeTime.Formula.Code
import EscapeTime.Formula.Parse
import EscapeTime.Formula.Value
import EscapeTime.Markup
import EscapeTime.Palette
import EscapeTime.Text.Extending
import EscapeTime.Text.Visible

set_option autoImplicit false

namespace EscapeTime

inductive FileFault where
  | notFound
  | notDirectory
  | isDirectory
  | nameTooLong
  | notText
  | other (message : String)
deriving DecidableEq

namespace FileFault

def message : FileFault → String
  | notFound => "No such file or directory (os error 2)"
  | notDirectory => "Not a directory (os error 20)"
  | isDirectory => "Is a directory (os error 21)"
  | nameTooLong => "File name too long (os error 36)"
  | notText => "stream did not contain valid UTF-8"
  | other message => message

def decode (bytes : ByteArray) : Except FileFault String :=
  match String.fromUTF8? bytes with
  | some text => .ok text
  | none => .error notText

theorem decode_utf8 (text : String) : decode text.toUTF8 = .ok text := by
  have valid : text.toUTF8.IsValidUTF8 := text.isValidUTF8
  rw [decode, String.fromUTF8?, dif_pos valid]
  rfl

end FileFault

inductive Error where
  | unknownCommand (command : String) (offset : Nat)
  | parse (message source : String)
  | compile (message : String)
  | config (message path : String)
  | unknownPalette (name : String)
  | unknownPreset (name : String)
  | unknownVariable (name : String)
  | file (fault : FileFault)
deriving DecidableEq

namespace Error

-- A character of a quoted path; what does not show as itself, or would join the character in front of it, is
-- escaped.
def quoteChar (c : Char) : String :=
  match c with
  | '"' => "\\\""
  | '\\' => "\\\\"
  | '\n' => "\\n"
  | '\t' => "\\t"
  | '\r' => "\\r"
  | '\x00' => "\\0"
  | c =>
      if Text.isExtending c || !Text.isVisible c then
        "\\u" ++ String.singleton '{' ++ String.ofList (Nat.toDigits 16 c.toNat) ++ String.singleton '}'
      else String.singleton c

def quote (text : String) : String :=
  "\"" ++ String.join (text.toList.map quoteChar) ++ "\""

def message : Error → String
  | unknownCommand command offset =>
      "lex error: unknown command '\\" ++ command ++ "' at character " ++ toString offset
  | parse message source => "parse error: " ++ message ++ " (in " ++ source ++ ")"
  | compile message => "compile error: " ++ message
  | config message path => "config error: " ++ message ++ " (" ++ quote path ++ ")"
  | unknownPalette name => "unknown color map: " ++ name
  | unknownPreset name => "unknown preset: " ++ name
  | unknownVariable name => "unknown variable: " ++ name
  | file fault => "IO error: " ++ fault.message

end Error

def Markup.UnknownCommand.error (failure : Markup.UnknownCommand) : Error :=
  .unknownCommand failure.command failure.offset

def CodeFault.error (fault : CodeFault) : Error :=
  .compile fault.message

def EvalFault.error : EvalFault → Error
  | notUnary kind => .compile (kind.name ++ " is not a unary operator")
  | notBinary kind => .compile (kind.name ++ " is not a binary operator")
  | badNumber text => .compile ("invalid numeric literal '" ++ text ++ "'")
  | unbound name => .unknownVariable name
  | invalid message => .compile ("cannot evaluate invalid expression: " ++ message)

def Parse.result (parse : Parse) (source : String) : Except Error Formula :=
  if parse.valid then .ok parse.tree
  else .error (.parse (parse.message.getD "invalid syntax") source)

def Variables.allocate (table : Variables) (initial step : Formula) :
    Except Error Variables :=
  match table.reconcile initial step with
  | ⟨renewed, none⟩ => .ok renewed
  | ⟨_, some message⟩ => .error (.parse message "variable allocation")

def Variables.assign (table : Variables) (name : String) (real imag : Float32) :
    Except Error Variables :=
  match table.set? name real imag with
  | some changed => .ok changed
  | none => .error (.unknownVariable name)

def Palette.find (name : String) : Except Error Palette :=
  match ofAnyCase? name with
  | some palette => .ok palette
  | none => .error (.unknownPalette name)

end EscapeTime
