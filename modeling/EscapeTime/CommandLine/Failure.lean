import EscapeTime.Error

set_option autoImplicit false

namespace EscapeTime

structure Failure where
  message : String
  causes : List String
deriving DecidableEq

-- An error as causes, the outermost first. A fault of a file is named once more on its own.
def Error.causes (error : Error) : List String :=
  match error with
  | file fault => [error.message, fault.message]
  | _ => [error.message]

namespace Failure

def ofError (error : Error) : Failure :=
  ⟨error.message, error.causes.drop 1⟩

def during (message : String) (error : Error) : Failure :=
  ⟨message, error.causes⟩

def cause (mark text : String) : String :=
  let indented := text.toList.flatMap fun c =>
    if c = '\n' then c :: List.replicate mark.length ' ' else [c]
  "\n" ++ mark ++ String.ofList indented

def causeLines : List String → String
  | [] => ""
  | [single] => cause "    " single
  | causes => String.join (causes.mapIdx fun i text => cause ("    " ++ toString i ++ ": ") text)

def render (failure : Failure) : String :=
  "Error: " ++ failure.message ++
    (if failure.causes = [] then "" else "\n\nCaused by:" ++ causeLines failure.causes) ++ "\n"

end Failure

end EscapeTime
