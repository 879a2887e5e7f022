import EscapeTime.CommandLine

set_option autoImplicit false

namespace EscapeTime

-- The fault behind an error of the system. Its number is negated by some calls.
def FileFault.ofSystem : IO.Error → FileFault
  | .noFileOrDirectory .. => notFound
  | .inappropriateType _ 21 _ => isDirectory
  | .inappropriateType .. => notDirectory
  | .invalidArgument _ 36 _ | .invalidArgument _ 4294967260 _ => nameTooLong
  | .permissionDenied .. => other "Permission denied (os error 13)"
  | error => other (toString error)

def readText (path : String) : IO (Except FileFault String) := do
  try
    return FileFault.decode (← IO.FS.readBinFile path)
  catch error => return .error (.ofSystem error)

def isTaken (path : String) : IO Bool := do
  try
    discard (IO.FS.realPath path)
    return true
  catch _ => return false

def writeText (path text : String) : IO (Except FileFault Unit) := do
  try
    IO.FS.writeFile path text
    return .ok ()
  catch error => return .error (.ofSystem error)

def printText (stream : Stream) (text : String) : IO (Option FileFault) := do
  try
    let handle ← match stream with
      | .output => IO.getStdout
      | .errors => IO.getStderr
    handle.putStr text
    handle.flush
    return none
  catch error => return some (.ofSystem error)

-- The log is off.
def Script.perform : Script → IO Nat
  | finish status => return status
  | print stream text next => do
      match ← printText stream text with
      | none => next.perform
      | some fault =>
          discard (printText .errors (refusedText stream fault))
          return refusedStatus
  | tell stream text next => do
      discard (printText stream text)
      next.perform
  | log _ next => next.perform
  | read path next => do (next (← readText path)).perform
  | look path next => do (next (← isTaken path)).perform
  | write path text next => do (next (← writeText path text)).perform

end EscapeTime

def main (arguments : List String) : IO UInt32 := do
  return UInt32.ofNat (← (EscapeTime.CommandLine.script arguments).perform)
