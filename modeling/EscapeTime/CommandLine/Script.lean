import EscapeTime.CommandLine.Files

set_option autoImplicit false

namespace EscapeTime

inductive Stream where
  | output
  | errors
deriving DecidableEq

def Stream.name : Stream → String
  | output => "stdout"
  | errors => "stderr"

structure Transcript where
  output : String
  errors : String
deriving DecidableEq

namespace Transcript

def empty : Transcript := ⟨"", ""⟩

def add (shown : Transcript) (text : String) : Stream → Transcript
  | .output => { shown with output := shown.output ++ text }
  | .errors => { shown with errors := shown.errors ++ text }

end Transcript

inductive LogRecord where
  | worked
  | wrote (path : String)
deriving DecidableEq

-- Any behaviour of what a run prints to: a stream can refuse a text after what it has taken, and the
-- log, whose lines carry times and are not modelled, can refuse a record.
structure Console where
  refusal? : Transcript → Stream → String → Option FileFault
  logRefusal? : LogRecord → Option FileFault

namespace Console

def willing : Console := ⟨fun _ _ _ => none, fun _ => none⟩

def tell (console : Console) (shown : Transcript) (stream : Stream) (text : String) : Transcript :=
  match console.refusal? shown stream text with
  | none => shown.add text stream
  | some _ => shown

end Console

structure Report where
  status : Nat
  shown : Transcript
deriving DecidableEq

-- What a run does, as data. A text that has to be printed ends the run if it is refused; one that is only
-- told does not.
inductive Script where
  | finish (status : Nat)
  | print (stream : Stream) (text : String) (next : Script)
  | tell (stream : Stream) (text : String) (next : Script)
  | log (record : LogRecord) (next : Script)
  | read (path : String) (next : Except FileFault String → Script)
  | look (path : String) (next : Bool → Script)
  | write (path text : String) (next : Except FileFault Unit → Script)

namespace Script

def refusedStatus : Nat := 101

def refusedText (stream : Stream) (fault : FileFault) : String :=
  "failed printing to " ++ stream.name ++ ": " ++ fault.message ++ "\n"

def refused (console : Console) (shown : Transcript) (stream : Stream) (fault : FileFault) : Report :=
  ⟨refusedStatus, console.tell shown .errors (refusedText stream fault)⟩

-- A write that fails changes nothing.
def run (console : Console) : Script → Transcript → Files → Report × Files
  | finish status, shown, files => (⟨status, shown⟩, files)
  | print stream text next, shown, files =>
      match console.refusal? shown stream text with
      | none => next.run console (shown.add text stream) files
      | some fault => (refused console shown stream fault, files)
  | tell stream text next, shown, files => next.run console (console.tell shown stream text) files
  | log record next, shown, files =>
      match console.logRefusal? record with
      | none => next.run console shown files
      | some fault => (refused console shown .errors fault, files)
  | read path next, shown, files => (next (files.readText path)).run console shown files
  | look path next, shown, files => (next (files.has path)).run console shown files
  | write path text next, shown, files =>
      match files.write path text with
      | .ok changed => (next (.ok ())).run console shown changed
      | .error fault => (next (.error fault)).run console shown files

def printAll (stream : Stream) (texts : List String) (next : Script) : Script :=
  texts.foldr (print stream) next

end Script

end EscapeTime
