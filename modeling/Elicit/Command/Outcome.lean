import Elicit.Command.Basic
import Elicit.Settings
import Elicit.Text.Utf8

/-! What becomes of a command: it is started once for a prompt, and its standard output is the
response. How long it took is not kept. -/
namespace Elicit

inductive SystemFault where
  | noSuchFile
  | notExecutable
  | denied
  | notDirectory
  | isDirectory
  /-- A text with the character NUL cannot be passed on. -/
  | nulCharacter
  /-- Any other, by the number and the words that the system has for it. -/
  | other (number : Nat) (description : String)
  deriving DecidableEq, Repr

def SystemFault.description : SystemFault → String
  | .noSuchFile => "No such file or directory"
  | .notExecutable => "Exec format error"
  | .denied => "Permission denied"
  | .notDirectory => "Not a directory"
  | .isDirectory => "Is a directory"
  | .nulCharacter => "nul byte found in provided data"
  | .other _ description => description

/-- The number that the system has for a fault, if it is one of the system's own. -/
def SystemFault.number? : SystemFault → Option Nat
  | .noSuchFile => some 2
  | .notExecutable => some 8
  | .denied => some 13
  | .notDirectory => some 20
  | .isDirectory => some 21
  | .nulCharacter => none
  | .other number _ => some number

def SystemFault.message (f : SystemFault) : String :=
  match f.number? with
  | some n => f.description ++ " (os error " ++ toString n ++ ")"
  | none => f.description

namespace Command

/-- All that a program is started with. -/
structure Invocation where
  program : String
  arguments : List String
  /-- What is piped to standard input; with `none` there is nothing to read. -/
  input : Option String
  timeout : Duration
  directory : Option String
  environment : List (String × String)
  deriving DecidableEq, Repr

def invocation (c : Command) (prompt : String) : Invocation where
  program := c.program
  arguments := c.argumentsFor prompt
  input := if c.promptsByArgument then none else some prompt
  timeout := c.timeout
  directory := c.directory
  environment := c.environment

inductive Status where
  | exited (code : Nat)
  | killed (signal : Nat)
  deriving DecidableEq, Repr

/-- The exit code; there is none after a signal, and -1 stands for it. -/
def Status.code : Status → Int
  | .exited code => code
  | .killed _ => -1

inductive Outcome where
  | unstarted (fault : SystemFault)
  /-- It ran longer than it may, and was stopped. -/
  | overdue
  | ended (status : Status) (output errors : List UInt8)
  deriving DecidableEq, Repr

/-- A machine that programs run on: what becomes of an invocation, in a state that it may change. -/
abbrev Machine (σ : Type) := Invocation → σ → Outcome × σ

structure Output where
  response : String
  errors : String
  deriving DecidableEq, Repr

inductive Failure where
  | system (fault : SystemFault)
  | overdue (timeout : Duration)
  | unsuccessful (code : Int) (errors : String)
  deriving DecidableEq, Repr

def Failure.message : Failure → String
  | .system fault => "I/O error: " ++ fault.message
  | .overdue timeout => "Generator timed out after " ++ timeout.text
  | .unsuccessful code errors =>
    "Generator exited with non-zero status: " ++ toString code ++ "\nSTDERR: " ++ errors

/-- The output of a program that may run for `timeout`, if it ended with code 0. -/
def Outcome.output (timeout : Duration) : Outcome → Except Failure Output
  | .unstarted fault => .error (.system fault)
  | .overdue => .error (.overdue timeout)
  | .ended status output errors =>
    if status = .exited 0 then .ok ⟨Text.decodeLossy output, Text.decodeLossy errors⟩
    else .error (.unsuccessful status.code (Text.decodeLossy errors))

variable {σ : Type}

def run (machine : Machine σ) (c : Command) (prompt : String) (st : σ) :
    Except Failure Output × σ :=
  let (outcome, st') := machine (c.invocation prompt) st
  (outcome.output c.timeout, st')

def generator (machine : Machine σ) (c : Command) : Generator σ := fun prompt st =>
  match c.run machine prompt st with
  | (.ok o, st') => (.ok o.response, st')
  | (.error f, st') => (.error f.message, st')

end Command

end Elicit
