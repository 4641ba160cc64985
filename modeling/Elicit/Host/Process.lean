import Elicit.Host.Files
import Elicit.Text.Utf8

/-! Running programs: what they can see and change, and how they end. -/
namespace Elicit.Host

/-- Where a descriptor writes. -/
inductive Outlet where
  | buffer (n : Nat)
  | file (p : Path)
  deriving DecidableEq, Repr

inductive Ending where
  | exited (code : Nat)
  | killed (signal : Nat)
  | overdue
  deriving DecidableEq, Repr

structure Process where
  files : Files
  directory : Path
  /-- The name it goes by in messages. -/
  name : String
  parameters : List String
  /-- The variables, each name once. -/
  environment : List (String × String)
  status : Nat
  /-- What is left of standard input. -/
  input : List UInt8
  output : Outlet
  errors : Outlet
  /-- What is written to outlets that are no files. -/
  buffers : List (List UInt8)
  /-- Nanoseconds spent asleep. -/
  slept : Nat
  /-- Nanoseconds that may be spent. -/
  limit : Nat
  ending : Option Ending
  deriving DecidableEq, Repr

namespace Process

def start (files : Files) (directory : Path) (environment : List (String × String))
    (input : List UInt8) (limit : Nat) : Process where
  files := files
  directory := directory
  name := "sh"
  parameters := []
  environment := environment
  status := 0
  input := input
  output := .buffer 0
  errors := .buffer 1
  buffers := [[], []]
  slept := 0
  limit := limit
  ending := none

def octets (s : String) : List UInt8 := Text.encode s.toList

def writeTo (p : Process) (o : Outlet) (content : List UInt8) : Process :=
  match o with
  | .buffer n => { p with buffers := p.buffers.modify n (· ++ content) }
  | .file path => { p with files := p.files.append path content }

/-- Writes to standard output. -/
def write (p : Process) (content : List UInt8) : Process := p.writeTo p.output content

def print (p : Process) (s : String) : Process := p.write (octets s)

/-- Ends a command with an exit code. -/
def done (p : Process) (code : Nat) : Process := { p with status := code }

/-- Ends a command with an exit code after a line to standard error. -/
def complain (p : Process) (message : String) (code : Nat) : Process :=
  (p.writeTo p.errors (octets (message ++ "\n"))).done code

/-- Ends the program, unless it has ended. -/
def finish (p : Process) (e : Ending) : Process :=
  match p.ending with
  | some _ => p
  | none => { p with ending := some e }

/-- Goes on unless the program has ended. -/
def andThen (p : Process) (next : Process → Process) : Process :=
  match p.ending with
  | some _ => p
  | none => next p

/-- Sleeps, but no longer than the program may. -/
def sleep (p : Process) (nanos : Nat) : Process :=
  let q := { p with slept := p.slept + nanos }
  if p.limit ≤ q.slept then q.finish .overdue else q

def valueOf (p : Process) (name : String) : Option String := p.environment.lookup name

def program? (p : Process) (name : String) : Option Path :=
  p.files.program? (searchPath (p.valueOf searchVariable)) p.directory name

def unsetVariable (p : Process) (name : String) : Process :=
  { p with environment := p.environment.filter fun v => v.1 ≠ name }

def setVariable (p : Process) (name value : String) : Process :=
  { p with environment := (name, value) :: (p.unsetVariable name).environment }

/-- What a run writes to standard output, and the program after it. -/
def capture (run : Process → Process) (p : Process) : List UInt8 × Process :=
  let n := p.buffers.length
  let q := run { p with buffers := p.buffers ++ [[]], output := .buffer n }
  (q.buffers.getD n [], { q with buffers := q.buffers.take n, output := p.output })

/-- Runs something as a program of its own: what it does to files and descriptors stays, what it
does to itself does not. -/
def apart (run : Process → Process) (p : Process) : Process :=
  let q := run p
  let settled :=
    { p with files := q.files, input := q.input, buffers := q.buffers, slept := q.slept }
  match q.ending with
  | none => settled.done q.status
  | some (.exited code) => settled.done code
  | some e => settled.finish e

/-- Runs something on an input of its own. -/
def feed (run : Process → Process) (content : List UInt8) (p : Process) : Process :=
  { run { p with input := content } with input := p.input }

end Process

end Elicit.Host
