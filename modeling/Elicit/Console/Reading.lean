import Elicit.Console.ArgumentError

/-! Reading a command line, word by word.

The value of an option that stands in the word after it is looked at only when the next option
comes, so a word that is no option at all is reported before a bad value in front of it. -/
namespace Elicit.Console

inductive Word where
  /-- Two hyphens: the generator command follows. -/
  | divider
  /-- A name after two hyphens, with the value after an equals sign. -/
  | long (name : String) (value : Option String)
  /-- Letters after one hyphen. -/
  | short (letters : List Char)
  /-- Anything else; also a single hyphen. -/
  | plain
  deriving DecidableEq, Repr

def splitValue (cs : List Char) : Word :=
  let name := String.ofList (cs.takeWhile (· ≠ '='))
  match cs.dropWhile (· ≠ '=') with
  | [] => .long name none
  | _ :: value => .long name (some (String.ofList value))

def Word.of (s : String) : Word :=
  match s.toList with
  | ['-', '-'] => .divider
  | '-' :: '-' :: cs => splitValue cs
  | ['-'] => .plain
  | '-' :: letters => .short letters
  | _ => .plain

def addDigit (n : Nat) (c : Char) : Except CountFault Nat :=
  if c.isDigit then
    let m := 10 * n + (c.toNat - '0'.toNat)
    if m ≤ Settings.maxCount then .ok m else .error .tooLarge
  else .error .badDigit

/-- Reads a count: decimal digits, perhaps after a plus sign. -/
def readCount (s : String) : Except CountFault Nat :=
  match s.toList with
  | [] => .error .empty
  | ['+'] => .error .badDigit
  | '+' :: digits | digits => digits.foldlM addDigit 0

/-- Reads the value of an option. A path is not empty. -/
def Argument.readValue (a : Argument) (value : String) : Except ArgumentError Setting :=
  let count (f : Nat → Setting) : Except ArgumentError Setting :=
    match readCount value with
    | .ok n => .ok (f n)
    | .error fault => .error (.badCount a value fault)
  let path (f : String → Setting) : Except ArgumentError Setting :=
    if value.isEmpty then .error (.missingValue a) else .ok (f value)
  match a with
  | .target => .ok (.target value)
  | .prompt => .ok (.prompt value)
  | .promptFile => path .promptFile
  | .schema => .ok (.schema value)
  | .schemaFile => path .schemaFile
  | .maxRetries => count .maxRetries
  | .delayMs => count .delayMs
  | .maxDelayMs => count .maxDelayMs
  | .timeoutSecs => count .timeoutSecs
  | .backoff =>
    match Backoff.ofWord? value with
    | some b => .ok (.backoff b)
    | none => .error (if value.isEmpty then .missingValue a else .badChoice a value)
  | .jsonSchema | .pretty | .verbose | .help | .version => .error (.unneededValue a value)

/-- What a switch says. Those for help and version are answered at once. -/
def Argument.readSwitch (a : Argument) : Except ArgumentError Setting :=
  match a with
  | .jsonSchema => .ok .jsonSchema
  | .pretty => .ok .pretty
  | .verbose => .ok .verbose
  | .help => .error .help
  | .version => .error .version
  | a => .error (.missingValue a)

/-- An option whose value is not read yet. -/
structure Pending where
  argument : Argument
  /-- The value, once its word has come. -/
  value : Option String
  deriving DecidableEq, Repr

structure Reading where
  /-- The options that are read, in the order of the command line. -/
  settled : List Setting
  pending : Option Pending
  deriving DecidableEq, Repr

namespace Reading

def start : Reading := ⟨[], none⟩

def has (settled : List Setting) (a : Argument) : Bool := settled.any fun s => s.argument = a

/-- Adds an option that is given once. -/
def add (settled : List Setting) (a : Argument) (read : Except ArgumentError Setting) :
    Except ArgumentError (List Setting) :=
  if has settled a then .error (.repeated a) else do return settled ++ [← read]

/-- The options that are read once the value that was put off is read too. -/
def settle (r : Reading) : Except ArgumentError (List Setting) :=
  match r.pending with
  | none => .ok r.settled
  | some ⟨a, none⟩ => .error (.missingValue a)
  | some ⟨a, some value⟩ => add r.settled a (a.readValue value)

def turnOn (r : Reading) (a : Argument) : Except ArgumentError Reading := do
  return ⟨← add (← r.settle) a a.readSwitch, none⟩

def letter (r : Reading) (c : Char) : Except ArgumentError Reading :=
  match Argument.ofShort? c with
  | none => .error (.unknown (String.ofList ['-', c]))
  | some a => r.turnOn a

def named (r : Reading) (name : String) (value : Option String) : Except ArgumentError Reading :=
  match Argument.ofLong? name with
  | none => .error (.unknown ("--" ++ name))
  | some a =>
    match a.takesValue, value with
    | true, some v => do return ⟨← add (← r.settle) a (a.readValue v), none⟩
    | true, none => do return ⟨← r.settle, some ⟨a, none⟩⟩
    | false, some v => .error (.unneededValue a v)
    | false, none => r.turnOn a

/-- Reads a word that is no option: the value that the option before it waits for. -/
def plain (r : Reading) (word : String) : Except ArgumentError Reading :=
  match r.pending with
  | some ⟨a, none⟩ => .ok ⟨r.settled, some ⟨a, some word⟩⟩
  | _ => .error (.unknown word)

/-- Reads the words up to the divider, and gives the words after it. -/
def words (r : Reading) : List String → Except ArgumentError (Reading × List String)
  | [] => .ok (r, [])
  | w :: ws =>
    match Word.of w with
    | .divider => .ok (r, ws)
    | .long name value => do words (← r.named name value) ws
    | .short letters => do words (← letters.foldlM letter r) ws
    | .plain => do words (← r.plain w) ws

end Reading

/-- Adds the options that only environment variables give. -/
def addVariables (lookup : String → Option String) (settled : List Setting) :
    Except ArgumentError (List Setting) :=
  Argument.all.foldlM (fun settled a =>
    match a.environmentName?.bind lookup with
    | none => .ok settled
    | some value =>
      if Reading.has settled a then .ok settled
      else Reading.add settled a (a.readValue value)) settled

/-- The first option that another one excludes, with that one. -/
def conflict? (settled : List Setting) : Option (Argument × Argument) :=
  settled.findSome? fun s =>
    (s.argument.opponent?.filter (Reading.has settled)).map fun b => (s.argument, b)

/-- Refuses options that exclude each other, and the lack of a prompt. -/
def checkTogether (settled : List Setting) : Except ArgumentError Unit :=
  match conflict? settled with
  | some (a, b) => .error (.conflict a b)
  | none =>
    if Reading.has settled .prompt || Reading.has settled .promptFile then .ok ()
    else .error (.missing .prompt)

/-- Reads a command line, without the program's own name. -/
def Options.read (lookup : String → Option String) (line : List String) :
    Except ArgumentError Options := do
  let (r, command) ← Reading.start.words line
  let settled ← addVariables lookup (← r.settle)
  checkTogether settled
  return settled.foldl Options.set (.unset command)

end Elicit.Console
