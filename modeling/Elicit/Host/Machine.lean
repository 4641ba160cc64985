import Elicit.Console.Surroundings
import Elicit.Host.Script.Run

/-! A machine on which commands run: files, environment variables and a shell. -/
namespace Elicit.Host

/-- How deep one shell can start another. -/
def maxDepth : Nat := 16

def shells : List String := ["sh", "dash", "bash"]

/-- The names of utilities that a shell does not have built in run as programs of their own. -/
def runProgram (name : String) (inShell : Bool) (as : List String) (p : Process) : Process :=
  match Utility.find? inShell name with
  | some utility => utility as p
  | none => p.done 0

def runText (launch : String → Utility) (text : String) (p : Process) : Process :=
  match Script.read text with
  | some s => Script.run launch s p
  | none => p.complain (p.name ++ ": 1: Syntax error: end of file unexpected") 2

def runShell (launch : String → Utility) (name : String) (as : List String) (p : Process) :
    Process :=
  let (os, operands) := Utility.options as
  let named (q : Process) (name : String) (parameters : List String) : Process :=
    { q with name := name, parameters := parameters }
  if (Utility.letters os).contains 'c' then
    match operands with
    | [] => p.complain (name ++ ": 0: -c requires an argument") 2
    | [text] => p.apart fun q => runText launch text (named q name [])
    | text :: zero :: rest => p.apart fun q => runText launch text (named q zero rest)
  else
    match operands with
    | [] =>
      let (content, q) := Utility.drain p
      q.apart fun q => runText launch (Text.decodeLossy content) (named q name [])
    | path :: rest =>
      match p.files.read p.directory path with
      | .ok content =>
        p.apart fun q => runText launch (Text.decodeLossy content) (named q path rest)
      | .error _ => p.complain (name ++ ": 0: cannot open " ++ path ++ ": No such file") 2

/-- Splits off the assignments before a command. -/
def leadingAssignments (as : List String) : List String × List String :=
  let assigns (a : String) := a.contains '=' && !a.startsWith "="
  (as.takeWhile assigns, as.dropWhile assigns)

/-- Complains that no program of a name can be run; `context` stands in front of the name. -/
def unlaunched (context name : String) (p : Process) : Process :=
  let complain (fault : String) (code : Nat) : Process :=
    p.complain (p.name ++ ": 1: " ++ context ++ name ++ ": " ++ fault) code
  if name.contains '/' && (p.files.find p.directory name).isOk then
    complain "Permission denied" 126
  else complain "not found" 127

def launch : Nat → String → Utility
  | 0, name, _, p => p.complain (p.name ++ ": 1: " ++ name ++ ": too deep") 126
  | n + 1, name, as, p =>
    match name, as with
    | "eval", as => runText (launch n) (String.intercalate " " as) p
    | ".", path :: _ =>
      match p.files.read p.directory path with
      | .ok content => runText (launch n) (Text.decodeLossy content) p
      | .error _ =>
        (p.complain (p.name ++ ": 1: .: cannot open " ++ path ++ ": No such file") 2).finish
          (.exited 2)
    | "exec", [] => p.done 0
    | "exec", name :: as =>
      let q :=
        if (p.program? name).isSome then Script.execute (launch n) name as p
        else unlaunched "exec: " name p
      q.finish (.exited q.status)
    | "env", as =>
      match leadingAssignments as with
      | (vs, []) => p.apart fun q => Utility.printenv [] (Builtin.assign vs q)
      | (vs, name :: as) => p.apart fun q => launch n name as (Builtin.assign vs q)
    | "command", "-v" :: name :: _ =>
      if (Builtin.find? name).isSome then p.print (name ++ "\n") |>.done 0
      else match p.program? name with
        | some path => p.print (Path.text path ++ "\n") |>.done 0
        | none => p.done 127
    | "command", name :: as => Script.execute (launch n) name as p
    | name, as =>
      match p.program? name with
      | some path =>
        let own := path.getLast?.getD name
        if shells.contains own then runShell (launch n) own as p
        else runProgram own (!name.contains '/') as p
      | none => unlaunched "" name p

/-- What the system needs to know of an invocation before it starts it: the directory and the name
of the program, which is searched in the directories of `search`. -/
def prepare (files : Files) (search : List String) (i : Command.Invocation) :
    Except SystemFault (Path × String) := do
  if ((i.program :: i.arguments) ++ i.directory.toList).any fun s => s.contains '\x00' then
    .error .nulCharacter
  let directory ← match i.directory with
    | none => pure workplace
    | some d => files.resolve workplace d
  match files.node? directory with
  | some .directory => pure ()
  | some _ => .error .notDirectory
  | none => .error .noSuchFile
  match files.program? search directory i.program with
  | some path => return (directory, path.getLast?.getD i.program)
  | none =>
    if !i.program.contains '/' then .error .noSuchFile
    else match files.find directory i.program with
      | .ok _ => .error .denied
      | .error fault => .error fault

def outcome (p : Process) : Command.Outcome :=
  let output := p.buffers.getD 0 []
  let errors := p.buffers.getD 1 []
  match p.ending with
  | some .overdue => .overdue
  | some (.killed signal) => .ended (.killed signal) output errors
  | some (.exited code) => .ended (.exited code) output errors
  | none => .ended (.exited p.status) output errors

/-- The machine with environment variables. A program takes some time, so it is late if it may take
none. -/
def machine (environment : List (String × String)) : Command.Machine Files := fun i files =>
  let input := Process.octets (i.input.getD "")
  let p := (environment ++ i.environment).foldl (fun q v => q.setVariable v.1 v.2)
    (Process.start files workplace [] input i.timeout.toNanos)
  match prepare files (searchPath (p.valueOf searchVariable)) i with
  | .error fault => (.unstarted fault, files)
  | .ok (directory, name) =>
    if i.timeout.isZero then (.overdue, files)
    else
      let p := { p with directory }
      let p :=
        if shells.contains name then runShell (launch maxDepth) name i.arguments p
        else if name = "env" then launch maxDepth name i.arguments p
        else runProgram name false i.arguments p
      (outcome p, p.files)

def surroundings (environment : List (String × String)) (files : Files) : Console.Surroundings where
  environment name := environment.lookup name
  read path :=
    match files.read workplace path with
    | .error fault => .error (.system fault)
    | .ok content =>
      match Text.decode? content with
      | some text => .ok text
      | none => .error .notUtf8
  hasFile path := (files.find workplace path).isOk
  program? name :=
    let search := searchPath (environment.lookup searchVariable)
    (files.program? search workplace name).map fun path =>
      if name.contains '/' then name else Path.text path

end Elicit.Host
