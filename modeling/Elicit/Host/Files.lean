import Elicit.Command.Outcome

/-! Files of a machine, kept by their full paths. -/
namespace Elicit.Host

/-- A full path: the names from the root down. -/
abbrev Path := List String

def programs : List String :=
  ["[", "awk", "base64", "basename", "bash", "cat", "chmod", "cp", "cut", "dash", "date", "dirname",
    "echo", "env", "expr", "false", "find", "grep", "head", "id", "kill", "ln", "ls", "mkdir",
    "mktemp", "mv", "nl", "od", "paste", "perl", "printenv", "printf", "pwd", "rev", "rm", "rmdir",
    "sed", "seq", "sh", "sleep", "sort", "stat", "tac", "tail", "tee", "test", "timeout", "touch",
    "tr", "true", "uname", "uniq", "wc", "which", "xargs", "yes"]

def programDirectories : List Path := [["usr", "bin"], ["bin"]]

def systemDirectories : List Path :=
  [[], ["usr"], ["dev"], ["etc"], ["home"], ["lib"], ["opt"], ["proc"], ["root"], ["sbin"], ["tmp"],
    ["usr", "lib"], ["usr", "local"], ["usr", "local", "bin"], ["usr", "sbin"], ["usr", "share"],
    ["var"], ["var", "tmp"]]

inductive Node where
  | directory
  | file (content : List UInt8)
  | program (name : String)
  /-- It takes all that is written and holds nothing. -/
  | sink
  deriving DecidableEq, Repr

structure Files where
  entries : List (Path × Node)
  deriving DecidableEq, Repr

/-- The directory in which the program is started. -/
def workplace : Path := ["work"]

/-- The directories that a list with colons names; the usual ones if there is no list. -/
def searchPath (list : Option String) : List String := (list.getD "/usr/bin:/bin").splitOn ":"

def searchVariable : String := "PATH"

def Path.text (p : Path) : String := "/" ++ String.intercalate "/" p

namespace Files

def empty : Files := ⟨[(workplace, .directory)]⟩

def node? (f : Files) (p : Path) : Option Node :=
  match f.entries.lookup p with
  | some n => some n
  | none =>
    if systemDirectories.contains p || programDirectories.contains p then some .directory
    else if p = ["dev", "null"] then some .sink
    else match p.getLast? with
      | none => none
      | some name =>
        if programDirectories.contains p.dropLast && programs.contains name then
          some (.program name)
        else none

/-- Where a name leads in a directory. -/
def descend (p : Path) (name : String) : Path :=
  if name = "" ∨ name = "." then p else if name = ".." then p.dropLast else p ++ [name]

/-- Follows names downward; each has to be looked up in a directory. -/
def follow (f : Files) (p : Path) : List String → Except SystemFault Path
  | [] => .ok p
  | name :: names =>
    match f.node? p with
    | some .directory => f.follow (descend p name) names
    | some _ => .error .notDirectory
    | none => .error .noSuchFile

/-- The full path of one that is written down, from a directory if it is not full. -/
def resolve (f : Files) (current : Path) (s : String) : Except SystemFault Path :=
  if s.isEmpty then .error .noSuchFile
  else f.follow (if s.startsWith "/" then [] else current) (s.splitOn "/")

def find (f : Files) (current : Path) (s : String) : Except SystemFault Node := do
  match f.node? (← f.resolve current s) with
  | some n => return n
  | none => .error .noSuchFile

def read (f : Files) (current : Path) (s : String) : Except SystemFault (List UInt8) := do
  match ← f.find current s with
  | .file content => return content
  | .sink | .program _ => return []
  | .directory => .error .isDirectory

def put (f : Files) (p : Path) (n : Node) : Files :=
  ⟨(p, n) :: f.entries.filter fun e => e.1 ≠ p⟩

def erase (f : Files) (p : Path) : Files := ⟨f.entries.filter fun e => e.1 ≠ p⟩

/-- Puts a file at a path, with the directories that lead to it. -/
def install (f : Files) (p : Path) (content : List UInt8) : Files :=
  let parents := (List.range p.length).map p.take
  let opened := parents.foldl
    (fun g q => if (g.node? q).isSome then g else g.put q .directory) f
  opened.put p (.file content)

/-- Opens a file to write, emptied unless it is kept, and gives its full path. -/
def openToWrite (f : Files) (current : Path) (s : String) (keep : Bool) :
    Except SystemFault (Path × Files) := do
  let p ← f.resolve current s
  match f.node? p with
  | some .directory => .error .isDirectory
  | some .sink => return (p, f)
  | some (.program _) => .error .denied
  | some (.file content) => return (p, f.put p (.file (if keep then content else [])))
  | none =>
    match f.node? p.dropLast with
    | some .directory => return (p, f.put p (.file []))
    | some _ => .error .notDirectory
    | none => .error .noSuchFile

/-- Adds to a file that is open. -/
def append (f : Files) (p : Path) (content : List UInt8) : Files :=
  match f.node? p with
  | some (.file before) => f.put p (.file (before ++ content))
  | _ => f

def isProgram (f : Files) (p : Path) : Bool := (f.node? p) matches some (.program _)

/-- The full path of a program that can be run: named by a path, or in one of the directories that
are searched. A directory without a name is the current one. -/
def program? (f : Files) (search : List String) (current : Path) (s : String) : Option Path :=
  let at? (s : String) : Option Path := (f.resolve current s).toOption.filter f.isProgram
  if s.contains '/' then at? s
  else search.findSome? fun d => at? ((if d.isEmpty then "." else d) ++ "/" ++ s)

end Files

end Elicit.Host
