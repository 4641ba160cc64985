import Elicit.Host.Script.Expansion
import Elicit.Host.Utility

/-! The commands that act on the shell they run in, and how any command is found. -/
namespace Elicit.Host.Builtin

def signal? (s : String) : Option Nat :=
  let name := if s.startsWith "SIG" then (s.drop 3).toString else s
  match [("HUP", 1), ("INT", 2), ("QUIT", 3), ("ILL", 4), ("TRAP", 5), ("ABRT", 6), ("BUS", 7),
      ("FPE", 8), ("KILL", 9), ("USR1", 10), ("SEGV", 11), ("USR2", 12), ("PIPE", 13), ("ALRM", 14),
      ("TERM", 15)].lookup name with
  | some n => some n
  | none => s.toNat?

def killed : List String → Option Nat × List String
  | "-s" :: s :: rest | "-n" :: s :: rest => (signal? s, rest)
  | a :: rest =>
    if a.startsWith "-" then (signal? (a.drop 1).toString, rest) else (some 15, a :: rest)
  | [] => (some 15, [])

/-- Sends a signal; only to the shell itself it can. -/
def kill : Utility := fun as p =>
  match killed as with
  | (some n, targets) =>
    if targets.contains Script.processNumber then
      if n = 0 then p.done 0 else p.finish (.killed n)
    else p.complain (p.name ++ ": 1: kill: No such process") 1
  | (none, _) => p.complain (p.name ++ ": 1: kill: Illegal option") 2

def exit : Utility := fun as p =>
  match as with
  | [] => p.finish (.exited p.status)
  | a :: _ =>
    match a.toNat? with
    | some n => p.finish (.exited (n % 256))
    | none =>
      (p.complain (p.name ++ ": 1: exit: Illegal number: " ++ a) 2).finish (.exited 2)

def cd : Utility := fun as p =>
  let path := as.headD ((p.valueOf "HOME").getD "/")
  match p.files.resolve p.directory path with
  | .ok at' =>
    if (p.files.node? at') matches some .directory then { p with directory := at' }.done 0
    else p.complain (p.name ++ ": 1: cd: can't cd to " ++ path) 2
  | .error _ => p.complain (p.name ++ ": 1: cd: can't cd to " ++ path) 2

def set : Utility := fun as p =>
  match as with
  | "--" :: as => { p with parameters := as }.done 0
  | a :: as =>
    if a.startsWith "-" || a.startsWith "+" then p.done 0
    else { p with parameters := a :: as }.done 0
  | [] => p.done 0

def shift : Utility := fun as p =>
  let n := ((as.headD "1").toNat?).getD 1
  if n ≤ p.parameters.length then { p with parameters := p.parameters.drop n }.done 0
  else (p.complain (p.name ++ ": 1: shift: can't shift that many") 2).finish (.exited 2)

def assign : Utility := fun as p =>
  as.foldl (fun p a =>
    match a.toList.span (· ≠ '=') with
    | (name, _ :: value) => p.setVariable (String.ofList name) (String.ofList value)
    | _ => p) (p.done 0)

def unset : Utility := fun as p => as.foldl Process.unsetVariable (p.done 0)

/-- Gives words to variables, and all that is left to the last one. -/
def distribute (blank : Char → Bool) : List String → List Char → Process → Process
  | [], _, p => p
  | [name], cs, p =>
    let kept := ((cs.dropWhile blank).reverse.dropWhile blank).reverse
    p.setVariable name (String.ofList kept)
  | name :: names, cs, p =>
    let cs := cs.dropWhile blank
    let word := cs.takeWhile fun c => !blank c
    distribute blank names (cs.drop word.length) (p.setVariable name (String.ofList word))

def readLine : Utility := fun as p =>
  let names := (Utility.options as).2
  let line := p.input.takeWhile (· ≠ 10)
  let rest := p.input.drop line.length
  let raw := (Utility.letters (Utility.options as).1).contains 'r'
  let text := (Text.decodeLossy line).toList
  let text := if raw then text else text.filter (· ≠ '\\')
  let separators := ((p.valueOf "IFS").getD " \t\n").toList
  let q := distribute separators.contains (if names.isEmpty then ["REPLY"] else names) text
    { p with input := rest.drop 1 }
  q.done (if rest.isEmpty then 1 else 0)

def find? (name : String) : Option Utility :=
  match name with
  | ":" | "wait" | "trap" | "umask" | "ulimit" => some fun _ p => p.done 0
  | "kill" => some kill
  | "exit" => some exit
  | "cd" => some cd
  | "set" => some set
  | "shift" => some shift
  | "export" | "readonly" | "local" => some assign
  | "unset" => some unset
  | "read" => some readLine
  | _ => none

end Elicit.Host.Builtin
