import Elicit.Host.Builtin
import Elicit.Host.Script.Reader

/-! Running shell scripts. -/
namespace Elicit.Host.Script

/-- Turns of a loop before its time counts as used up. -/
def maxTurns : Nat := 10000

/-- Repeats a body as long as a condition succeeds or, unless `whenever`, does not. -/
def repeated (whenever : Bool) (condition body : Process → Process) : Nat → Process → Process
  | 0, p => p.finish .overdue
  | n + 1, p =>
    let code := p.status
    (condition p).andThen fun q =>
      if (q.status == 0) == whenever then (body q).andThen (repeated whenever condition body n)
      else q.done code

def openFor (d : Direction) (descriptor : Nat) (target : String) (p : Process) : Process × Bool :=
  match d with
  | .input =>
    match p.files.read p.directory target with
    | .ok content => ({ p with input := content }, true)
    | .error fault =>
      let reason := if fault = .noSuchFile then "No such file" else fault.description
      (p.complain (p.name ++ ": 1: cannot open " ++ target ++ ": " ++ reason) 2, false)
  | .output keep =>
    match p.files.openToWrite p.directory target keep with
    | .ok (at', files) =>
      let q := { p with files := files }
      (if descriptor = 2 then { q with errors := .file at' }
        else if descriptor = 1 then { q with output := .file at' } else q, true)
    | .error fault =>
      let reason := if fault = .noSuchFile then "Directory nonexistent" else fault.description
      (p.complain (p.name ++ ": 1: cannot create " ++ target ++ ": " ++ reason) 2, false)
  | .duplicate =>
    (match descriptor, target with
    | 1, "2" => { p with output := p.errors }
    | 2, "1" => { p with errors := p.output }
    | 1, "-" => { p with output := .file ["dev", "null"] }
    | 2, "-" => { p with errors := .file ["dev", "null"] }
    | 0, "-" => { p with input := [] }
    | _, _ => p, true)

def hasOutput (w : List Piece) : Bool := w.any fun
  | .output .. => true
  | _ => false

def takesInput (rs : List Redirection) : Bool := rs.any fun
  | .to 0 _ _ => true
  | _ => false

/-- Runs something with the descriptors that redirections give it, if they could be opened. -/
def within (rs : List Redirection) (redirect : Process → Process × Bool) (run : Process → Process)
    (p : Process) : Process :=
  let (opened, ok) := redirect p
  let q := if ok then opened.andThen run else opened
  { q with output := p.output, errors := p.errors
           input := if takesInput rs then p.input else q.input }

/-- What a command does: the ones that act on the shell first, then those that are found by name. -/
def execute (launch : String → Utility) (name : String) (as : List String) (p : Process) :
    Process :=
  match Builtin.find? name with
  | some builtin => builtin as p
  | none => launch name as p

mutual

def expand (launch : String → Utility) : Piece → Process → List Atom × Process
  | .text s quoted, p => (Atom.ofText s quoted false, p)
  | .value x quoted, p => (atomsOf p x quoted, p)
  | .length x quoted, p =>
    (Atom.ofText (toString (Process.octets ((value? p x).getD "")).length) quoted true, p)
  | .fallback x f strict w quoted, p =>
    let value := (value? p x).filter fun s => !(strict && s.isEmpty)
    match f, value with
    | .otherwise, some _ | .assigned, some _ => (atomsOf p x quoted, p)
    | .otherwise, none => expandAll launch w p
    | .replaced, some _ => expandAll launch w p
    | .replaced, none => (if quoted then [.present] else [], p)
    | .assigned, none =>
      let (as, p) := expandAll launch w p
      match x with
      | .variable name => (as, p.setVariable name (joined as))
      | _ => (as, p)
  | .expression e quoted, p => (Atom.ofText (toString (evaluate p e)) quoted true, p)
  | .output s quoted, p =>
    let (content, q) := p.capture (Process.apart (run launch s))
    let text := (Text.decodeLossy (content.filter (· ≠ 0))).toList
    let kept := (text.reverse.dropWhile (· = '\n')).reverse
    (Atom.ofText (String.ofList kept) quoted true, q)

def expandAll (launch : String → Utility) : List Piece → Process → List Atom × Process
  | [], p => ([], p)
  | piece :: w, p =>
    let (as, p) := expand launch piece p
    let (bs, p) := expandAll launch w p
    (as ++ bs, p)

def expandWords (launch : String → Utility) : List (List Piece) → Process → List String × Process
  | [], p => ([], p)
  | w :: ws, p =>
    let (as, p) := expandAll launch w p
    let (fs, p) := expandWords launch ws p
    (fields none as ++ fs, p)

def matchesAny (launch : String → Utility) (s : String) :
    List (List Piece) → Process → Bool × Process
  | [], p => (false, p)
  | w :: ws, p =>
    let (as, p) := expandAll launch w p
    let pattern := patternOf as
    if fits (pattern.length + 1) pattern s.toList then (true, p) else matchesAny launch s ws p

def assignAll (launch : String → Utility) : List (String × List Piece) → Process → Process
  | [], p => p
  | (name, w) :: as, p =>
    let (atoms, p) := expandAll launch w p
    assignAll launch as (p.setVariable name (joined atoms))

/-- Opens redirections, up to one that cannot be opened. -/
def redirect (launch : String → Utility) : List Redirection → Process → Process × Bool
  | [], p => (p, true)
  | .to descriptor d w :: rs, p =>
    let (as, p) := expandAll launch w p
    match openFor d descriptor (joined as) p with
    | (q, true) => redirect launch rs q
    | (q, false) => (q, false)

def run (launch : String → Utility) : Script → Process → Process
  | .skip, p => p
  | .simple as ws rs, p =>
    let (fs, q) := expandWords launch ws p
    q.andThen fun q =>
      match fs with
      | [] =>
        let settled := if as.any fun a => hasOutput a.2 then assignAll launch as q
          else (assignAll launch as q).done 0
        within rs (redirect launch rs) id settled
      | name :: arguments =>
        let restore (r : Process) : Process := as.foldl (fun r a =>
          match p.valueOf a.1 with
          | some value => r.setVariable a.1 value
          | none => r.unsetVariable a.1) r
        within rs (redirect launch rs)
          (fun r => restore (execute launch name arguments (assignAll launch as r))) q
  | .sequence a b, p => (run launch a p).andThen (run launch b)
  | .both a b, p => (run launch a p).andThen fun q => if q.status = 0 then run launch b q else q
  | .either a b, p => (run launch a p).andThen fun q => if q.status = 0 then q else run launch b q
  | .negation a, p => (run launch a p).andThen fun q => q.done (if q.status = 0 then 1 else 0)
  | .pipe a b, p =>
    let (content, q) := p.capture (Process.apart (run launch a))
    q.andThen (Process.feed (Process.apart (run launch b)) content)
  | .branch c yes no, p =>
    (run launch c p).andThen fun q =>
      if q.status = 0 then run launch yes q
      else match no with
        | .skip => q.done 0
        | _ => run launch no q
  | .each name ws body, p =>
    let (values, q) := expandWords launch ws p
    values.foldl (fun r value => r.andThen fun r => run launch body (r.setVariable name value))
      (q.done 0)
  | .loop whenever c body, p =>
    repeated whenever (run launch c) (run launch body) maxTurns (p.done 0)
  | .choice w ps yes no, p =>
    let (as, q) := expandAll launch w p
    let (found, q) := matchesAny launch (joined as) ps q
    if found then run launch yes q
    else match no with
      | .skip => q.done 0
      | _ => run launch no q
  | .subshell a, p => p.apart (run launch a)
  | .redirected a rs, p => within rs (redirect launch rs) (run launch a) p

end

end Elicit.Host.Script
