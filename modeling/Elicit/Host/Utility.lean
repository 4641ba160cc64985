import Elicit.Host.Format

/-! The programs that scripts and invocations can use. -/
namespace Elicit.Host

/-- What a program does with its arguments. -/
abbrev Utility := List String → Process → Process

namespace Utility

/-- Splits octets into lines, each with its end; the last line may lack one. -/
def lines : List UInt8 → List (List UInt8)
  | [] => []
  | b :: bs =>
    if b = 10 then [b] :: lines bs
    else match lines bs with
      | [] => [[b]]
      | l :: ls => (b :: l) :: ls

def bare (line : List UInt8) : List UInt8 := line.filter (· ≠ 10)

/-- Octets in the words between blanks. -/
def words (content : List UInt8) : List (List UInt8) :=
  let blank (b : UInt8) := b = 32 || (9 ≤ b && b ≤ 13)
  (content.splitBy fun a b => blank a == blank b).filter fun w => !(w.all blank)

def options (as : List String) : List String × List String :=
  let isOption (a : String) := a.startsWith "-" && a ≠ "-"
  match as.dropWhile fun a => isOption a && a ≠ "--" with
  | "--" :: operands => (as.takeWhile fun a => isOption a && a ≠ "--", operands)
  | operands => (as.takeWhile fun a => isOption a && a ≠ "--", operands)

def letters (options : List String) : List Char := options.flatMap fun o => o.toList.drop 1

def drain (p : Process) : List UInt8 × Process := (p.input, { p with input := [] })

/-- Reads the operands one after the other, or standard input where there is none; a single hyphen
is standard input too. What cannot be read is complained about. -/
def gather (name : String) : List String → Process → List UInt8 × Process
  | [], p => drain (p.done 0)
  | paths, p =>
    paths.foldl (fun (content, p) path =>
      if path = "-" then
        let (more, p) := drain p
        (content ++ more, p)
      else match p.files.read p.directory path with
        | .ok more => (content ++ more, p)
        | .error fault =>
          (content, p.complain (name ++ ": " ++ path ++ ": " ++ fault.description) 1))
      ([], p.done 0)

/-- A program that turns what it reads into what it writes. -/
def filter (name : String) (operands : List String) (f : List UInt8 → List UInt8) (p : Process) :
    Process :=
  let (content, p) := gather name operands p
  p.write (f content)

/-- Writes its arguments; escapes count inside a shell. -/
def echo (inShell : Bool) : Utility := fun as p =>
  let (quiet, as) := match as with
    | "-n" :: rest => (true, rest)
    | rest => (false, rest)
  let (resolves, as) := match inShell, as with
    | true, rest => (true, rest)
    | false, "-e" :: rest => (true, rest)
    | false, rest => (false, rest)
  let text := String.intercalate " " as
  let c : Format.Chunk :=
    if resolves then Format.escaped true (text.length + 1) text.toList
    else ⟨Process.octets text, false⟩
  (p.write (c.content ++ if quiet || c.stops then [] else [10])).done 0

def printf (inShell : Bool) : Utility := fun as p =>
  match as with
  | [] => p.complain "printf: usage: printf format [arg ...]" 2
  | "--" :: format :: rest | format :: rest =>
    (p.write (Format.all (!inShell) format.toList (rest.length + 1) rest)).done 0

def cat : Utility := fun as p => filter "cat" (options as).2 id p

/-- Writes files and what it reads. -/
def tee : Utility := fun as p =>
  let (os, paths) := options as
  let (content, p) := drain (p.done 0)
  paths.foldl (fun p path =>
    match p.files.openToWrite p.directory path ((letters os).contains 'a') with
    | .ok (at', files) => { p with files := files.append at' content }
    | .error fault => p.complain ("tee: " ++ path ++ ": " ++ fault.description) 1) (p.write content)

def wc : Utility := fun as p =>
  let (os, paths) := options as
  let asked := letters os
  let counts (content : List UInt8) : List Nat :=
    [('l', content.count 10), ('w', (words content).length), ('c', content.length)].filterMap
      fun (letter, n) =>
        if asked.isEmpty || asked.contains letter || letter = 'c' && asked.contains 'm' then some n
        else none
  let right (width n : Nat) := String.ofList (List.replicate (width - (toString n).length) ' ') ++
    toString n
  let row (width : Nat) (content : List UInt8) (label : String) :=
    String.intercalate " " ((counts content).map (right width)) ++ label ++ "\n"
  match paths with
  | [] =>
    let (content, p) := drain (p.done 0)
    p.print (row (if (counts content).length = 1 then 0 else 7) content "")
  | paths =>
    paths.foldl (fun p path =>
      match p.files.read p.directory path with
      | .ok content => p.print (row (toString content.length).length content (" " ++ path))
      | .error fault => p.complain ("wc: " ++ path ++ ": " ++ fault.description) 1) (p.done 0)

/-- The count that an option gives, in the option or in the argument after it, and the operands. -/
def counted : List String → Option (Bool × String) × List String
  | "-n" :: n :: rest => (some (false, n), rest)
  | "-c" :: n :: rest => (some (true, n), rest)
  | a :: rest =>
    match a.toList with
    | '-' :: 'n' :: n => (some (false, String.ofList n), rest)
    | '-' :: 'c' :: n => (some (true, String.ofList n), rest)
    | '-' :: d :: n =>
      if d.isDigit then (some (false, String.ofList (d :: n)), rest) else (none, a :: rest)
    | _ => (none, a :: rest)
  | [] => (none, [])

def head : Utility := fun as p =>
  let (count, paths) := counted as
  let (inOctets, n) := count.getD (false, "10")
  let take {α : Type} (xs : List α) : List α :=
    match n.toInt? with
    | some (.ofNat k) => xs.take k
    | some (.negSucc k) => xs.take (xs.length - (k + 1))
    | none => xs
  filter "head" paths (fun content =>
    if inOctets then take content else (take (lines content)).flatten) p

def tail : Utility := fun as p =>
  let (count, paths) := counted as
  let (inOctets, n) := count.getD (false, "10")
  let take {α : Type} (xs : List α) : List α :=
    if n.startsWith "+" then xs.drop (((n.drop 1).toNat?.getD 1) - 1)
    else xs.drop (xs.length - (((n.toInt?).getD 10).natAbs))
  filter "tail" paths (fun content =>
    if inOctets then take content else (take (lines content)).flatten) p

/-- The octets of a set, in which a hyphen stands for a range. -/
def octetRange : List UInt8 → List UInt8
  | a :: 45 :: b :: rest =>
    if a ≤ b then
      (List.range (b.toNat - a.toNat + 1)).map (fun i => UInt8.ofNat (a.toNat + i)) ++
        octetRange rest
    else octetRange rest
  | a :: rest => a :: octetRange rest
  | [] => []

def octetSet (s : String) : List UInt8 :=
  match s with
  | "[:space:]" => [9, 10, 11, 12, 13, 32]
  | "[:blank:]" => [9, 32]
  | "[:digit:]" => octetRange (Process.octets "0-9")
  | "[:lower:]" => octetRange (Process.octets "a-z")
  | "[:upper:]" => octetRange (Process.octets "A-Z")
  | "[:alpha:]" => octetRange (Process.octets "A-Za-z")
  | "[:alnum:]" => octetRange (Process.octets "0-9A-Za-z")
  | s => octetRange (Format.escaped false (s.length + 1) s.toList).content

/-- Keeps one of each run of the same octet of a set. -/
def squeeze (set : List UInt8) : List UInt8 → List UInt8
  | a :: b :: rest =>
    if a = b && set.contains a then squeeze set (b :: rest) else a :: squeeze set (b :: rest)
  | rest => rest

/-- Replaces, removes or joins octets. -/
def tr : Utility := fun as p =>
  let (os, sets) := options as
  let flags := letters os
  let chosen (set : List UInt8) : List UInt8 :=
    if flags.contains 'c' || flags.contains 'C' then
      ((List.range 256).map UInt8.ofNat).filter fun b => !set.contains b
    else set
  let (content, p) := drain (p.done 0)
  match sets with
  | [one] =>
    let set := chosen (octetSet one)
    if flags.contains 'd' then p.write (content.filter fun b => !set.contains b)
    else if flags.contains 's' then p.write (squeeze set content)
    else p.complain ("tr: missing operand after '" ++ one ++ "'") 1
  | [one, two] =>
    let set := chosen (octetSet one)
    let images := octetSet two
    if flags.contains 'd' then
      p.write (squeeze images (content.filter fun b => !set.contains b))
    else
      let swap (b : UInt8) : UInt8 :=
        match set.findIdx? (· = b) with
        | some i => (images[i]?).getD (images.getLast?.getD b)
        | none => b
      let swapped := content.map swap
      p.write (if flags.contains 's' then squeeze images swapped else swapped)
  | _ => p.complain "tr: missing operand" 1

/-- Compares octets one by one. -/
def before : List UInt8 → List UInt8 → Bool
  | [], _ => true
  | _ :: _, [] => false
  | a :: as, b :: bs => a < b || a == b && before as bs

/-- Joins lines, each with an end. -/
def joined (ls : List (List UInt8)) : List UInt8 := ls.flatMap fun l => l ++ [10]

/-- Drops what equals its predecessor. -/
def distinct (ls : List (List UInt8)) : List (List UInt8) :=
  (ls.splitBy (· == ·)).filterMap List.head?

def sort : Utility := fun as p =>
  let (os, paths) := options as
  let flags := letters os
  let value (l : List UInt8) : Int :=
    let number (r : List UInt8) : Int :=
      (Format.digits 10 r.length 0 (r.map fun b => Char.ofNat b.toNat)).1
    match l.dropWhile (fun b => b = 32 || b = 9) with
    | 45 :: r => -number r
    | r => number r
  let order (a b : List UInt8) : Bool :=
    if flags.contains 'n' then value a < value b || value a = value b && before a b else before a b
  filter "sort" paths (fun content =>
    let sorted := ((lines content).map bare).mergeSort order
    let sorted := if flags.contains 'r' then sorted.reverse else sorted
    joined (if flags.contains 'u' then distinct sorted else sorted)) p

def uniq : Utility := fun as p =>
  filter "uniq" (options as).2 (fun content => joined (distinct ((lines content).map bare))) p

def tac : Utility := fun as p =>
  filter "tac" (options as).2 (fun content => (lines content).reverse.flatten) p

def rev : Utility := fun as p =>
  filter "rev" (options as).2 (fun content =>
    (lines content).flatMap fun l => (bare l).reverse ++ l.filter (· = 10)) p

def seq : Utility := fun as p =>
  let write (first last : Int) : Process :=
    let numbers := (List.range (last - first + 1).toNat).map fun (i : Nat) => first + (i : Int)
    (p.print (String.join (numbers.map fun n => toString n ++ "\n"))).done 0
  match as.map String.toInt? with
  | [some last] => write 1 last
  | [some first, some last] => write first last
  | _ => p.complain "seq: missing operand" 1

def occurs (needle : List UInt8) : List UInt8 → Bool
  | [] => needle.isEmpty
  | b :: bs => needle.isPrefixOf (b :: bs) || occurs needle bs

def grep : Utility := fun as p =>
  let (os, operands) := options as
  let flags := letters os
  match operands with
  | [] => p.complain "Usage: grep [OPTION]... PATTERNS [FILE]..." 2
  | needle :: paths =>
    let lower (b : UInt8) : UInt8 := if 65 ≤ b && b ≤ 90 then b + 32 else b
    let fold (bs : List UInt8) := if flags.contains 'i' then bs.map lower else bs
    let (content, p) := gather "grep" paths p
    let found := ((lines content).map bare).filter fun l =>
      occurs (fold (Process.octets needle)) (fold l) != flags.contains 'v'
    let shown := if flags.contains 'q' then []
      else if flags.contains 'c' then Process.octets (toString found.length ++ "\n")
      else joined found
    (p.write shown).done (if found.isEmpty then 1 else 0)

/-- Applies a change of files to every operand. -/
def eachPath (name verb : String) (quiet : Bool)
    (change : Files → Path → Except SystemFault Files) (paths : List String) (p : Process) :
    Process :=
  paths.foldl (fun p path =>
    match p.files.resolve p.directory path >>= change p.files with
    | .ok files => { p with files := files }
    | .error fault =>
      if quiet then p
      else p.complain (name ++ ": cannot " ++ verb ++ " '" ++ path ++ "': " ++ fault.description) 1)
    (p.done 0)

def touch : Utility := fun as p =>
  eachPath "touch" "touch" false (fun files path =>
    if (files.node? path).isSome then .ok files
    else if (files.node? path.dropLast) matches some .directory then .ok (files.put path (.file []))
    else .error .noSuchFile) (options as).2 p

def rm : Utility := fun as p =>
  let (os, paths) := options as
  let flags := letters os
  let deep := flags.contains 'r' || flags.contains 'R'
  eachPath "rm" "remove" (flags.contains 'f') (fun files path =>
    match files.node? path with
    | none => .error .noSuchFile
    | some .directory =>
      if deep then .ok ⟨files.entries.filter fun e => !path.isPrefixOf e.1⟩ else .error .isDirectory
    | some _ => .ok (files.erase path)) paths p

def mkdir : Utility := fun as p =>
  let (os, paths) := options as
  if (letters os).contains 'p' then
    paths.foldl (fun p path =>
      let start := if path.startsWith "/" then [] else p.directory
      let names := path.splitOn "/"
      (List.range (names.length + 1)).foldl (fun p i =>
        let here := (names.take i).foldl Files.descend start
        if (p.files.node? here).isSome then p
        else { p with files := p.files.put here .directory }) p) (p.done 0)
  else
    eachPath "mkdir" "create directory" false (fun files path =>
      if (files.node? path.dropLast) matches some .directory then .ok (files.put path .directory)
      else .error .noSuchFile) paths p

/-- Copies a file, and removes it where it was if it is moved. -/
def copy (name : String) (moves : Bool) : Utility := fun as p =>
  match (options as).2 with
  | [old, new] =>
    let result : Except SystemFault Files := do
      let content ← p.files.read p.directory old
      let source ← p.files.resolve p.directory old
      let target ← match p.files.find p.directory new with
        | .ok .directory => pure (new ++ "/" ++ source.getLast?.getD "")
        | _ => pure new
      let (at', files) ← p.files.openToWrite p.directory target false
      return (if moves then files.erase source else files).append at' content
    match result with
    | .ok files => { p with files := files }.done 0
    | .error fault => p.complain (name ++ ": cannot stat '" ++ old ++ "': " ++ fault.description) 1
  | _ => p.complain (name ++ ": missing file operand") 1

/-- Writes the names in a directory, in order. -/
def ls : Utility := fun as p =>
  let paths := (options as).2
  (if paths.isEmpty then ["."] else paths).foldl (fun p path =>
    match p.files.resolve p.directory path with
    | .error fault => p.complain ("ls: cannot access '" ++ path ++ "': " ++ fault.description) 2
    | .ok at' =>
      match p.files.node? at' with
      | none => p.complain ("ls: cannot access '" ++ path ++ "': No such file or directory") 2
      | some .directory =>
        let names := (p.files.entries.filter fun e => e.1.dropLast = at' && e.1 ≠ at').filterMap
          fun e => e.1.getLast?
        let shown := names.filter fun n => !n.startsWith "."
        p.write (joined ((shown.map Process.octets).mergeSort before))
      | some _ => p.print (path ++ "\n")) (p.done 0)

def basename : Utility := fun as p =>
  match as with
  | path :: rest =>
    let name := ((path.splitOn "/").filter (· ≠ "")).getLast?.getD "/"
    let cut := rest.headD ""
    let name :=
      if cut ≠ "" && name ≠ cut && name.endsWith cut then (name.dropEnd cut.length).toString
      else name
    p.print (name ++ "\n") |>.done 0
  | [] => p.complain "basename: missing operand" 1

def dirname : Utility := fun as p =>
  match as with
  | path :: _ =>
    let names := (path.splitOn "/").dropLast
    let text := String.intercalate "/" names
    let shown := if text.isEmpty then (if path.startsWith "/" then "/" else ".") else text
    p.print (shown ++ "\n") |>.done 0
  | [] => p.complain "dirname: missing operand" 1

/-- A span of seconds, perhaps with a fraction and a unit, in nanoseconds. -/
def span? (s : String) : Option Nat :=
  let cs := s.toList
  let whole := cs.takeWhile Char.isDigit
  let (fraction, unit) := match cs.dropWhile Char.isDigit with
    | '.' :: r => (r.takeWhile Char.isDigit, r.dropWhile Char.isDigit)
    | r => ([], r)
  let scale? : Option Nat := match unit with
    | [] | ['s'] => some 1
    | ['m'] => some 60
    | ['h'] => some 3600
    | ['d'] => some 86400
    | _ => none
  let value (ds : List Char) : Nat := (Format.digits 10 ds.length 0 ds).1
  if whole.isEmpty && fraction.isEmpty then none
  else scale?.map fun scale =>
    (value whole * 1000000000 + value fraction * 1000000000 / Nat.pow 10 fraction.length) * scale

def sleep : Utility := fun as p =>
  match as.mapM span? with
  | none => p.complain ("sleep: invalid time interval '" ++ as.headD "" ++ "'") 1
  | some [] => p.complain "sleep: missing operand" 1
  | some spans => (p.done 0).sleep (spans.foldl (fun a b => a + b) 0)

def printenv : Utility := fun as p =>
  match as with
  | [] => p.print (String.join (p.environment.map fun v => v.1 ++ "=" ++ v.2 ++ "\n")) |>.done 0
  | names =>
    names.foldl (fun p name =>
      match p.valueOf name with
      | some value => p.print (value ++ "\n")
      | none => p.done 1) (p.done 0)

def pwd : Utility := fun _ p => p.print (Path.text p.directory ++ "\n") |>.done 0

def unary (p : Process) (op : String) (a : String) : Option Bool :=
  let node := (p.files.find p.directory a).toOption
  match op with
  | "-n" => some (!a.isEmpty)
  | "-z" => some a.isEmpty
  | "-e" | "-r" | "-w" => some node.isSome
  | "-f" => some (node matches some (.file _) | some (.program _))
  | "-d" => some (node matches some .directory)
  | "-x" => some (node matches some (.program _) | some .directory)
  | "-s" => some (match node with
    | some (.file content) => !content.isEmpty
    | some .sink | none => false
    | some _ => true)
  | "-h" | "-L" | "-p" | "-t" => some false
  | _ => none

/-- A condition on two operands; an error names the operand that is no number. -/
def binary (op a b : String) : Option (Except String Bool) :=
  let numbers (f : Int → Int → Bool) : Option (Except String Bool) :=
    match Format.integer? a, Format.integer? b with
    | none, _ => some (.error a)
    | _, none => some (.error b)
    | some x, some y => some (.ok (f x y))
  match op with
  | "=" | "==" => some (.ok (a = b))
  | "!=" => some (.ok (a ≠ b))
  | "-eq" => numbers fun x y => x = y
  | "-ne" => numbers fun x y => x ≠ y
  | "-lt" => numbers fun x y => x < y
  | "-le" => numbers fun x y => x ≤ y
  | "-gt" => numbers fun x y => x > y
  | "-ge" => numbers fun x y => x ≥ y
  | _ => none

/-- Evaluates a condition; an error is a message. -/
def condition (p : Process) : Nat → List String → Except String Bool
  | 0, _ => .error "too many arguments"
  | n + 1, as =>
    match as with
    | [] => .ok false
    | [a] => .ok (a ≠ "")
    | ["!", a] => .ok (a = "")
    | [op, a] =>
      match unary p op a with
      | some b => .ok b
      | none => .error (op ++ ": unexpected operator")
    | as =>
      let whole? : Option (Except String Bool) := match as with
        | [a, op, b] => (binary op a b).map fun r => r.mapError ("Illegal number: " ++ ·)
        | _ => none
      match whole? with
      | some r => r
      | none =>
        match as.span (· ≠ "-o") with
        | (left@(_ :: _), _ :: right@(_ :: _)) => do
          let l ← condition p n left
          let r ← condition p n right
          return l || r
        | _ =>
          match as.span (· ≠ "-a") with
          | (left@(_ :: _), _ :: right@(_ :: _)) => do
            let l ← condition p n left
            let r ← condition p n right
            return l && r
          | _ =>
            match as with
            | "!" :: rest => do return !(← condition p n rest)
            | "(" :: rest =>
              if rest.getLast? = some ")" then condition p n rest.dropLast
              else .error "closing paren expected"
            | a :: _ => .error (a ++ ": unexpected operator")
            | [] => .ok false

def test (name : String) : Utility := fun as p =>
  let closed := name = "["
  if closed && as.getLast? ≠ some "]" then p.complain (p.name ++ ": 1: [: missing ]") 2
  else
    let as := if closed then as.dropLast else as
    match condition p (as.length + 1) as with
    | .ok b => p.done (if b then 0 else 1)
    | .error message => p.complain (p.name ++ ": 1: " ++ name ++ ": " ++ message) 2

/-- What a program does, if it is one that can be run here. -/
def find? (inShell : Bool) (name : String) : Option Utility :=
  match name with
  | "echo" => some (echo inShell)
  | "printf" => some (printf inShell)
  | "test" | "[" => some (test name)
  | "true" => some fun _ p => p.done 0
  | "false" => some fun _ p => p.done 1
  | "pwd" => some pwd
  | "cat" => some cat
  | "tee" => some tee
  | "wc" => some wc
  | "head" => some head
  | "tail" => some tail
  | "tr" => some tr
  | "sort" => some sort
  | "uniq" => some uniq
  | "tac" => some tac
  | "rev" => some rev
  | "seq" => some seq
  | "grep" => some grep
  | "touch" => some touch
  | "rm" => some rm
  | "mkdir" => some mkdir
  | "cp" => some (copy "cp" false)
  | "mv" => some (copy "mv" true)
  | "ls" => some ls
  | "basename" => some basename
  | "dirname" => some dirname
  | "sleep" => some sleep
  | "printenv" => some printenv
  | _ => none

end Utility

end Elicit.Host
