import Elicit.Host.Script.Basic

/-! Reading shell scripts. Every reader gives the rest of the text, or `none` where the text is no
script; the number bounds how deep it goes. -/
namespace Elicit.Host.Script

def endsWord (c : Char) : Bool :=
  [' ', '\t', '\n', ';', '&', '|', '<', '>', '(', ')'].contains c

/-- The characters of a name, which does not begin with a digit. -/
def isNameChar (c : Char) : Bool := c.isAlphanum || c = '_'

/-- Splits off a name, which may be empty. -/
def nameOf (cs : List Char) : String × List Char :=
  match cs with
  | c :: _ =>
    if c.isDigit then ("", cs)
    else (String.ofList (cs.takeWhile isNameChar), cs.dropWhile isNameChar)
  | [] => ("", [])

/-- Skips blanks, joined lines and a comment. -/
def skipBlank : List Char → List Char
  | ' ' :: cs | '\t' :: cs => skipBlank cs
  | '\\' :: '\n' :: cs => skipBlank cs
  | '#' :: cs => cs.dropWhile (· ≠ '\n')
  | cs => cs

/-- Skips what may stand between commands, apart from the semicolon. -/
def skipLines : Nat → List Char → List Char
  | 0, cs => cs
  | n + 1, cs =>
    match skipBlank cs with
    | '\n' :: r => skipLines n r
    | r => r

/-- The word at the start, if it is not quoted in any part and has no expansions. -/
def bareWord (cs : List Char) : String × List Char :=
  let special (c : Char) := endsWord c || ['\\', '"', '\x27', '\x60', '$', '#'].contains c
  let body := cs.takeWhile fun c => !special c
  match cs.dropWhile fun c => !special c with
  | [] => (String.ofList body, [])
  | c :: r => if endsWord c then (String.ofList body, c :: r) else ("", cs)

/-- The words that end a list of commands. -/
def closers : List String := ["then", "else", "elif", "fi", "do", "done", "esac", "\x7d"]

/-- Whether a list of commands ends here. -/
def closes (cs : List Char) : Bool :=
  match cs with
  | [] | ')' :: _ | ';' :: ';' :: _ => true
  | _ => closers.contains (bareWord cs).1

/-- Reads a word that has to come next. -/
def keyword (w : String) (cs : List Char) : Option (List Char) :=
  let (found, r) := bareWord cs
  if found = w then some r else none

def specialParameter? : Char → Option Parameter
  | '@' => some (.all true)
  | '*' => some (.all false)
  | '#' => some .count
  | '?' => some .status
  | '$' => some .process
  | c => if c.isDigit then some (.position (c.toNat - '0'.toNat)) else none

def parameterOf (cs : List Char) : Option (Parameter × List Char) :=
  match nameOf cs with
  | ("", _) =>
    if (cs.takeWhile Char.isDigit).isEmpty then
      match cs with
      | c :: r => (specialParameter? c).map fun p => (p, r)
      | [] => none
    else
      some (.position ((String.ofList (cs.takeWhile Char.isDigit)).toNat?.getD 0),
        cs.dropWhile Char.isDigit)
  | (name, r) => some (.variable name, r)

/-- How strongly an operator binds, from weakest to strongest. -/
def strength : Operator → Nat
  | .either => 1
  | .both => 2
  | .equal | .unequal => 3
  | .less | .atMost | .more | .atLeast => 4
  | .plus | .minus => 5
  | .times | .over | .remainder => 6

def operatorOf : List Char → Option (Operator × List Char)
  | '|' :: '|' :: r => some (.either, r)
  | '&' :: '&' :: r => some (.both, r)
  | '=' :: '=' :: r => some (.equal, r)
  | '!' :: '=' :: r => some (.unequal, r)
  | '<' :: '=' :: r => some (.atMost, r)
  | '>' :: '=' :: r => some (.atLeast, r)
  | '<' :: r => some (.less, r)
  | '>' :: r => some (.more, r)
  | '+' :: r => some (.plus, r)
  | '-' :: r => some (.minus, r)
  | '*' :: r => some (.times, r)
  | '/' :: r => some (.over, r)
  | '%' :: r => some (.remainder, r)
  | _ => none

mutual

def operand : Nat → List Char → Option (Expression × List Char)
  | 0, _ => none
  | n + 1, cs =>
    match skipBlank cs with
    | '(' :: r => do
      let (e, r) ← expression n 0 r
      match skipBlank r with
      | ')' :: r => some (e, r)
      | _ => none
    | '-' :: r => do
      let (e, r) ← operand n r
      some (.negation e, r)
    | '+' :: r => operand n r
    | '$' :: r => operand n r
    | r =>
      let digits := r.takeWhile Char.isDigit
      if digits.isEmpty then
        match nameOf r with
        | ("", _) => none
        | (name, r) => some (.variable name, r)
      else some (.number ((String.ofList digits).toNat?.getD 0), r.dropWhile Char.isDigit)

/-- Reads operands and the operators between them that bind more strongly than a bound. -/
def expression : Nat → Nat → List Char → Option (Expression × List Char)
  | 0, _, _ => none
  | n + 1, bound, cs => do
    let (a, r) ← operand n cs
    operations n bound a r

/-- Reads on after an operand. -/
def operations : Nat → Nat → Expression → List Char → Option (Expression × List Char)
  | 0, _, _, _ => none
  | n + 1, bound, a, cs =>
    match operatorOf (skipBlank cs) with
    | none => some (a, cs)
    | some (op, r) =>
      if strength op ≤ bound then some (a, cs)
      else do
        let (b, r) ← expression n (strength op) r
        operations n bound (.binary op a b) r

end

/-- Splits a text at the next quote of a kind, with backslashes before it resolved; they matter only
before the quote, the dollar sign and themselves. -/
def backquoted : List Char → Option (List Char × List Char)
  | [] => none
  | '\x60' :: r => some ([], r)
  | '\\' :: c :: r =>
    let kept := if ['\x60', '$', '\\'].contains c then [c] else ['\\', c]
    (backquoted r).map fun (b, r) => (kept ++ b, r)
  | c :: r => (backquoted r).map fun (b, r) => (c :: b, r)

def before {α : Type} (p : α) (r : Option (List α × List Char)) : Option (List α × List Char) :=
  r.map fun (ps, r) => (p :: ps, r)

def descriptorOf (cs : List Char) : Option Nat × List Char :=
  match cs with
  | c :: r => if c.isDigit && (r matches '<' :: _ | '>' :: _) then (some (c.toNat - '0'.toNat), r)
    else (none, cs)
  | [] => (none, cs)

def signOf : List Char → Option ((Nat × Direction) × List Char)
  | '>' :: '>' :: r => some ((1, .output true), r)
  | '>' :: '|' :: r => some ((1, .output false), r)
  | '>' :: '&' :: r => some ((1, .duplicate), r)
  | '>' :: r => some ((1, .output false), r)
  | '<' :: '&' :: r => some ((0, .duplicate), r)
  | '<' :: '<' :: _ => none
  | '<' :: r => some ((0, .input), r)
  | _ => none

def assignmentOf (cs : List Char) : Option (String × List Char) :=
  match nameOf cs with
  | ("", _) => none
  | (name, '=' :: r) => some (name, r)
  | _ => none

mutual

/-- Reads a word; between braces it ends at the closing one. -/
def word : Nat → Bool → List Char → Option (List Piece × List Char)
  | 0, _, _ => none
  | n + 1, inBraces, cs =>
    match cs with
    | [] => some ([], [])
    | '\\' :: '\n' :: r => word n inBraces r
    | '\\' :: c :: r => before (.text (String.singleton c) true) (word n inBraces r)
    | '\x27' :: r =>
      match r.dropWhile (· ≠ '\x27') with
      | [] => none
      | _ :: rest =>
        before (.text (String.ofList (r.takeWhile (· ≠ '\x27'))) true) (word n inBraces rest)
    | '"' :: r => do
      let (ps, r) ← quotedPieces n r
      let (qs, r) ← word n inBraces r
      some ((if ps.isEmpty then [.text "" true] else ps) ++ qs, r)
    | '$' :: r => do
      let (p, r) ← dollar n false r
      before p (word n inBraces r)
    | '\x60' :: r => do
      let (p, r) ← command? n false r
      before p (word n inBraces r)
    | c :: r =>
      if (inBraces && c = '\x7d') || (!inBraces && endsWord c) then some ([], cs)
      else before (.text (String.singleton c) false) (word n inBraces r)

def quotedPieces : Nat → List Char → Option (List Piece × List Char)
  | 0, _ => none
  | n + 1, cs =>
    match cs with
    | [] => none
    | '"' :: r => some ([], r)
    | '\\' :: '\n' :: r => quotedPieces n r
    | '\\' :: c :: r =>
      let kept := if ['$', '\x60', '"', '\\'].contains c then [c] else ['\\', c]
      before (.text (String.ofList kept) true) (quotedPieces n r)
    | '$' :: r => do
      let (p, r) ← dollar n true r
      before p (quotedPieces n r)
    | '\x60' :: r => do
      let (p, r) ← command? n true r
      before p (quotedPieces n r)
    | c :: r => before (.text (String.singleton c) true) (quotedPieces n r)

/-- Reads the script between back quotes. -/
def command? : Nat → Bool → List Char → Option (Piece × List Char)
  | 0, _, _ => none
  | n + 1, quoted, cs => do
    let (body, r) ← backquoted cs
    match ← list n body with
    | (s, []) => some (.output s quoted, r)
    | _ => none

def dollar : Nat → Bool → List Char → Option (Piece × List Char)
  | 0, _, _ => none
  | n + 1, quoted, cs =>
    match cs with
    | '(' :: '(' :: r => do
      let (e, r) ← expression n 0 r
      match skipBlank r with
      | ')' :: ')' :: r => some (.expression e quoted, r)
      | _ => none
    | '(' :: r => do
      let (s, r) ← list n r
      match r with
      | ')' :: r => some (.output s quoted, r)
      | _ => none
    | '\x7b' :: '#' :: '\x7d' :: r => some (.value .count quoted, r)
    | '\x7b' :: '#' :: r => do
      let (p, r) ← parameterOf r
      match r with
      | '\x7d' :: r => some (.length p quoted, r)
      | _ => none
    | '\x7b' :: r => do
      let (p, r) ← parameterOf r
      match r with
      | '\x7d' :: r => some (.value p quoted, r)
      | ':' :: c :: r => instead n quoted p true c r
      | c :: r => instead n quoted p false c r
      | [] => none
    | _ =>
      match nameOf cs with
      | ("", _) =>
        match cs with
        | c :: r =>
          match specialParameter? c with
          | some p => some (.value p quoted, r)
          | none => some (.text "$" quoted, cs)
        | [] => some (.text "$" quoted, [])
      | (name, r) => some (.value (.variable name) quoted, r)

/-- Reads the word beside a parameter. -/
def instead : Nat → Bool → Parameter → Bool → Char → List Char → Option (Piece × List Char)
  | 0, _, _, _, _, _ => none
  | n + 1, quoted, p, strict, c, cs => do
    let f ← if c = '-' then some .otherwise else if c = '+' then some .replaced
      else if c = '=' then some .assigned else none
    let (w, r) ← word n true cs
    match r with
    | '\x7d' :: r => some (.fallback p f strict w quoted, r)
    | _ => none

def redirections : Nat → List Char → Option (List Redirection × List Char)
  | 0, _ => none
  | n + 1, cs =>
    let (d, r) := descriptorOf (skipBlank cs)
    match signOf r with
    | none => if (r matches '<' :: _) then none else some ([], cs)
    | some ((own, direction), r) => do
      let (target, r) ← word n false (skipBlank r)
      before (.to (d.getD own) direction target) (redirections n r)

/-- Reads the words of a command and the redirections among them. -/
def arguments : Nat → List Char → Option ((List (List Piece) × List Redirection) × List Char)
  | 0, _ => none
  | n + 1, cs => do
    let (rs, r) ← redirections n cs
    match skipBlank r with
    | [] => some (([], rs), [])
    | c :: r =>
      if endsWord c then some (([], rs), c :: r)
      else do
        let (w, r) ← word n false (c :: r)
        let ((ws, rs'), r) ← arguments n r
        some ((w :: ws, rs ++ rs'), r)

def assignments : Nat → List Char → Option ((List (String × List Piece)) × List Char)
  | 0, _ => none
  | n + 1, cs =>
    match assignmentOf (skipBlank cs) with
    | none => some ([], skipBlank cs)
    | some (name, r) => do
      let (w, r) ← word n false r
      before (name, w) (assignments n r)

def wordList : Nat → List Char → Option (List (List Piece) × List Char)
  | 0, _ => none
  | n + 1, cs =>
    match skipBlank cs with
    | [] => some ([], [])
    | c :: r =>
      if endsWord c then some ([], c :: r)
      else do
        let (w, r) ← word n false (c :: r)
        before w (wordList n r)

def branches : Nat → List Char → Option (Script × List Char)
  | 0, _ => none
  | n + 1, cs => do
    let (c, r) ← list n cs
    let (yes, r) ← list n (← keyword "then" r)
    match bareWord r with
    | ("fi", r) => some (.branch c yes .skip, r)
    | ("else", r) => do
      let (no, r) ← list n r
      some (.branch c yes no, ← keyword "fi" r)
    | ("elif", r) => do
      let (no, r) ← branches n r
      some (.branch c yes no, r)
    | _ => none

def body : Nat → List Char → Option (Script × List Char)
  | 0, _ => none
  | n + 1, cs => do
    let cs := match skipBlank cs with
      | ';' :: r => r
      | r => r
    let (s, r) ← list n (← keyword "do" (skipLines n cs))
    some (s, ← keyword "done" r)

/-- Reads patterns up to the closing parenthesis. -/
def patterns : Nat → List Char → Option (List (List Piece) × List Char)
  | 0, _ => none
  | n + 1, cs => do
    let (w, r) ← word n false (skipBlank cs)
    match skipBlank r with
    | ')' :: r => some ([w], r)
    | '|' :: r => before w (patterns n r)
    | _ => none

def cases : Nat → List Piece → List Char → Option (Script × List Char)
  | 0, _, _ => none
  | n + 1, w, cs =>
    let cs := skipLines n cs
    match bareWord cs with
    | ("esac", r) => some (.skip, r)
    | _ => do
      let (ps, r) ← patterns n (match cs with
        | '(' :: r => r
        | r => r)
      let (yes, r) ← list n r
      let (no, r) ← cases n w (match r with
        | ';' :: ';' :: r => r
        | r => r)
      some (.choice w ps yes no, r)

def command : Nat → List Char → Option (Script × List Char)
  | 0, _ => none
  | n + 1, cs =>
    let cs := skipBlank cs
    let redirect (result : Option (Script × List Char)) : Option (Script × List Char) := do
      let (s, r) ← result
      let (rs, r) ← redirections n r
      some (if rs.isEmpty then s else .redirected s rs, r)
    match cs with
    | '(' :: r => redirect do
      let (s, r) ← list n r
      match r with
      | ')' :: r => some (.subshell s, r)
      | _ => none
    | _ =>
      match bareWord cs with
      | ("\x7b", r) => redirect do
        let (s, r) ← list n r
        some (s, ← keyword "\x7d" r)
      | ("if", r) => redirect (branches n r)
      | ("while", r) => redirect do
        let (c, r) ← list n r
        let (s, r) ← body n r
        some (.loop true c s, r)
      | ("until", r) => redirect do
        let (c, r) ← list n r
        let (s, r) ← body n r
        some (.loop false c s, r)
      | ("for", r) => redirect do
        match nameOf (skipBlank r) with
        | ("", _) => none
        | (name, r) =>
          match keyword "in" (skipLines n r) with
          | some r => do
            let (ws, r) ← wordList n r
            let (s, r) ← body n r
            some (.each name ws s, r)
          | none => do
            let (s, r) ← body n r
            some (.each name [[.value (.all true) true]] s, r)
      | ("case", r) => redirect do
        let (w, r) ← word n false (skipBlank r)
        cases n w (← keyword "in" (skipLines n r))
      | _ => do
        let (as, r) ← assignments n cs
        let ((ws, rs), r) ← arguments n r
        if as.isEmpty && ws.isEmpty && rs.isEmpty then none else some (.simple as ws rs, r)

/-- Reads commands with bars between them. -/
def pipeline : Nat → List Char → Option (Script × List Char)
  | 0, _ => none
  | n + 1, cs =>
    match bareWord (skipBlank cs) with
    | ("!", r) => do
      let (s, r) ← pipeline n r
      some (.negation s, r)
    | _ => do
      let (a, r) ← command n cs
      match skipBlank r with
      | '|' :: '|' :: _ => some (a, r)
      | '|' :: r => do
        let (b, r) ← pipeline n (skipLines n r)
        some (.pipe a b, r)
      | _ => some (a, r)

/-- Reads on after a command that may have an alternative. -/
def alternatives : Nat → Script → List Char → Option (Script × List Char)
  | 0, _, _ => none
  | n + 1, a, cs =>
    match skipBlank cs with
    | '&' :: '&' :: r => do
      let (b, r) ← pipeline n (skipLines n r)
      alternatives n (.both a b) r
    | '|' :: '|' :: r => do
      let (b, r) ← pipeline n (skipLines n r)
      alternatives n (.either a b) r
    | r => some (a, r)

/-- Reads commands one after the other, up to where they end. -/
def list : Nat → List Char → Option (Script × List Char)
  | 0, _ => none
  | n + 1, cs =>
    let cs := skipLines n cs
    if closes cs then some (.skip, cs)
    else do
      let (a, r) ← pipeline n cs
      let (a, r) ← alternatives n a r
      match r with
      | ';' :: ';' :: _ => some (a, r)
      | ';' :: r | '\n' :: r => do
        let (b, r) ← list n r
        some (.sequence a b, r)
      | _ => if closes r then some (a, r) else none

end

def read (text : String) : Option Script :=
  match list (20 * text.length + 40) text.toList with
  | some (s, []) => some s
  | _ => none

end Elicit.Host.Script
