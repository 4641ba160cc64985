import Elicit.Host.Process

/-! Formatted output: escapes that stand for octets, and directives that stand for arguments. -/
namespace Elicit.Host.Format

structure Chunk where
  content : List UInt8
  stops : Bool
  deriving DecidableEq, Repr

def Chunk.after (content : List UInt8) (c : Chunk) : Chunk := ⟨content ++ c.content, c.stops⟩

def digit? (base : Nat) (c : Char) : Option Nat :=
  let v :=
    if c.isDigit then c.toNat - '0'.toNat
    else if 'a' ≤ c ∧ c ≤ 'f' then c.toNat - 'a'.toNat + 10
    else if 'A' ≤ c ∧ c ≤ 'F' then c.toNat - 'A'.toNat + 10
    else base
  if v < base then some v else none

/-- Splits off at most `n` digits, with the number that they write. -/
def digits (base : Nat) : Nat → Nat → List Char → Nat × List Char
  | 0, value, cs => (value, cs)
  | n + 1, value, cs =>
    match cs with
    | [] => (value, [])
    | c :: r =>
      match digit? base c with
      | none => (value, cs)
      | some d => digits base n (base * value + d) r

/-- The octet that a letter after a backslash stands for. -/
def control? : Char → Option UInt8
  | '\\' => some 92
  | 'a' => some 7
  | 'b' => some 8
  | 'f' => some 12
  | 'n' => some 10
  | 'r' => some 13
  | 't' => some 9
  | 'v' => some 11
  | _ => none

/-- Reads an escape after its backslash: the octets, or `none` where output stops, and the rest. A
zero in front of an octal number counts as a digit of it unless `zeroFirst`. -/
def escape (zeroFirst : Bool) (cs : List Char) : Option (List UInt8) × List Char :=
  match cs with
  | [] => (some [92], [])
  | 'c' :: r => (none, r)
  | c :: r =>
    match control? c with
    | some b => (some [b], r)
    | none =>
      if (digit? 8 c).isSome then
        let (value, r) := if zeroFirst && c = '0' then digits 8 3 0 r else digits 8 3 0 cs
        (some [UInt8.ofNat value], r)
      else (some (92 :: Text.encodeChar c), r)

def escaped (zeroFirst : Bool) : Nat → List Char → Chunk
  | 0, _ => ⟨[], false⟩
  | _ + 1, [] => ⟨[], false⟩
  | n + 1, '\\' :: cs =>
    match escape zeroFirst cs with
    | (none, _) => ⟨[], true⟩
    | (some content, r) => (escaped zeroFirst n r).after content
  | n + 1, c :: cs => (escaped zeroFirst n cs).after (Text.encodeChar c)

/-- How a directive lays out its argument. -/
structure Layout where
  left : Bool
  zeros : Bool
  plus : Bool
  width : Nat
  precision : Option Nat
  deriving DecidableEq, Repr

def layout (cs : List Char) : Layout × List Char :=
  let isFlag (c : Char) := ['-', '0', '+', ' ', '#'].contains c
  let flags := cs.takeWhile isFlag
  let (width, r) := digits 10 9 0 (cs.dropWhile isFlag)
  let shape : Layout := ⟨flags.contains '-', flags.contains '0', flags.contains '+', width, none⟩
  match r with
  | '.' :: r =>
    let (precision, r) := digits 10 9 0 r
    ({ shape with precision := some precision }, r)
  | r => (shape, r)

def Layout.pad (l : Layout) (content : List UInt8) : List UInt8 :=
  let space := List.replicate (l.width - content.length) 32
  if l.left then content ++ space else space ++ content

/-- A number as octets, with zeros up to the precision or, without one, perhaps to the width. -/
def Layout.number (l : Layout) (base : Nat) (value : Int) : List UInt8 :=
  let sign := if value < 0 then "-" else if l.plus then "+" else ""
  let body := Nat.toDigits base value.natAbs
  let count := match l.precision with
    | some n => n
    | none => if l.zeros && !l.left then l.width - sign.length else 0
  l.pad (Process.octets (sign ++ String.ofList (List.replicate (count - body.length) '0' ++ body)))

/-- Reads a whole number, with nothing but blanks around it. -/
def integer? (s : String) : Option Int :=
  let isSpace (c : Char) := c = ' ' || c = '\t' || c = '\n'
  let cs := ((s.toList.dropWhile isSpace).reverse.dropWhile isSpace).reverse
  let (negative, ds) := match cs with
    | '-' :: r => (true, r)
    | '+' :: r => (false, r)
    | r => (false, r)
  if ds.isEmpty || !ds.all Char.isDigit then none
  else
    let n : Int := (digits 10 ds.length 0 ds).1
    some (if negative then -n else n)

/-- What a directive's letter makes of its argument; `none` for a letter that is no directive. -/
def directive (l : Layout) (letter : Char) (argument : String) : Option Chunk :=
  let cut (content : List UInt8) := match l.precision with
    | some n => content.take n
    | none => content
  let value := (integer? argument).getD 0
  match letter with
  | 's' => some ⟨l.pad (cut (Process.octets argument)), false⟩
  | 'b' =>
    let c := escaped true (argument.length + 1) argument.toList
    some ⟨l.pad (cut c.content), c.stops⟩
  | 'c' => some ⟨l.pad ((Process.octets argument).take 1), false⟩
  | 'd' | 'i' | 'u' => some ⟨l.number 10 value, false⟩
  | 'o' => some ⟨l.number 8 value, false⟩
  | 'x' => some ⟨l.number 16 value, false⟩
  | 'X' => some ⟨(l.number 16 value).map fun b => if 97 ≤ b ∧ b ≤ 122 then b - 32 else b, false⟩
  | _ => none

/-- Goes through a format once; gives the arguments that are left. `bareQuote` says whether a
backslash disappears before a double quote. -/
def once (bareQuote : Bool) : Nat → List Char → List String → Chunk × List String
  | 0, _, as => (⟨[], false⟩, as)
  | _ + 1, [], as => (⟨[], false⟩, as)
  | n + 1, '\\' :: '"' :: cs, as =>
    let (c, as) := once bareQuote n cs as
    (c.after (if bareQuote then [34] else [92, 34]), as)
  | n + 1, '\\' :: cs, as =>
    match escape false cs with
    | (none, _) => (⟨[], true⟩, as)
    | (some content, r) =>
      let (c, as) := once bareQuote n r as
      (c.after content, as)
  | n + 1, '%' :: '%' :: cs, as =>
    let (c, as) := once bareQuote n cs as
    (c.after [37], as)
  | n + 1, '%' :: cs, as =>
    match layout cs with
    | (_, []) => (⟨[37], true⟩, as)
    | (l, letter :: r) =>
      match directive l letter (as.headD "") with
      | none => (⟨[], true⟩, as)
      | some d =>
        if d.stops then (d, [])
        else
          let (c, as) := once bareQuote n r as.tail
          (c.after d.content, as)
  | n + 1, c :: cs, as =>
    let (k, as) := once bareQuote n cs as
    (k.after (Text.encodeChar c), as)

/-- Goes through a format until no argument is left, or once if it takes none. -/
def all (bareQuote : Bool) (format : List Char) : Nat → List String → List UInt8
  | 0, _ => []
  | n + 1, as =>
    let (c, rest) := once bareQuote (format.length + 1) format as
    if c.stops || rest.isEmpty || rest.length = as.length then c.content
    else c.content ++ all bareQuote format n rest

end Elicit.Host.Format
