import Elicit.Text.Hexadecimal

/-! References to resources: a scheme, an authority, a path, a query and a fragment, of which all
but the path may be missing. -/
namespace Elicit

/-- A reference to a resource; with a scheme it stands for itself, without one it is relative. -/
structure Uri where
  scheme : Option (List Char)
  authority : Option (List Char)
  path : List Char
  query : Option (List Char)
  fragment : Option (List Char)
  deriving Repr, DecidableEq

namespace Uri

/-- Why a text is no reference: where it goes wrong. -/
inductive Fault where
  | unexpected (index : Nat)
  | badOctet (index : Nat)
  | badAddress (index : Nat)
  deriving Repr, DecidableEq

def Fault.message : Fault → String
  | .unexpected i => "unexpected character at index " ++ toString i
  | .badOctet i => "invalid percent-encoded octet at index " ++ toString i
  | .badAddress i => "invalid IPv6 address at index " ++ toString i

/-- Letters, digits and the marks that never need an escape. -/
def isUnreserved (c : Char) : Bool :=
  c.isAlphanum || c == '-' || c == '.' || c == '_' || c == '~'

/-- Marks that may separate parts of a component. -/
def isDelimiter (c : Char) : Bool :=
  ['!', '$', '&', '\'', '(', ')', '*', '+', ',', ';', '='].contains c

def isSchemeChar (c : Char) : Bool := c.isAlphanum || c == '+' || c == '-' || c == '.'

/-- The characters of an authority, brackets and the mark after a user apart. -/
def isAuthorityChar (c : Char) : Bool := isUnreserved c || isDelimiter c || c == ':'

def isFirstSegmentChar (c : Char) : Bool := isUnreserved c || isDelimiter c || c == '@'

def isPathChar (c : Char) : Bool := isFirstSegmentChar c || c == ':' || c == '/'

/-- The characters of a query or a fragment. -/
def isQueryChar (c : Char) : Bool := isPathChar c || c == '?'

def isAddressChar (c : Char) : Bool :=
  (Text.hexDigit? c).isSome || c == ':' || c == '.'

/-- Splits off the characters of a class and percent-encoded octets, from an index on. -/
def span (ok : Char → Bool) : Nat → List Char → Except Fault (List Char × List Char)
  | i, '%' :: a :: b :: cs =>
    if (Text.hexDigit? a).isSome && (Text.hexDigit? b).isSome then do
      let (taken, rest) ← span ok (i + 3) cs
      return ('%' :: a :: b :: taken, rest)
    else .error (.badOctet i)
  | i, '%' :: _ => .error (.badOctet i)
  | i, c :: cs =>
    if ok c then do
      let (taken, rest) ← span ok (i + 1) cs
      return (c :: taken, rest)
    else .ok ([], c :: cs)
  | _, [] => .ok ([], [])

/-- Reads the query and the fragment after a path, up to the end. -/
def readTail (scheme authority : Option (List Char)) (path : List Char) (i : Nat)
    (cs : List Char) : Except Fault Uri := do
  let (query, i, cs) ← match cs with
    | '?' :: cs => do
      let (query, rest) ← span isQueryChar (i + 1) cs
      pure (some query, i + 1 + query.length, rest)
    | cs => pure (none, i, cs)
  match cs with
  | [] => return ⟨scheme, authority, path, query, none⟩
  | '#' :: cs =>
    let (fragment, rest) ← span isQueryChar (i + 1) cs
    if rest = [] then return ⟨scheme, authority, path, query, some fragment⟩
    else .error (.unexpected (i + 1 + fragment.length))
  | _ :: _ => .error (.unexpected i)

def readPath (scheme authority : Option (List Char)) (i : Nat) (cs : List Char) :
    Except Fault Uri := do
  let (path, rest) ← span isPathChar i cs
  if authority.isSome && path ≠ [] && path.head? ≠ some '/' then .error (.unexpected i)
  else readTail scheme authority path (i + path.length) rest

/-- Reads the host and the port of an authority, when the host is an address in brackets. -/
def readAddress (i : Nat) (cs : List Char) : Except Fault (List Char × List Char) :=
  let (address, rest) := cs.span isAddressChar
  match rest with
  | ']' :: rest =>
    match rest with
    | ':' :: rest =>
      let (port, rest) := rest.span Char.isDigit
      .ok ('[' :: address ++ ']' :: ':' :: port, rest)
    | rest => .ok ('[' :: address ++ [']'], rest)
  | _ => .error (.badAddress i)

/-- Checks that an authority's host ends at its only colon, with a port after it. -/
def checkPort (i : Nat) (host : List Char) : Except Fault Unit :=
  match host.count ':' with
  | 0 => .ok ()
  | 1 =>
    let name := host.takeWhile (· != ':')
    let port := host.drop (name.length + 1)
    let digits := port.takeWhile Char.isDigit
    if digits = port then .ok () else .error (.unexpected (i + name.length + 1 + digits.length))
  | _ => .error (.unexpected (i + (host.length - 1 - host.reverse.findIdx (· == ':'))))

def readHost (i : Nat) : List Char → Except Fault (List Char × List Char)
  | '[' :: cs => readAddress i cs
  | cs => do
    let (host, rest) ← span isAuthorityChar i cs
    checkPort i host
    return (host, rest)

def readAuthority (scheme : Option (List Char)) (i : Nat) (cs : List Char) :
    Except Fault Uri := do
  let (first, rest) ← span isAuthorityChar i cs
  match rest with
  | '@' :: rest =>
    let (host, rest) ← readHost (i + first.length + 1) rest
    let authority := first ++ '@' :: host
    readPath scheme (some authority) (i + authority.length) rest
  | '[' :: _ =>
    if first ≠ [] then .error (.unexpected (i + first.length))
    else
      let (host, rest) ← readHost i rest
      readPath scheme (some host) (i + host.length) rest
  | rest =>
    checkPort i first
    readPath scheme (some first) (i + first.length) rest

/-- Reads a relative path, whose first segment has no colon, and what follows it. -/
def readRelative (cs : List Char) : Except Fault Uri := do
  let (first, rest) ← span isFirstSegmentChar 0 cs
  if rest.head? = some ':' then .error (.unexpected first.length)
  else
    let (more, rest) ← span isPathChar first.length rest
    let path := first ++ more
    readTail none none path path.length rest

def read (s : String) : Except Fault Uri :=
  let cs := s.toList
  let (scheme, rest) := cs.span isSchemeChar
  match rest with
  | ':' :: rest =>
    if (scheme.head?.map Char.isAlpha).getD false then
      match rest with
      | '/' :: '/' :: rest => readAuthority (some scheme) (scheme.length + 3) rest
      | rest => readPath (some scheme) none (scheme.length + 1) rest
    else .error (.unexpected 0)
  | rest =>
    match scheme, rest with
    | [], '/' :: '/' :: rest => readAuthority none 2 rest
    | _, _ => readRelative cs

/-- A part that may be missing, with the mark before it. -/
def marked (mark : List Char) : Option (List Char) → List Char
  | none => []
  | some part => mark ++ part

def text (u : Uri) : String :=
  String.ofList (((u.scheme.map (· ++ [':'])).getD []) ++ marked ['/', '/'] u.authority ++ u.path ++
    marked ['?'] u.query ++ marked ['#'] u.fragment)

def whole (u : Uri) : Uri := { u with fragment := none }

end Uri

end Elicit
