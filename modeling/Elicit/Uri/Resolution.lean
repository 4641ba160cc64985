import Elicit.Text.Fields
import Elicit.Text.Percent
import Elicit.Uri.Basic

/-! Resolving relative references against a base, and their normal form. -/
namespace Elicit.Uri

/-- The segments of a path without those that name the directory itself or the one above it;
`kept` holds what stands before them, last segment first. -/
def removeDots (kept : List (List Char)) : List (List Char) → List (List Char)
  | [] => kept.reverse
  | ['.'] :: [] => ([] :: kept).reverse
  | ['.', '.'] :: [] => ([] :: kept.drop 1).reverse
  | ['.'] :: segments => removeDots kept segments
  | ['.', '.'] :: segments => removeDots (kept.drop 1) segments
  | segment :: segments => removeDots (segment :: kept) segments

/-- A path that starts at the root, without dot segments; any other path as it is. -/
def plainPath : List Char → List Char
  | '/' :: cs => '/' :: List.intercalate ['/'] (removeDots [] (Text.fields '/' cs))
  | cs => cs

/-- Writes percent-encoded octets in capital digits, and those that need no escape as they are. -/
def normalEscapes : List Char → List Char
  | '%' :: a :: b :: cs =>
    match Text.octet? a b with
    | some o =>
      let c := Char.ofNat o.toNat
      (if isUnreserved c then [c] else ['%', a.toUpper, b.toUpper]) ++ normalEscapes cs
    | none => '%' :: normalEscapes (a :: b :: cs)
  | c :: cs => c :: normalEscapes cs
  | [] => []

/-- Small letters outside escapes. -/
def lowerCase : List Char → List Char
  | '%' :: a :: b :: cs => '%' :: a :: b :: lowerCase cs
  | c :: cs => c.toLower :: lowerCase cs
  | [] => []

/-- An authority in its normal form: the host in small letters, and no colon without a port. -/
def normalAuthority (authority : List Char) : List Char :=
  let host := (authority.reverse.takeWhile (· != '@')).reverse
  let user := authority.take (authority.length - host.length)
  let host := lowerCase (normalEscapes host)
  normalEscapes user ++ if host.getLast? = some ':' then host.dropLast else host

def normal (u : Uri) : Uri :=
  let path := normalEscapes u.path
  { scheme := u.scheme.map (·.map Char.toLower)
    authority := u.authority.map normalAuthority
    path := if u.scheme.isSome then plainPath path else path
    query := u.query.map normalEscapes
    fragment := u.fragment.map normalEscapes }

/-- A relative path set beside the last segment of a base's path. -/
def mergePath (base : Uri) (path : List Char) : List Char :=
  if base.authority.isSome && base.path = [] then '/' :: path
  else (base.path.reverse.dropWhile (· != '/')).reverse ++ path

/-- What a reference means beside a base. -/
def against (base u : Uri) : Uri :=
  if u.scheme.isSome then { u with path := plainPath u.path }
  else if u.authority.isSome then { u with scheme := base.scheme, path := plainPath u.path }
  else if u.path = [] then { base with query := u.query.or base.query, fragment := u.fragment }
  else
    let path := if u.path.head? = some '/' then u.path else mergePath base u.path
    { base with path := plainPath path, query := u.query, fragment := u.fragment }

/-- Why a reference has no meaning beside a base. -/
inductive Unresolved where
  | malformed (fault : Fault)
  /-- The base points into a resource. -/
  | baseWithFragment (base : Uri)
  /-- The base has neither an authority nor a path from the root. -/
  | baseWithoutRoot (base : Uri)
  deriving Repr, DecidableEq

def Unresolved.message (reference : String) : Unresolved → String
  | .malformed fault => "Invalid URI reference '" ++ reference ++ "': " ++ fault.message
  | .baseWithFragment base =>
    "Failed to resolve '" ++ reference ++ "' against '" ++ base.text ++
      "': base URI/IRI with fragment"
  | .baseWithoutRoot base =>
    "Failed to resolve '" ++ reference ++ "' against '" ++ base.text ++
      "': relative reference must be empty or start with '#' when resolved against " ++
      "authority-less base with rootless path"

/-- Resolves a reference against a base. A fragment that the base has already leads back to the
base. -/
def resolve (base : Uri) (reference : String) : Except Unresolved Uri :=
  let cs := reference.toList
  if cs.head? = some '#' ∧ cs <:+ base.text.toList then .ok base
  else match read reference with
    | .error fault => .error (.malformed fault)
    | .ok u =>
      if base.fragment.isSome then .error (.baseWithFragment base)
      else if base.authority.isNone ∧ base.path.head? ≠ some '/' ∧ u.scheme.isNone ∧ cs ≠ [] ∧
          cs.head? ≠ some '#' then .error (.baseWithoutRoot base)
      else .ok (against base u).normal

/-- The base of documents that do not tell theirs. -/
def root : Uri := ⟨some "json-schema".toList, some [], ['/'], none, none⟩

/-- The base that a document tells. -/
def ofIdentifier (name : String) : Except Unresolved Uri := resolve root name

end Elicit.Uri
