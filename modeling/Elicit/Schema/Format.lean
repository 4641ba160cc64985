import Elicit.Pattern.Basic
import Elicit.Schema.Dialect
import Elicit.Text.Fields
import Elicit.Uri.Basic

/-! Formats of strings: dates, addresses, references and the like. -/
namespace Elicit.Schema

inductive Format where
  | date
  | dateTime
  | email
  | hostname
  | idnEmail
  | idnHostname
  | ipv4
  | ipv6
  | iri
  | iriReference
  | jsonPointer
  | regex
  | relativeJsonPointer
  | time
  | uri
  | uriReference
  | uriTemplate
  deriving DecidableEq, Repr

namespace Format

def all : List Format :=
  [.date, .dateTime, .email, .hostname, .idnEmail, .idnHostname, .ipv4, .ipv6, .iri,
    .iriReference, .jsonPointer, .regex, .relativeJsonPointer, .time, .uri, .uriReference,
    .uriTemplate]

def name : Format → String
  | .date => "date"
  | .dateTime => "date-time"
  | .email => "email"
  | .hostname => "hostname"
  | .idnEmail => "idn-email"
  | .idnHostname => "idn-hostname"
  | .ipv4 => "ipv4"
  | .ipv6 => "ipv6"
  | .iri => "iri"
  | .iriReference => "iri-reference"
  | .jsonPointer => "json-pointer"
  | .regex => "regex"
  | .relativeJsonPointer => "relative-json-pointer"
  | .time => "time"
  | .uri => "uri"
  | .uriReference => "uri-reference"
  | .uriTemplate => "uri-template"

def introduced : Format → Dialect
  | .jsonPointer | .uriReference | .uriTemplate => .draft6
  | .idnHostname | .iri | .iriReference | .relativeJsonPointer => .draft7
  | _ => .draft4

def ofName? (d : Dialect) (name : String) : Option Format :=
  all.find? fun f => f.name == name && d.since f.introduced

/-- The number that decimal digits write. -/
def decimal? (cs : List Char) : Option Nat :=
  if cs ≠ [] ∧ cs.all Char.isDigit then some (Nat.ofDigitChars 10 cs 0) else none

def twoDigits? (a b : Char) : Option Nat := decimal? [a, b]

def daysIn (year month : Nat) : Nat :=
  if month = 2 then if year % 4 = 0 ∧ (year % 100 ≠ 0 ∨ year % 400 = 0) then 29 else 28
  else if [4, 6, 9, 11].contains month then 30 else 31

def isDate : List Char → Bool
  | [y₁, y₂, y₃, y₄, '-', m₁, m₂, '-', d₁, d₂] =>
    match decimal? [y₁, y₂, y₃, y₄], twoDigits? m₁ m₂, twoDigits? d₁ d₂ with
    | some year, some month, some day =>
      1 ≤ month && month ≤ 12 && 1 ≤ day && day ≤ daysIn year month
    | _, _, _ => false
  | _ => false

/-- The minutes by which a time zone is ahead. -/
def offset? : List Char → Option Int
  | ['Z'] | ['z'] => some 0
  | [sign, h₁, h₂, ':', m₁, m₂] => do
    let hours ← twoDigits? h₁ h₂
    let minutes ← twoDigits? m₁ m₂
    if hours ≤ 23 ∧ minutes ≤ 59 ∧ (sign = '+' ∨ sign = '-') then
      some (if sign = '+' then hours * 60 + minutes else -(hours * 60 + minutes))
    else none
  | _ => none

/-- A text without the fraction of a second that it starts with. -/
def withoutFraction? : List Char → Option (List Char)
  | '.' :: cs => if cs.head?.any Char.isDigit then some (cs.dropWhile Char.isDigit) else none
  | cs => some cs

/-- Whether a text is a time of day with a time zone. A minute has a leap second only at the end
of a day in universal time. -/
def isTime : List Char → Bool
  | h₁ :: h₂ :: ':' :: m₁ :: m₂ :: ':' :: s₁ :: s₂ :: cs =>
    match twoDigits? h₁ h₂, twoDigits? m₁ m₂, twoDigits? s₁ s₂,
        (withoutFraction? cs).bind offset? with
    | some hour, some minute, some second, some offset =>
      hour ≤ 23 && minute ≤ 59 &&
        (second ≤ 59 || second == 60 && ((hour * 60 + minute : Int) - offset) % 1440 == 1439)
    | _, _, _, _ => false
  | _ => false

def isDateTime (cs : List Char) : Bool :=
  isDate (cs.take 10) && match cs.drop 10 with
    | t :: cs => (t == 'T' || t == 't') && isTime cs
    | [] => false

/-- Whether a text is a number from 0 to 255 as it is usually written. -/
def isAddressByte (cs : List Char) : Bool :=
  match decimal? cs with
  | some n => n ≤ 255 && cs.length ≤ 3 && (cs.length == 1 || cs.head? != some '0')
  | none => false

/-- Whether a text is an address of four bytes. -/
def isIpv4 (cs : List Char) : Bool :=
  let parts := Text.fields '.' cs
  parts.length == 4 && parts.all isAddressByte

/-- Whether a text is up to four hexadecimal digits. -/
def isAddressGroup (cs : List Char) : Bool :=
  cs != [] && cs.length ≤ 4 && cs.all fun c => (Text.hexDigit? c).isSome

/-- How many groups an address or a part of it has; the last two may be an address of four
bytes. -/
def groups? (last : Bool) : List (List Char) → Option Nat
  | [] => some 0
  | [part] =>
    if isAddressGroup part then some 1 else if last && isIpv4 part then some 2 else none
  | part :: parts => if isAddressGroup part then (groups? last parts).map (· + 1) else none

/-- The text before the first pair of colons, and the text after it. -/
def splitGap : List Char → Option (List Char × List Char)
  | ':' :: ':' :: cs => some ([], cs)
  | c :: cs => (splitGap cs).map fun (before, rest) => (c :: before, rest)
  | [] => none

/-- The parts of an address between colons. -/
def addressParts (cs : List Char) : List (List Char) :=
  if cs = [] then [] else Text.fields ':' cs

/-- Whether a text is an address of eight groups, of which a gap may leave out some. -/
def isIpv6 (cs : List Char) : Bool :=
  match splitGap cs with
  | none => groups? true (Text.fields ':' cs) == some 8
  | some (before, rest) =>
    match groups? false (addressParts before), groups? true (addressParts rest) with
    | some m, some n => m + n ≤ 7
    | _, _ => false

def isHostname (cs : List Char) : Bool :=
  cs != [] && cs.length ≤ 255 && cs.head? != some '-' && cs.getLast? != some '-' &&
    (cs.all fun c => c.isAlphanum || 0x80 ≤ c.toNat || c == '-' || c == '.') &&
    (Text.fields '.' cs).all (·.length ≤ 63)

/-- Whether a character may stand in the name before an address's host without quotes. -/
def isAtomChar (c : Char) : Bool :=
  c.isAlphanum || 0x80 ≤ c.toNat || "!#$%&'*+-/=?^_`\x7b|\x7d~".toList.contains c

/-- Whether a text is the name before an address's host. -/
def isMailbox (cs : List Char) : Bool :=
  cs != [] && cs.length ≤ 64 &&
    match cs with
    | '"' :: rest =>
      rest != [] && rest.getLast? == some '"' && rest.dropLast.all fun c => c != '"' && c != '\\'
    | cs => (Text.fields '.' cs).all fun part => part != [] && part.all isAtomChar

def isMailHost : List Char → Bool
  | '[' :: cs =>
    cs.getLast? == some ']' &&
      match cs.dropLast with
      | 'I' :: 'P' :: 'v' :: '6' :: ':' :: address => isIpv6 address
      | address => isIpv4 address
  | cs => isHostname cs && (Text.fields '.' cs).all (· != [])

def isEmail (cs : List Char) : Bool :=
  let host := (cs.reverse.takeWhile (· != '@')).reverse
  host.length < cs.length && isMailbox (cs.take (cs.length - host.length - 1)) && isMailHost host

def isReference (s : String) : Bool := (Uri.read s).toBool

/-- Whether a text is a reference with a scheme. -/
def isAbsolute (s : String) : Bool :=
  match Uri.read s with
  | .ok u => u.scheme.isSome
  | .error _ => false

/-- A text with a letter in place of every character outside ASCII. -/
def inAscii (s : String) : String :=
  String.ofList (s.toList.map fun c => if c.toNat < 0x80 then c else 'a')

/-- Whether a text matches a pattern that can be read. -/
def matchesPattern (pattern s : String) : Bool := (Pattern.read? pattern).any (·.holds s)

def pointerPattern : String := "^(/(([^/~])|(~[01]))*)*$"

def relativePointerPattern : String := "^(?:0|[1-9][0-9]*)(?:#|(?:/(?:[^/~]|~0|~1)*)*)$"

/-- The pattern of a variable in a template. -/
def templateVariable : String :=
  "(?:[a-zA-Z0-9_]|%[0-9a-fA-F]\x7b2\x7d)+(?::[1-9][0-9]\x7b0,3\x7d|\\*)?"

def templatePattern : String :=
  "^(?:(?:[^\\x00-\\x20\"'<>%\\\\^`\x7b|\x7d]|%[0-9a-fA-F]\x7b2\x7d)|\\\x7b[+#./;?&=,!@|]?" ++
    templateVariable ++ "(?:," ++ templateVariable ++ ")*\\\x7d)*$"

def holds (f : Format) (s : String) : Bool :=
  match f with
  | .date => isDate s.toList
  | .dateTime => isDateTime s.toList
  | .email | .idnEmail => isEmail s.toList
  | .hostname | .idnHostname => isHostname s.toList
  | .ipv4 => isIpv4 s.toList
  | .ipv6 => isIpv6 s.toList
  | .iri => isAbsolute (inAscii s)
  | .iriReference => isReference (inAscii s)
  | .jsonPointer => matchesPattern pointerPattern s
  | .regex => (Pattern.read? s).isSome
  | .relativeJsonPointer => matchesPattern relativePointerPattern s
  | .time => isTime s.toList
  | .uri => isAbsolute s
  | .uriReference => isReference s
  | .uriTemplate => matchesPattern templatePattern s

end Format

end Elicit.Schema
