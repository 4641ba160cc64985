/-! UTF-8 as a list of octets: encoding, strict decoding, and decoding that replaces what is
not well formed. -/
namespace Elicit.Text

/-- Octets of a character's UTF-8 form. -/
def octetCount (c : Char) : Nat :=
  let n := c.toNat
  if n < 0x80 then 1 else if n < 0x800 then 2 else if n < 0x10000 then 3 else 4

def encodeChar (c : Char) : List UInt8 :=
  let n := c.toNat
  let tail (shift : Nat) : UInt8 := UInt8.ofNat (0x80 + n / Nat.pow 2 shift % 64)
  if n < 0x80 then [UInt8.ofNat n]
  else if n < 0x800 then [UInt8.ofNat (0xC0 + n / 64), tail 0]
  else if n < 0x10000 then [UInt8.ofNat (0xE0 + n / 4096), tail 6, tail 0]
  else [UInt8.ofNat (0xF0 + n / 262144), tail 12, tail 6, tail 0]

def encode (cs : List Char) : List UInt8 := cs.flatMap encodeChar

/-- What a character owes after its first octets: how many more, the range of the next one, and
the code point so far. -/
structure Owed where
  count : Nat
  low : Nat
  high : Nat
  code : Nat
  deriving Repr, DecidableEq

/-- Where a decoder stands after the first octet of a character; `none` when no character starts
with that octet. A character of one octet owes nothing. -/
def Owed.first (b : UInt8) : Option Owed :=
  let n := b.toNat
  if n < 0x80 then some ⟨0, 0, 0, n⟩
  else if 0xC2 ≤ n ∧ n ≤ 0xDF then some ⟨1, 0x80, 0xBF, n - 0xC0⟩
  else if n = 0xE0 then some ⟨2, 0xA0, 0xBF, 0⟩
  else if n = 0xED then some ⟨2, 0x80, 0x9F, 0xD⟩
  else if 0xE1 ≤ n ∧ n ≤ 0xEF then some ⟨2, 0x80, 0xBF, n - 0xE0⟩
  else if n = 0xF0 then some ⟨3, 0x90, 0xBF, 0⟩
  else if n = 0xF4 then some ⟨3, 0x80, 0x8F, 4⟩
  else if 0xF1 ≤ n ∧ n ≤ 0xF3 then some ⟨3, 0x80, 0xBF, n - 0xF0⟩
  else none

/-- The decoder after one more octet of a character, if the character can hold it. -/
def Owed.next (o : Owed) (b : UInt8) : Option Owed :=
  let n := b.toNat
  if o.low ≤ n ∧ n ≤ o.high then some ⟨o.count - 1, 0x80, 0xBF, o.code * 64 + (n - 0x80)⟩
  else none

/-- Starts a character at an octet: the decoder's new state and the characters it gives out, with
`none` for a part that is not well formed. -/
private def start (b : UInt8) : Option Owed × List (Option Char) :=
  match Owed.first b with
  | none => (none, [none])
  | some o => if o.count = 0 then (none, [some (Char.ofNat o.code)]) else (some o, [])

/-- The characters of an octet sequence; each longest part that begins a character but does not
complete one is a single `none`, and so is each octet that begins none. -/
def decodeParts : Option Owed → List UInt8 → List (Option Char)
  | none, [] => []
  | some _, [] => [none]
  | none, b :: bs => (start b).2 ++ decodeParts (start b).1 bs
  | some o, b :: bs =>
    match o.next b with
    | some o' =>
      if o'.count = 0 then some (Char.ofNat o'.code) :: decodeParts none bs
      else decodeParts (some o') bs
    | none => none :: ((start b).2 ++ decodeParts (start b).1 bs)

/-- Decodes octets, with U+FFFD in place of each part that is not well formed. -/
def decodeLossy (bs : List UInt8) : String :=
  String.ofList ((decodeParts none bs).map (·.getD (Char.ofNat 0xFFFD)))

/-- Decodes octets that are well formed throughout. -/
def decode? (bs : List UInt8) : Option String :=
  (decodeParts none bs).mapM id |>.map String.ofList

end Elicit.Text
