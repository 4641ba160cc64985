/-! Text in base 64: three octets are written as four characters. -/
namespace Elicit.Text

def base64Digit? (c : Char) : Option Nat :=
  if 'A' ≤ c ∧ c ≤ 'Z' then some (c.toNat - 'A'.toNat)
  else if 'a' ≤ c ∧ c ≤ 'z' then some (c.toNat - 'a'.toNat + 26)
  else if '0' ≤ c ∧ c ≤ '9' then some (c.toNat - '0'.toNat + 52)
  else if c = '+' then some 62
  else if c = '/' then some 63
  else none

/-- The octets behind a text in base 64, which is filled up to whole groups of four characters
and has no bits left over. -/
def base64Decode? : List Char → Option (List UInt8)
  | [] => some []
  | [a, b, '=', '='] => do
    let n := 64 * (← base64Digit? a) + (← base64Digit? b)
    if n % 16 = 0 then some [UInt8.ofNat (n / 16)] else none
  | [a, b, c, '='] => do
    let n := 4096 * (← base64Digit? a) + 64 * (← base64Digit? b) + (← base64Digit? c)
    if n % 4 = 0 then some [UInt8.ofNat (n / 1024), UInt8.ofNat (n / 4 % 256)] else none
  | a :: b :: c :: d :: cs => do
    let n := 262144 * (← base64Digit? a) + 4096 * (← base64Digit? b) + 64 * (← base64Digit? c) +
      (← base64Digit? d)
    return UInt8.ofNat (n / 65536) :: UInt8.ofNat (n / 256 % 256) :: UInt8.ofNat (n % 256) ::
      (← base64Decode? cs)
  | _ => none

end Elicit.Text
