import Elicit.Text.Hexadecimal
import Elicit.Text.Utf8

/-! Percent-encoded text: an octet may be written as `%` and two hexadecimal digits. -/
namespace Elicit.Text

/-- The octet of two hexadecimal digits. -/
def octet? (a b : Char) : Option UInt8 := do
  return UInt8.ofNat (16 * (← hexDigit? a) + (← hexDigit? b))

/-- The octets of a percent-encoded text. A `%` that no two digits follow stands for itself. -/
def percentOctets : List Char → List UInt8
  | '%' :: a :: b :: cs =>
    match octet? a b with
    | some o => o :: percentOctets cs
    | none => encodeChar '%' ++ percentOctets (a :: b :: cs)
  | c :: cs => encodeChar c ++ percentOctets cs
  | [] => []

def percentDecode? (cs : List Char) : Option String := decode? (percentOctets cs)

end Elicit.Text
