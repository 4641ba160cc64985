import Elicit.Text.Blank

/-! Fenced blocks: what stands between pairs of code fences. -/
namespace Elicit.Fence

/-- Splits a text around its first fence, three backquotes. -/
def split? : List Char → Option (List Char × List Char)
  | '\x60' :: '\x60' :: '\x60' :: rest => some ([], rest)
  | [] => none
  | c :: cs => (split? cs).map fun (before, after) => (c :: before, after)

theorem split?_length {cs before after : List Char} (h : split? cs = some (before, after)) :
    before.length + after.length + 3 = cs.length := by
  fun_induction split? cs generalizing before after with
  | case1 rest =>
    cases h
    simp
  | case2 => simp at h
  | case3 c cs _ ih =>
    obtain ⟨⟨b, a⟩, hs, hp⟩ := Option.map_eq_some_iff.1 h
    cases hp
    have := ih hs
    simp
    omega

def isHintChar (c : Char) : Bool :=
  c.isAlphanum || c == '-' || c == '_' || c == '+' || c == '.'

/-- What follows the first line of a text; nothing when it has a single line. -/
def dropLine (cs : List Char) : List Char := (cs.dropWhile (· ≠ '\n')).drop 1

/-- The body after an opening fence: without the fence's own line if that is blank or a hint. -/
def body (cs : List Char) : List Char :=
  if (Text.trim (cs.takeWhile (· ≠ '\n'))).all isHintChar then dropLine cs else cs

theorem body_length_le (cs : List Char) : (body cs).length ≤ cs.length := by
  unfold body dropLine
  split
  · have := (List.dropWhile_suffix (p := (fun c => decide (c ≠ '\n'))) (l := cs)).length_le
    simp only [List.length_drop]
    omega
  · exact Nat.le_refl _

/-- The interiors of the closed fenced blocks, in order. -/
def blocks (cs : List Char) : List (List Char) :=
  match h : split? cs with
  | none => []
  | some (_, opened) =>
    match h' : split? (body opened) with
    | none => []
    | some (interior, rest) =>
      have : rest.length < cs.length := by
        have h1 := split?_length h
        have h2 := split?_length h'
        have h3 := body_length_le opened
        omega
      interior :: blocks rest
termination_by cs.length

end Elicit.Fence
