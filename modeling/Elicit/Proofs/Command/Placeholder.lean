import Elicit.Command.Basic
import Mathlib.Data.List.Infix

/-! The placeholders of an argument: what stands between them, and what putting a prompt in their
place leaves as it was. -/
namespace Elicit.Command

/-- What stands before, between and after the placeholders, from left to right. -/
def pieces : List Char → List (List Char)
  | [] => [[]]
  | c :: cs =>
    if placeholder.isPrefixOf (c :: cs) then [] :: pieces (cs.drop (placeholder.length - 1))
    else (pieces cs).modifyHead (c :: ·)
termination_by cs => cs.length
decreasing_by
  · simp only [List.length_drop, List.length_cons]; omega
  · simp only [List.length_cons]; omega

/-- The text is the pieces with a placeholder between any two of them, and no piece has one. -/
structure Splits (a : List Char) (ps : List (List Char)) : Prop where
  ne_nil : ps ≠ []
  joined : placeholder.intercalate ps = a
  plain : ∀ p ∈ ps, ¬ placeholder <:+: p

theorem isPrefixOf_placeholder {cs : List Char} :
    placeholder.isPrefixOf cs = true ↔ placeholder <+: cs :=
  List.isPrefixOf_iff_prefix

theorem not_isInfix_nil : ¬ placeholder <:+: [] := by
  rw [List.infix_nil]
  decide

theorem append_drop_of_isPrefix {c : Char} {cs : List Char} (h : placeholder <+: c :: cs) :
    placeholder ++ cs.drop (placeholder.length - 1) = c :: cs := by
  rw [← List.drop_cons (by decide)]
  exact List.prefix_iff_eq_append.mp h

theorem isPrefix_intercalate (between p : List Char) (ps : List (List Char)) :
    p <+: between.intercalate (p :: ps) := by
  cases ps with
  | nil => rw [List.intercalate_singleton]
  | cons q ps =>
    rw [List.intercalate_cons_cons, List.append_assoc]
    exact List.prefix_append _ _

/-- No placeholder begins in a text without one and ends in a placeholder after it, since only its
first character opens it. -/
theorem not_isPrefix_append {c : Char} {cs : List Char} (h : ¬ placeholder <:+: c :: cs)
    (rest : List Char) : ¬ placeholder <+: c :: cs ++ (placeholder ++ rest) := by
  intro hp
  rcases List.prefix_or_prefix_of_prefix hp (List.prefix_append _ _) with hin | ⟨tail, htail⟩
  · exact h hin.isInfix
  · rw [← htail, List.prefix_append_right_inj, htail] at hp
    -- what is left over of the placeholder would be the start of the next one
    cases tail with
    | nil =>
      rw [List.append_nil] at htail
      exact h (htail ▸ List.infix_rfl)
    | cons d tail =>
      have hd : d :: tail <+: '\x7b' :: (placeholder.tail ++ rest) := hp
      obtain ⟨rfl, -⟩ := List.cons_prefix_cons.mp hd
      have hmem : '\x7b' ∈ placeholder.tail := by
        rw [← htail]
        simp
      exact absurd hmem (by decide)

theorem pieces_of_plain {a : List Char} (h : ¬ placeholder <:+: a) : pieces a = [a] := by
  induction a with
  | nil => rw [pieces]
  | cons c cs ih =>
    have hno : ¬ placeholder.isPrefixOf (c :: cs) := fun hp =>
      h (isPrefixOf_placeholder.mp hp).isInfix
    rw [pieces, if_neg hno, ih fun hi => h (List.infix_cons hi)]
    rfl

theorem pieces_append {p : List Char} (h : ¬ placeholder <:+: p) (rest : List Char) :
    pieces (p ++ (placeholder ++ rest)) = p :: pieces rest := by
  induction p with
  | nil =>
    have hp : placeholder.isPrefixOf ('\x7b' :: (placeholder.tail ++ rest)) :=
      isPrefixOf_placeholder.mpr (List.prefix_append placeholder rest)
    change pieces ('\x7b' :: (placeholder.tail ++ rest)) = _
    rw [pieces, if_pos hp]
    rfl
  | cons c cs ih =>
    have hno : ¬ placeholder.isPrefixOf (c :: cs ++ (placeholder ++ rest)) := fun hp =>
      not_isPrefix_append h rest (isPrefixOf_placeholder.mp hp)
    rw [List.cons_append] at hno ⊢
    rw [pieces, if_neg hno, ih fun hi => h (List.infix_cons hi)]
    rfl

theorem splits_pieces (a : List Char) : Splits a (pieces a) := by
  fun_induction pieces a with
  | case1 =>
    refine ⟨List.cons_ne_nil _ _, List.intercalate_singleton, ?_⟩
    rw [List.forall_mem_singleton]
    exact not_isInfix_nil
  | case2 c cs hp ih =>
    refine ⟨List.cons_ne_nil _ _, ?_, List.forall_mem_cons.mpr ⟨not_isInfix_nil, ih.plain⟩⟩
    rw [List.intercalate_cons_of_ne_nil ih.ne_nil, ih.joined, List.nil_append]
    exact append_drop_of_isPrefix (isPrefixOf_placeholder.mp hp)
  | case3 c cs hp ih =>
    rcases hps : pieces cs with - | ⟨p, ps⟩
    · exact absurd hps ih.ne_nil
    rw [hps] at ih
    have hjoined : placeholder.intercalate ((c :: p) :: ps) = c :: cs := by
      rw [List.intercalate_cons_cons_left, ih.joined]
    obtain ⟨hp', hps'⟩ := List.forall_mem_cons.mp ih.plain
    refine ⟨List.cons_ne_nil _ _, hjoined, List.forall_mem_cons.mpr ⟨?_, hps'⟩⟩
    intro hi
    rcases List.infix_cons_iff.mp hi with hi | hi
    · -- a placeholder at the start of the first piece is one at the start of the text
      refine hp (isPrefixOf_placeholder.mpr ?_)
      rw [← hjoined]
      exact hi.trans (isPrefix_intercalate _ _ _)
    · exact hp' hi

/-- There is only one way to split a text. -/
theorem Splits.eq_pieces {a : List Char} {ps : List (List Char)} (h : Splits a ps) :
    ps = pieces a := by
  induction ps generalizing a with
  | nil => exact absurd rfl h.ne_nil
  | cons p ps ih =>
    obtain ⟨hp, hps⟩ := List.forall_mem_cons.mp h.plain
    obtain rfl := h.joined
    cases ps with
    | nil => rw [List.intercalate_singleton, pieces_of_plain hp]
    | cons q ps =>
      rw [List.intercalate_cons_cons, List.append_assoc, pieces_append hp,
        ← ih ⟨List.cons_ne_nil _ _, rfl, hps⟩]

theorem fill_eq_intercalate (prompt a : List Char) :
    fill prompt a = prompt.intercalate (pieces a) := by
  fun_induction pieces a with
  | case1 => rw [fill, List.intercalate_singleton]
  | case2 c cs hp ih =>
    rw [fill, if_pos hp, ih, List.intercalate_cons_of_ne_nil (splits_pieces _).ne_nil,
      List.nil_append]
  | case3 c cs hp ih =>
    rw [fill, if_neg hp, ih]
    rcases hps : pieces cs with - | ⟨p, ps⟩
    · exact absurd hps (splits_pieces cs).ne_nil
    exact List.intercalate_cons_cons_left.symm

theorem hasPlaceholder_iff (a : List Char) : hasPlaceholder a = true ↔ placeholder <:+: a := by
  induction a with
  | nil => exact iff_of_false Bool.false_ne_true not_isInfix_nil
  | cons c cs ih =>
    rw [hasPlaceholder, Bool.or_eq_true, isPrefixOf_placeholder, ih, List.infix_cons_iff]

theorem fill_of_plain {a : List Char} (h : ¬ placeholder <:+: a) (prompt : List Char) :
    fill prompt a = a := by
  rw [fill_eq_intercalate, pieces_of_plain h, List.intercalate_singleton]

/-- An argument stays as it is for every prompt if the placeholder does not occur in it. -/
theorem forall_fill_eq_self_iff (a : List Char) :
    (∀ prompt, fill prompt a = a) ↔ ¬ placeholder <:+: a := by
  refine ⟨fun h hi => ?_, fun h prompt => fill_of_plain h prompt⟩
  have hsplits := splits_pieces a
  rcases hps : pieces a with - | ⟨p, - | ⟨q, ps⟩⟩
  · exact hsplits.ne_nil hps
  · rw [hps] at hsplits
    have hp : p = a := by rw [← hsplits.joined, List.intercalate_singleton]
    exact hsplits.plain p (List.mem_singleton_self p) (hp ▸ hi)
  · -- a prompt that is longer than the argument does not fit into it
    have hfill := congrArg List.length (h ('\x7b' :: a))
    rw [fill_eq_intercalate, hps, List.intercalate_cons_cons] at hfill
    simp only [List.length_append, List.length_cons] at hfill
    omega

theorem promptsByArgument_iff (c : Command) :
    c.promptsByArgument = true ↔ ∃ a ∈ c.arguments, placeholder <:+: a.toList := by
  simp only [promptsByArgument, List.any_eq_true, hasPlaceholder_iff]

theorem forall_argumentsFor_eq_self_iff (c : Command) :
    (∀ prompt, c.argumentsFor prompt = c.arguments) ↔
      ∀ a ∈ c.arguments, ¬ placeholder <:+: a.toList := by
  have hkept : ∀ prompt, c.argumentsFor prompt = c.arguments ↔
      ∀ a ∈ c.arguments, fill prompt.toList a.toList = a.toList := by
    intro prompt
    have hmap : c.argumentsFor prompt = c.arguments.map id ↔ ∀ a ∈ c.arguments,
        String.ofList (fill prompt.toList a.toList) = a := List.map_inj_left
    rw [List.map_id] at hmap
    rw [hmap]
    refine forall₂_congr fun a _ => ?_
    rw [← String.toList_inj, String.toList_ofList]
  constructor
  · intro h a ha
    rw [← forall_fill_eq_self_iff]
    intro prompt
    have hprompt := (hkept (String.ofList prompt)).mp (h _) a ha
    rwa [String.toList_ofList] at hprompt
  · intro h prompt
    exact (hkept prompt).mpr fun a ha => fill_of_plain (h a ha) _

end Elicit.Command
