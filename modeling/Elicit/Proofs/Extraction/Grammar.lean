import Elicit.Proofs.Extraction.Region

/-! Balanced regions as a grammar. A block is a pair of matching brackets around items, and an item
is a block, a string, or a character that is neither a quote nor a bracket. A scan that begins at an
opening bracket finds the block there. If there is none, the text ends within a block or comes to a
closing bracket where another one is due. -/
namespace Elicit.Region

/-- An opening bracket and the bracket that closes it. -/
inductive Matches : Char → Char → Prop
  | braces : Matches '{' '}'
  | brackets : Matches '[' ']'

/-- What a string is made of: characters on their own, and any character after a backslash. -/
inductive StringPart : List Char → Prop
  | char {c : Char} (hquote : c ≠ '"') (hbackslash : c ≠ '\\') : StringPart [c]
  | escape (c : Char) : StringPart ['\\', c]

/-- The symbols of the grammar. -/
inductive Symbol where
  | block
  | item
  | string

/-- The texts that can be derived from a symbol, with one constructor for each production. -/
inductive Derives : Symbol → List Char → Prop
  | block {o d : Char} {items : List (List Char)} (h : Matches o d)
    (hitems : ∀ i ∈ items, Derives .item i) : Derives .block (o :: (items.flatten ++ [d]))
  | string {parts : List (List Char)} (hparts : ∀ p ∈ parts, StringPart p) :
    Derives .string ('"' :: (parts.flatten ++ ['"']))
  | nested {cs : List Char} (h : Derives .block cs) : Derives .item cs
  | quoted {cs : List Char} (h : Derives .string cs) : Derives .item cs
  | plain {c : Char} (h : isPlain c) : Derives .item [c]

/-- A text takes a scan from one state to another without coming to the end of the region. -/
inductive Leads : State → List Char → State → Prop
  | nil {s : State} : Leads s [] s
  | cons {s t u : State} {c : Char} {cs : List Char} (hstep : step s c = .more t)
    (hcs : Leads t cs u) : Leads s (c :: cs) u

theorem Leads.append {s t u : State} {cs rest : List Char} (h : Leads s cs t)
    (hrest : Leads t rest u) : Leads s (cs ++ rest) u := by
  induction h with
  | nil => exact hrest
  | cons hstep _ ih => exact .cons hstep (ih hrest)

theorem leads_flatten {s : State} {parts : List (List Char)} (h : ∀ p ∈ parts, Leads s p s) :
    Leads s parts.flatten s := by
  induction parts with
  | nil => exact .nil
  | cons p parts ih =>
    obtain ⟨hp, hparts⟩ := List.forall_mem_cons.mp h
    exact hp.append (ih hparts)

theorem Leads.takeFrom_append {s t : State} {cs : List Char} (h : Leads s cs t)
    (rest : List Char) : takeFrom s (cs ++ rest) = (takeFrom t rest).map (cs ++ ·) := by
  induction h with
  | nil => simp
  | cons hstep _ ih => simp [takeFrom, hstep, ih, Function.comp_def]

theorem Leads.takeFrom_eq_none {s t : State} {cs : List Char} (h : Leads s cs t) :
    takeFrom s cs = none := by
  have hend := h.takeFrom_append []
  rw [List.append_nil] at hend
  exact hend

theorem step_opener {o d : Char} (h : Matches o d) (closers : List Char) :
    step ⟨false, false, closers⟩ o = .more ⟨false, false, d :: closers⟩ := by
  cases h <;> rfl

theorem step_closer {o d : Char} (h : Matches o d) (closers : List Char) :
    step ⟨false, false, d :: closers⟩ d =
      if closers.isEmpty then .closed else .more ⟨false, false, closers⟩ := by
  cases h <;> rfl

theorem leads_stringPart {part : List Char} (h : StringPart part) (closers : List Char) :
    Leads ⟨true, false, closers⟩ part ⟨true, false, closers⟩ := by
  cases h with
  | char hquote hbackslash => exact .cons (step_quoted hbackslash hquote) .nil
  | escape c => exact .cons rfl (.cons rfl .nil)

theorem leads_openString {parts : List (List Char)} (hparts : ∀ p ∈ parts, StringPart p)
    (closers : List Char) :
    Leads ⟨false, false, closers⟩ ('"' :: parts.flatten) ⟨true, false, closers⟩ :=
  .cons rfl (leads_flatten fun p hp => leads_stringPart (hparts p hp) closers)

/-- Within a region a scan passes over whatever can be derived, and the same brackets are due after
it as before it. -/
theorem Derives.leads {sym : Symbol} {cs : List Char} (h : Derives sym cs) (due : Char)
    (closers : List Char) :
    Leads ⟨false, false, due :: closers⟩ cs ⟨false, false, due :: closers⟩ := by
  induction h generalizing due closers with
  | @block o d items h _ ih =>
    have hitems := leads_flatten fun i hi => ih i hi d (due :: closers)
    have hclose := step_closer h (due :: closers)
    exact .cons (step_opener h _) (hitems.append (.cons hclose .nil))
  | string hparts => exact (leads_openString hparts _).append (.cons rfl .nil)
  | nested _ ih => exact ih due closers
  | quoted _ ih => exact ih due closers
  | plain h => exact .cons (step_plain h) .nil

theorem leads_openBlock {o d : Char} {items : List (List Char)} (h : Matches o d)
    (hitems : ∀ i ∈ items, Derives .item i) (closers : List Char) :
    Leads ⟨false, false, closers⟩ (o :: items.flatten) ⟨false, false, d :: closers⟩ :=
  .cons (step_opener h closers) (leads_flatten fun i hi => (hitems i hi).leads d closers)

/-- A scan stops at the end of a block, whatever follows. -/
theorem takeFrom_block {region : List Char} (h : Derives .block region) (rest : List Char) :
    takeFrom .start (region ++ rest) = some region := by
  cases h with
  | @block o d items h hitems =>
    have hopen : Leads .start (o :: items.flatten) ⟨false, false, [d]⟩ :=
      leads_openBlock h hitems []
    have hend : takeFrom ⟨false, false, [d]⟩ (d :: rest) = some [d] := by
      rw [takeFrom, step_closer h []]
      rfl
    have hsplit : o :: (items.flatten ++ [d]) ++ rest = o :: items.flatten ++ d :: rest := by simp
    rw [hsplit, hopen.takeFrom_append, hend]
    simp

/-- Brackets that are open, each followed by items, with the brackets that are due, innermost
first. -/
inductive Unclosed : List Char → List Char → Prop
  | nil : Unclosed [] []
  | opened {closers cs : List Char} {o d : Char} {items : List (List Char)}
    (hcs : Unclosed closers cs) (h : Matches o d) (hitems : ∀ i ∈ items, Derives .item i) :
    Unclosed (d :: closers) (cs ++ o :: items.flatten)

theorem Unclosed.item {due : Char} {closers cs i : List Char} (h : Unclosed (due :: closers) cs)
    (hi : Derives .item i) : Unclosed (due :: closers) (cs ++ i) := by
  cases h with
  | @opened _ front o _ items hfront hmatch hitems =>
    have hmore : ∀ j ∈ items ++ [i], Derives .item j :=
      List.forall_mem_append.mpr ⟨hitems, List.forall_mem_singleton.mpr hi⟩
    have hopened := Unclosed.opened hfront hmatch hmore
    simpa using hopened

theorem Unclosed.bracket {closers cs : List Char} {o d : Char} (h : Unclosed closers cs)
    (hmatch : Matches o d) : Unclosed (d :: closers) (cs ++ [o]) :=
  .opened h hmatch (List.forall_mem_nil _)

/-- The bracket that is due makes a block of what follows the last bracket that is open. -/
theorem Unclosed.close {due : Char} {closers cs : List Char} (h : Unclosed (due :: closers) cs) :
    ∃ front region, cs ++ [due] = front ++ region ∧ Unclosed closers front ∧
      Derives .block region := by
  cases h with
  | @opened _ front o _ items hfront hmatch hitems =>
    exact ⟨front, o :: (items.flatten ++ [due]), by simp, hfront, .block hmatch hitems⟩

theorem Unclosed.leads {closers cs : List Char} (h : Unclosed closers cs) :
    Leads .start cs ⟨false, false, closers⟩ := by
  induction h with
  | nil => exact .nil
  | opened _ hmatch hitems ih => exact ih.append (leads_openBlock hmatch hitems _)

/-- A block that has begun and not ended: between items, or within a string, or after a backslash
there. At least one bracket is due. -/
inductive Unfinished : State → List Char → Prop
  | between {due : Char} {closers cs : List Char} (h : Unclosed (due :: closers) cs) :
    Unfinished ⟨false, false, due :: closers⟩ cs
  | string {due : Char} {closers cs : List Char} {parts : List (List Char)}
    (h : Unclosed (due :: closers) cs) (hparts : ∀ p ∈ parts, StringPart p) :
    Unfinished ⟨true, false, due :: closers⟩ (cs ++ '"' :: parts.flatten)
  | escape {due : Char} {closers cs : List Char} {parts : List (List Char)}
    (h : Unclosed (due :: closers) cs) (hparts : ∀ p ∈ parts, StringPart p) :
    Unfinished ⟨true, true, due :: closers⟩ (cs ++ '"' :: (parts.flatten ++ ['\\']))

/-- A text in which the first bracket to close a block is not the one that is due. -/
inductive Mismatched : List Char → Prop
  | closer {due c : Char} {closers cs rest : List Char} (h : Unclosed (due :: closers) cs)
    (hc : c = '}' ∨ c = ']') (hne : c ≠ due) : Mismatched (cs ++ c :: rest)

theorem Unfinished.leads {s : State} {cs : List Char} (h : Unfinished s cs) :
    Leads .start cs s := by
  cases h with
  | between h => exact h.leads
  | string h hparts => exact h.leads.append (leads_openString hparts _)
  | escape h hparts =>
    exact h.leads.append ((leads_openString hparts _).append (.cons rfl .nil))

theorem step_mismatched {due c : Char} (hc : c = '}' ∨ c = ']') (hne : c ≠ due)
    (closers : List Char) : step ⟨false, false, due :: closers⟩ c = .mismatched := by
  rcases hc with rfl | rfl <;> simp [step, hne.symm]

theorem Mismatched.takeFrom_eq_none {text : List Char} (h : Mismatched text) :
    takeFrom .start text = none := by
  cases h with
  | @closer due c closers cs rest h hc hne =>
    have hstop : takeFrom ⟨false, false, due :: closers⟩ (c :: rest) = none := by
      rw [takeFrom, step_mismatched hc hne]
    rw [h.leads.takeFrom_append, hstop]
    rfl

theorem char_cases (c : Char) :
    c = '"' ∨ (∃ d, Matches c d) ∨ (c = '}' ∨ c = ']') ∨ isPlain c := by
  by_cases hquote : c = '"'
  · exact .inl hquote
  by_cases hbrace : c = '{'
  · exact .inr (.inl ⟨'}', by rw [hbrace]; exact .braces⟩)
  by_cases hbracket : c = '['
  · exact .inr (.inl ⟨']', by rw [hbracket]; exact .brackets⟩)
  by_cases hclose : c = '}' ∨ c = ']'
  · exact .inr (.inr (.inl hclose))
  · obtain ⟨hbrace', hbracket'⟩ := not_or.mp hclose
    have hplain : isPlain c := by simp [isPlain, hquote, hbrace, hbracket, hbrace', hbracket']
    exact .inr (.inr (.inr hplain))

/-- One more character: the block goes on, or ends, or cannot end any more. -/
theorem Unfinished.step_cases {s : State} {cs : List Char} (h : Unfinished s cs) (c : Char) :
    (∃ t, step s c = .more t ∧ Unfinished t (cs ++ [c])) ∨
      (step s c = .closed ∧ Derives .block (cs ++ [c])) ∨
      (step s c = .mismatched ∧ ∀ rest, Mismatched (cs ++ c :: rest)) := by
  cases h with
  | @between due closers cs h =>
    rcases char_cases c with rfl | ⟨d, hmatch⟩ | hclose | hplain
    · exact .inl ⟨_, rfl, .string h (List.forall_mem_nil _)⟩
    · exact .inl ⟨_, step_opener hmatch _, .between (h.bracket hmatch)⟩
    · by_cases hdue : c = due
      · obtain ⟨front, region, hcs, hfront, hblock⟩ := h.close
        subst hdue
        cases closers with
        | nil =>
          cases hfront
          refine .inr (.inl ⟨?_, ?_⟩)
          · rcases hclose with rfl | rfl <;> rfl
          · rw [hcs]
            exact hblock
        | cons d closers =>
          refine .inl ⟨⟨false, false, d :: closers⟩, ?_, .between ?_⟩
          · rcases hclose with rfl | rfl <;> rfl
          · rw [hcs]
            exact hfront.item (.nested hblock)
      · exact .inr (.inr ⟨step_mismatched hclose hdue _, fun rest => .closer h hclose hdue⟩)
    · exact .inl ⟨_, step_plain hplain, .between (h.item (.plain hplain))⟩
  | @string due closers cs parts h hparts =>
    by_cases hquote : c = '"'
    · subst hquote
      have hitem := h.item (.quoted (.string hparts))
      refine .inl ⟨_, rfl, .between ?_⟩
      simpa using hitem
    by_cases hbackslash : c = '\\'
    · subst hbackslash
      have hescape := Unfinished.escape h hparts
      refine .inl ⟨_, rfl, ?_⟩
      simpa using hescape
    · have hpart : ∀ p ∈ parts ++ [[c]], StringPart p :=
        List.forall_mem_append.mpr
          ⟨hparts, List.forall_mem_singleton.mpr (.char hquote hbackslash)⟩
      have hmore := Unfinished.string h hpart
      refine .inl ⟨_, step_quoted hbackslash hquote, ?_⟩
      simpa using hmore
  | @escape due closers cs parts h hparts =>
    have hpart : ∀ p ∈ parts ++ [['\\', c]], StringPart p :=
      List.forall_mem_append.mpr ⟨hparts, List.forall_mem_singleton.mpr (.escape c)⟩
    have hmore := Unfinished.string h hpart
    refine .inl ⟨_, rfl, ?_⟩
    simpa using hmore

/-- The rest of the text either completes the block, or ends with it unfinished or mismatched. -/
theorem Unfinished.takeFrom_cases {s : State} {cs : List Char} (h : Unfinished s cs)
    (rest : List Char) :
    (∃ region, takeFrom s rest = some region ∧ Derives .block (cs ++ region)) ∨
      (takeFrom s rest = none ∧
        ((∃ t, Unfinished t (cs ++ rest)) ∨ Mismatched (cs ++ rest))) := by
  induction rest generalizing s cs with
  | nil =>
    rw [List.append_nil]
    exact .inr ⟨rfl, .inl ⟨s, h⟩⟩
  | cons c rest ih =>
    rcases h.step_cases c with ⟨t, hstep, ht⟩ | ⟨hstep, hblock⟩ | ⟨hstep, hmis⟩
    · have hsplit : cs ++ c :: rest = cs ++ [c] ++ rest := by simp
      rw [takeFrom, hstep, hsplit]
      rcases ih ht with ⟨region, hregion, hblock⟩ | ⟨hnone, hend⟩
      · refine .inl ⟨c :: region, ?_, ?_⟩
        · simp only [hregion, Option.map_some]
        · simpa using hblock
      · refine .inr ⟨?_, hend⟩
        simp only [hnone, Option.map_none]
    · refine .inl ⟨[c], ?_, hblock⟩
      rw [takeFrom, hstep]
    · refine .inr ⟨?_, .inr (hmis rest)⟩
      rw [takeFrom, hstep]

theorem balanced?_cases {c : Char} (ho : isOpener c) (cs : List Char) :
    (∃ region, balanced? (c :: cs) = some region ∧ Derives .block region) ∨
      (balanced? (c :: cs) = none ∧ ((∃ s, Unfinished s (c :: cs)) ∨ Mismatched (c :: cs))) := by
  obtain ⟨d, hmatch⟩ : ∃ d, Matches c d := by
    rcases (by simpa [isOpener] using ho : c = '{' ∨ c = '[') with rfl | rfl
    · exact ⟨_, .braces⟩
    · exact ⟨_, .brackets⟩
  have hopen : Unfinished ⟨false, false, [d]⟩ [c] := .between (Unclosed.nil.bracket hmatch)
  have hrun : balanced? (c :: cs) = (takeFrom ⟨false, false, [d]⟩ cs).map (c :: ·) := by
    rw [balanced?, takeFrom, State.start, step_opener hmatch]
  rw [hrun]
  rcases hopen.takeFrom_cases cs with ⟨region, hregion, hblock⟩ | ⟨hnone, hend⟩
  · exact .inl ⟨c :: region, by rw [hregion]; rfl, hblock⟩
  · exact .inr ⟨by rw [hnone]; rfl, hend⟩

theorem balanced?_eq_some_iff {c : Char} (ho : isOpener c) {cs region : List Char} :
    balanced? (c :: cs) = some region ↔ region <+: c :: cs ∧ Derives .block region := by
  constructor
  · intro hregion
    refine ⟨takeFrom_isPrefix hregion, ?_⟩
    rcases balanced?_cases ho cs with ⟨other, hother, hblock⟩ | ⟨hnone, -⟩
    · rw [hregion] at hother
      cases hother
      exact hblock
    · rw [hnone] at hregion
      cases hregion
  · rintro ⟨⟨rest, hrest⟩, hblock⟩
    rw [← hrest]
    exact takeFrom_block hblock rest

theorem balanced?_eq_none_iff {c : Char} (ho : isOpener c) {cs : List Char} :
    balanced? (c :: cs) = none ↔ (∃ s, Unfinished s (c :: cs)) ∨ Mismatched (c :: cs) := by
  constructor
  · intro hnone
    rcases balanced?_cases ho cs with ⟨region, hregion, -⟩ | ⟨-, hend⟩
    · rw [hnone] at hregion
      cases hregion
    · exact hend
  · rintro (⟨s, hs⟩ | hmismatched)
    · exact hs.leads.takeFrom_eq_none
    · exact hmismatched.takeFrom_eq_none

/-- From an opening bracket at any place of a text a scan returns the one block that begins there. It
returns nothing just when no block begins there: the text ends with a bracket or a string still open,
or a bracket closes where another one is due. -/
theorem region_iff_block {text : List Char} {start : Nat} {c : Char}
    (hstart : text[start]? = some c) (ho : isOpener c) :
    (∀ region, balanced? (text.drop start) = some region ↔
      region <+: text.drop start ∧ Derives .block region) ∧
    (∀ region other, region <+: text.drop start → other <+: text.drop start →
      Derives .block region → Derives .block other → region = other) ∧
    (balanced? (text.drop start) = none ↔
      ∀ region, region <+: text.drop start → ¬ Derives .block region) ∧
    (balanced? (text.drop start) = none ↔
      (∃ s, Unfinished s (text.drop start)) ∨ Mismatched (text.drop start)) := by
  obtain ⟨hlt, hget⟩ := List.getElem?_eq_some_iff.mp hstart
  have hcs : text.drop start = c :: text.drop (start + 1) := by
    rw [List.drop_eq_getElem_cons hlt, hget]
  have hfound : ∀ region, balanced? (text.drop start) = some region ↔
      region <+: text.drop start ∧ Derives .block region := by
    intro region
    rw [hcs]
    exact balanced?_eq_some_iff ho
  refine ⟨hfound, ?_, ?_, ?_⟩
  · intro region other hstarts hstarts' hblock hblock'
    have hregion := (hfound region).mpr ⟨hstarts, hblock⟩
    have hother := (hfound other).mpr ⟨hstarts', hblock'⟩
    rw [hregion] at hother
    exact Option.some.inj hother
  · simp only [Option.eq_none_iff_forall_ne_some, ne_eq, hfound, not_and]
  · rw [hcs]
    exact balanced?_eq_none_iff ho

/-- Brackets in a string count for nothing. A backslash counts only there: it does not keep a quote
from opening a string, but keeps one from closing it. -/
theorem region_iff_block_samples :
    Derives .block "\x7b\"quote\": \"she said \\\"\x7bhi\x7d\\\"\"\x7d".toList ∧
    Derives .block "[\\\"]\"]".toList ∧
    (∀ region, region <+: "[2\x7d done: [1, 2]".toList → ¬ Derives .block region) ∧
    ((∃ s, Unfinished s "[\"]\\\"]".toList) ∨ Mismatched "[\"]\\\"]".toList) := by
  have hquote := @region_iff_block
    "Output: \x7b\"quote\": \"she said \\\"\x7bhi\x7d\\\"\"\x7d done".toList 8 '{' rfl rfl
  have hbackslash := @region_iff_block "a [\\\"]\"] b".toList 2 '[' rfl rfl
  have hmismatch := @region_iff_block "Steps (1] and [2\x7d done: [1, 2]".toList 14 '[' rfl rfl
  have hopen := @region_iff_block "[\"]\\\"]".toList 0 '[' rfl rfl
  refine ⟨?_, ?_, ?_, ?_⟩
  · exact ((hquote.1 _).mp rfl).2
  · exact ((hbackslash.1 _).mp rfl).2
  · exact hmismatch.2.2.1.mp rfl
  · exact hopen.2.2.2.mp rfl

end Elicit.Region
