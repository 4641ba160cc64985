import Elicit.Proofs.Json.Readable
import Elicit.Proofs.Json.Spelling

/-! Written words, strings and whole numbers spell their values; so does the text of a binary64
number that is read as that number on its own. -/
namespace Elicit.Json

theorem step_value {frames : List Frame} {c : Char} (hc : ¬ isBlank c) :
    step ⟨frames, .value⟩ c = beginValue frames c := by
  simp [step, stepBetween, hc]

theorem reaches_word {frames : List Frame} {v : Json} (c : Char) (left : List Char) :
    Reaches ⟨frames, .word (c :: left) v⟩ (c :: left) (complete frames v) := by
  induction left generalizing c with
  | nil => exact Reaches.cons (by simp [step]) (reaches_nil.mpr rfl)
  | cons d left ih => exact Reaches.cons (by simp [step]) (ih d)

/-- A word spells the value it stands for. -/
theorem spells_word {w : List Char} {v : Json} (h : IsWord w v) (depth : Nat) :
    Spells depth w v := by
  intro frames _
  refine ⟨complete frames v, ?_, .inl rfl⟩
  cases h <;> exact Reaches.cons rfl (reaches_word _ _)

theorem hexDigit?_hexDigit {n : Nat} (h : n < 16) : Text.hexDigit? (hexDigit n) = some n := by
  revert n
  decide

theorem octetCount_hexDigit {n : Nat} (h : n < 16) : Text.octetCount (hexDigit n) = 1 := by
  revert n
  decide

/-- A hexadecimal digit other than the last of an escape. -/
theorem step_hexDigit (frames : List Frame) (purpose : Purpose) (chars : List Char)
    (seen value n : Nat) (hs : seen < 3) (hn : n < 16) :
    step ⟨frames, .text purpose chars (.hex none seen (some value))⟩ (hexDigit n) =
      .ok ⟨frames, .text purpose chars (.hex none (seen + 1) (some (value * 16 + n)))⟩ := by
  have hlt : seen + 1 < 4 := by omega
  simp [step, stepEscape, stepHex, hexDigit?_hexDigit hn, octetCount_hexDigit hn, hlt, bind,
    Except.bind, pure, Except.pure]

/-- The last digit of an escape for a character that is no surrogate. -/
theorem step_lastHexDigit (frames : List Frame) (purpose : Purpose) (chars : List Char)
    (value n : Nat) (hn : n < 16) (hv : value * 16 + n < 0xD800) :
    step ⟨frames, .text purpose chars (.hex none 3 (some value))⟩ (hexDigit n) =
      .ok ⟨frames, .text purpose (Char.ofNat (value * 16 + n) :: chars) .none⟩ := by
  have h1 : ¬ (0xDC00 ≤ value * 16 + n ∧ value * 16 + n ≤ 0xDFFF) := by omega
  have h2 : ¬ (0xD800 ≤ value * 16 + n ∧ value * 16 + n ≤ 0xDBFF) := by omega
  simp [step, stepEscape, stepHex, hexDigit?_hexDigit hn, octetCount_hexDigit hn, resolveEscape,
    h1, h2, bind, Except.bind, pure, Except.pure]

/-- A control character, written by its code, is read as that character. -/
theorem reaches_controlEscape (frames : List Frame) (purpose : Purpose) (chars : List Char)
    {c : Char} (hc : c.toNat < 0x20) : Reaches ⟨frames, .text purpose chars .none⟩
      ['\\', 'u', '0', '0', hexDigit (c.toNat / 16), hexDigit (c.toNat % 16)]
      ⟨frames, .text purpose (c :: chars) .none⟩ := by
  have h1 : c.toNat / 16 < 16 := by omega
  have h2 : c.toNat % 16 < 16 := by omega
  have hsum : c.toNat / 16 * 16 + c.toNat % 16 = c.toNat := Nat.div_add_mod' c.toNat 16
  have hbegin : Reaches ⟨frames, .text purpose chars .none⟩ ['\\', 'u']
      ⟨frames, .text purpose chars (.hex none 0 (some 0))⟩ := rfl
  have hzero := step_hexDigit frames purpose chars 0 0 0 (by decide) (by decide)
  have hzero' := step_hexDigit frames purpose chars 1 0 0 (by decide) (by decide)
  have hfirst := step_hexDigit frames purpose chars 2 0 _ (by decide) h1
  have hlast := step_lastHexDigit frames purpose chars (c.toNat / 16) _ h2 (by omega)
  rw [hsum, Char.ofNat_toNat] at hlast
  rw [Nat.zero_mul, Nat.zero_add] at hfirst
  exact hbegin.trans (Reaches.cons hzero (Reaches.cons hzero' (Reaches.cons hfirst
    (Reaches.cons hlast (reaches_nil.mpr rfl)))))

/-- A written character is read as that character. -/
theorem reaches_escapeChar (frames : List Frame) (purpose : Purpose) (chars : List Char)
    (c : Char) : Reaches ⟨frames, .text purpose chars .none⟩ (escapeChar c)
      ⟨frames, .text purpose (c :: chars) .none⟩ := by
  unfold escapeChar
  split_ifs with hq hb _ _ _ _ _ hc
  · subst hq; rfl
  · subst hb; rfl
  · subst c; rfl
  · subst c; rfl
  · subst c; rfl
  · subst c; rfl
  · subst c; rfl
  · exact reaches_controlEscape frames purpose chars hc
  · refine Reaches.cons ?_ (reaches_nil.mpr rfl)
    simp [step, stepEscape, hq, hb, hc, bind, Except.bind, pure, Except.pure]

theorem reaches_escaped (frames : List Frame) (purpose : Purpose) (cs chars : List Char) :
    Reaches ⟨frames, .text purpose chars .none⟩ (cs.flatMap escapeChar)
      ⟨frames, .text purpose (cs.reverse ++ chars) .none⟩ := by
  induction cs generalizing chars with
  | nil => exact reaches_nil.mpr rfl
  | cons c cs ih =>
    rw [List.flatMap_cons, List.reverse_cons, List.append_assoc]
    exact (reaches_escapeChar frames purpose chars c).trans (ih (c :: chars))

/-- A written string is read as that string, once its opening quote has been read. -/
theorem reaches_text (frames : List Frame) (purpose : Purpose) (s : String) :
    Reaches ⟨frames, .text purpose [] .none⟩ (s.toList.flatMap escapeChar ++ ['"'])
      (completeText frames purpose s) := by
  refine (reaches_escaped frames purpose s.toList []).trans (Reaches.cons ?_ (reaches_nil.mpr rfl))
  simp [step]

theorem spells_string (s : String) (depth : Nat) : Spells depth (stringText s) (.string s) := by
  intro frames _
  exact ⟨complete frames (.string s), Reaches.cons rfl (reaches_text frames .value s), .inl rfl⟩

theorem digit?_digitChar {d : Nat} (h : d < 10) : Numeral.digit? (Nat.digitChar d) = some d := by
  revert d
  decide

/-- Where a first digit other than zero leads to whole digits, all digits of a number do. -/
theorem reaches_digits {frames : List Frame} {m : Mode} {negative : Bool}
    (hm : ∀ c d, Numeral.digit? c = some d → d ≠ 0 →
      step ⟨frames, m⟩ c = .ok ⟨frames, .numeral (.whole negative d)⟩)
    {n : Nat} (h0 : n ≠ 0) (hn : n ≤ Numeral.maxSignificand) :
    Reaches ⟨frames, m⟩ (Nat.toDigits 10 n) ⟨frames, .numeral (.whole negative n)⟩ := by
  induction n using Nat.strongRecOn with
  | ind n ih =>
    rcases Nat.lt_or_ge n 10 with hlt | hge
    · rw [Nat.toDigits_of_lt_base hlt]
      exact Reaches.cons (hm _ _ (digit?_digitChar hlt) h0) (reaches_nil.mpr rfl)
    · rw [Nat.toDigits_of_base_le (by decide) hge]
      have hlast : Numeral.digit? (Nat.digitChar (n % 10)) = some (n % 10) :=
        digit?_digitChar (Nat.mod_lt _ (by decide))
      have hsum : n / 10 * 10 + n % 10 = n := Nat.div_add_mod' n 10
      refine (ih (n / 10) (by omega) (by omega) (by omega)).trans
        (Reaches.cons ?_ (reaches_nil.mpr rfl))
      simp [step, Numeral.step, hlast, Numeral.addWhole, hsum, hn]

theorem beginValue_digit {frames : List Frame} {c : Char} {d : Nat}
    (hd : Numeral.digit? c = some d) : beginValue frames c =
      .ok ⟨frames, .numeral (if d = 0 then .zero false else .whole false d)⟩ := by
  have hne : ∀ c', Numeral.digit? c' = none → c ≠ c' := by
    rintro c' hc' rfl
    rw [hd] at hc'
    cases hc'
  have hn := hne 'n' rfl
  have ht := hne 't' rfl
  have hf := hne 'f' rfl
  have hminus := hne '-' rfl
  have hquote := hne '"' rfl
  have hsquare := hne '[' rfl
  have hbrace := hne '{' rfl
  cases d <;> simp [beginValue, hd, hn, ht, hf, hminus, hquote, hsquare, hbrace]

/-- The characters of a written number. -/
def isNumeric (c : Char) : Bool := c.isDigit || c == '.' || c == 'e' || c == '+' || c == '-'

theorem isNumeric_of_isDigit {c : Char} (h : c.isDigit) : isNumeric c := by
  simp [isNumeric, h]

theorem not_isBlank_of_isNumeric {c : Char} (hc : isNumeric c) : ¬ isBlank c := by
  intro hb
  rcases eq_of_isBlank hb with rfl | rfl | rfl | rfl <;> cases hc

theorem not_isBlank_of_digit? {c : Char} {d : Nat} (hd : Numeral.digit? c = some d) :
    ¬ isBlank c := by
  unfold Numeral.digit? at hd
  split_ifs at hd with hc
  exact not_isBlank_of_isNumeric (isNumeric_of_isDigit hc)

/-- The digits of a positive number of at most 64 bits. -/
theorem reaches_natural (frames : List Frame) {n : Nat} (h0 : n ≠ 0)
    (hn : n ≤ Numeral.maxSignificand) :
    Reaches ⟨frames, .value⟩ (Nat.toDigits 10 n) ⟨frames, .numeral (.whole false n)⟩ := by
  refine reaches_digits ?_ h0 hn
  intro c d hd h0
  rw [step_value (not_isBlank_of_digit? hd), beginValue_digit hd, if_neg h0]

/-- The same after a minus sign. -/
theorem reaches_negative (frames : List Frame) {n : Nat} (h0 : n ≠ 0)
    (hn : n ≤ Numeral.maxSignificand) :
    Reaches ⟨frames, .value⟩ ('-' :: Nat.toDigits 10 n) ⟨frames, .numeral (.whole true n)⟩ := by
  refine Reaches.cons rfl (reaches_digits ?_ h0 hn)
  intro c d hd h0
  cases d with
  | zero => exact absurd rfl h0
  | succ d => simp [step, Numeral.step, hd]

theorem integer_text (i : Int) : (Number.integer i).text =
    if 0 ≤ i then Nat.toDigits 10 i.natAbs else '-' :: Nat.toDigits 10 i.natAbs := by
  rw [Number.text, Int.toString_eq_repr, Int.repr_eq_if]
  split_ifs with hi
  · rw [Nat.toList_repr, show i.toNat = i.natAbs by omega]
  · rw [String.toList_append, Nat.toList_repr, show (-i).toNat = i.natAbs by omega]
    rfl

/-- A written whole number of at most 64 bits spells its value. -/
theorem spells_integer {i : Int} (hl : -9223372036854775808 ≤ i) (hu : i ≤ 18446744073709551615)
    (depth : Nat) : Spells depth (Number.integer i).text (.number (.integer i)) := by
  intro frames _
  have hmax : i.natAbs ≤ Numeral.maxSignificand := by
    simp only [Numeral.maxSignificand]
    omega
  rw [integer_text]
  split_ifs with hi
  · have hnat : (i.natAbs : Int) = i := Int.natAbs_of_nonneg hi
    by_cases h0 : i.natAbs = 0
    · obtain rfl : i = 0 := by omega
      exact ⟨⟨frames, .numeral (.zero false)⟩, rfl, .inr ⟨_, _, rfl, rfl, rfl⟩⟩
    · refine ⟨_, reaches_natural frames h0 hmax, .inr ⟨_, _, rfl, ?_, rfl⟩⟩
      simp [Numeral.finish, Numeral.wholeNumber, hnat]
  · refine ⟨_, reaches_negative frames (by omega) hmax, .inr ⟨_, _, rfl, ?_, rfl⟩⟩
    have hsig : ¬ (i.natAbs = 0 ∨ 9223372036854775808 < i.natAbs) := by omega
    have hneg : -(i.natAbs : Int) = i := by omega
    rw [Numeral.finish, Numeral.wholeNumber, if_neg fun h => hsig h.2, if_pos rfl, hneg]

theorem isNumeric_positionalText {digits : List Char} (h : ∀ c ∈ digits, c.isDigit) (k : Int) :
    ∀ c ∈ Binary64.positionalText digits k, isNumeric c := by
  intro c hc
  have hzero : ∀ n, c ∈ List.replicate n '0' → isNumeric c := by
    intro n hn
    rw [List.eq_of_mem_replicate hn]
    rfl
  unfold Binary64.positionalText at hc
  split_ifs at hc
  · rcases List.mem_cons.mp hc with rfl | hc
    · rfl
    rcases List.mem_cons.mp hc with rfl | hc
    · rfl
    rcases List.mem_append.mp hc with hc | hc
    · exact hzero _ hc
    · exact isNumeric_of_isDigit (h c hc)
  · rcases List.mem_append.mp hc with hc | hc
    · rcases List.mem_append.mp hc with hc | hc
      · exact isNumeric_of_isDigit (h c hc)
      · exact hzero _ hc
    · rcases List.mem_pair.mp hc with rfl | rfl <;> rfl
  · rcases List.mem_append.mp hc with hc | hc
    · exact isNumeric_of_isDigit (h c (List.mem_of_mem_take hc))
    rcases List.mem_cons.mp hc with rfl | hc
    · rfl
    · exact isNumeric_of_isDigit (h c (List.mem_of_mem_drop hc))

theorem isDigit_of_mem_toDigits {c : Char} {n : Nat} (h : c ∈ Nat.toDigits 10 n) : c.isDigit :=
  Nat.isDigit_of_mem_toDigits (by decide) (by decide) h

theorem isNumeric_scientificText {digits : List Char} (h : ∀ c ∈ digits, c.isDigit) (k : Int) :
    ∀ c ∈ Binary64.scientificText digits k, isNumeric c := by
  intro c hc
  unfold Binary64.scientificText at hc
  rcases List.mem_append.mp hc with hc | hc
  · rcases digits with - | ⟨d, - | ⟨d', ds⟩⟩
    · cases hc
    · exact isNumeric_of_isDigit (h c hc)
    · rcases List.mem_cons.mp hc with rfl | hc
      · exact isNumeric_of_isDigit (h c List.mem_cons_self)
      rcases List.mem_cons.mp hc with rfl | hc
      · rfl
      · exact isNumeric_of_isDigit (h c (List.mem_cons_of_mem _ hc))
  · rcases List.mem_cons.mp hc with rfl | hc
    · rfl
    rcases List.mem_cons.mp hc with rfl | hc
    · split_ifs <;> rfl
    · exact isNumeric_of_isDigit (isDigit_of_mem_toDigits hc)

theorem isNumeric_text (x : Binary64) (style : Binary64.Notation) :
    ∀ c ∈ x.text style, isNumeric c := by
  have hsign : ∀ c ∈ (if x.negative then ['-'] else []), isNumeric c := by
    intro c hc
    split_ifs at hc
    · rw [List.mem_singleton.mp hc]
      rfl
    · cases hc
  have hdigits : ∀ c ∈ Nat.toDigits 10 x.shortest.digits, c.isDigit :=
    fun c hc => isDigit_of_mem_toDigits hc
  intro c hc
  simp only [Binary64.text] at hc
  generalize (if x.negative then ['-'] else []) = sign at hc hsign
  split_ifs at hc
  · rcases List.mem_append.mp hc with hc | hc
    · exact hsign c hc
    · simp only [List.mem_cons, List.not_mem_nil, or_false] at hc
      rcases hc with rfl | rfl | rfl <;> rfl
  · rcases List.mem_append.mp hc with hc | hc
    · exact hsign c hc
    · exact isNumeric_positionalText hdigits _ c hc
  · rcases List.mem_append.mp hc with hc | hc
    · exact hsign c hc
    · exact isNumeric_scientificText hdigits _ c hc

/-- A numeral goes on through the characters of a number, whatever containers it stands in. -/
theorem exists_reaches_numeral {n : Numeral} {cs : List Char} {t : State}
    (hcs : ∀ c ∈ cs, isNumeric c) (h : Reaches ⟨[], .numeral n⟩ cs t) :
    ∃ n', t = ⟨[], .numeral n'⟩ ∧
      ∀ frames, Reaches ⟨frames, .numeral n⟩ cs ⟨frames, .numeral n'⟩ := by
  induction cs generalizing n with
  | nil => exact ⟨n, (reaches_nil.mp h).symm, fun frames => reaches_nil.mpr rfl⟩
  | cons c cs ih =>
    obtain ⟨m, hm, ht⟩ := reaches_cons.mp h
    cases move_of_step hm with
    | numeral hn =>
      obtain ⟨n', rfl, hr⟩ := ih (fun d hd => hcs d (by simp [hd])) ht
      refine ⟨n', rfl, fun frames => Reaches.cons ?_ (hr frames)⟩
      simp [step, hn]
    | numeralEnd _ _ hmove =>
      -- after a number that stands alone there is room for blanks only
      cases hmove with
      | blank _ hb => exact absurd hb (not_isBlank_of_isNumeric (hcs c (by simp)))
    | blank hb _ => cases hb

theorem read_number {cs : List Char} {n : Numeral} {x : Number}
    (h : Reaches .start cs ⟨[], .numeral n⟩) (hx : n.finish = .ok x) : read cs = .ok (.number x) :=
  read_eq_ok_iff.mpr ⟨_, h, by simp [finish, hx]⟩

/-- The characters of a number that are read as it on their own spell it. -/
theorem spells_number {cs : List Char} {x : Number} (hcs : ∀ c ∈ cs, isNumeric c)
    (h : read cs = .ok (.number x)) (depth : Nat) : Spells depth cs (.number x) := by
  intro frames _
  obtain ⟨t, ht, hf⟩ := read_eq_ok_iff.mp h
  rcases cs with - | ⟨c, cs⟩
  · cases h
  have hc := hcs c (by simp)
  have hblank := not_isBlank_of_isNumeric hc
  obtain ⟨m, hm, ht⟩ := reaches_cons.mp ht
  have hbegin : ∃ n, m = ⟨[], .numeral n⟩ ∧
      step ⟨frames, .value⟩ c = .ok ⟨frames, .numeral n⟩ := by
    cases move_of_step hm with
    | blank _ hb => exact absurd hb hblank
    | value hb =>
      cases hb with
      | sign => exact ⟨_, rfl, rfl⟩
      | zero hd => exact ⟨_, rfl, by rw [step_value hblank, beginValue_digit hd, if_pos rfl]⟩
      | digit hd h0 => exact ⟨_, rfl, by rw [step_value hblank, beginValue_digit hd, if_neg h0]⟩
      | word hw => cases hw <;> cases hc
      | _ => cases hc
  obtain ⟨n, rfl, hstep⟩ := hbegin
  obtain ⟨n', rfl, hr⟩ := exists_reaches_numeral (fun d hd => hcs d (by simp [hd])) ht
  refine ⟨_, Reaches.cons hstep (hr frames), .inr ⟨n', _, rfl, ?_, rfl⟩⟩
  simp only [finish] at hf
  split at hf <;> cases hf
  assumption

end Elicit.Json
