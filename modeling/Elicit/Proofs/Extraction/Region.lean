import Elicit.Extraction.Region
import Elicit.Proofs.Json.Reading

/-! A region scan follows the JSON reader: begun at an opening bracket, it stops with the bracket
that completes the container there, whatever comes after it. -/
namespace Elicit.Region

/-- Neither a quote nor a bracket. -/
def isPlain (c : Char) : Bool := c != '"' && c != '{' && c != '[' && c != '}' && c != ']'

theorem step_plain {closers : List Char} {c : Char} (hc : isPlain c) :
    step ⟨false, false, closers⟩ c = .more ⟨false, false, closers⟩ := by
  simp only [isPlain, Bool.and_eq_true, bne_iff_ne] at hc
  obtain ⟨⟨⟨⟨h1, h2⟩, h3⟩, h4⟩, h5⟩ := hc
  simp [step, h1, h2, h3, h4, h5]

theorem step_quoted {closers : List Char} {c : Char} (h1 : c ≠ '\\') (h2 : c ≠ '"') :
    step ⟨true, false, closers⟩ c = .more ⟨true, false, closers⟩ := by
  simp [step, h1, h2]

/-- The bracket that closes a container. -/
def frameCloser : Json.Frame → Char
  | .array _ => ']'
  | .object .. => '}'

/-- The bracket that closes the container in which the reader stands, where that container is not
among its frames. -/
def modeClosers : Json.Mode → List Char
  | .firstItem | .nextItem _ | .afterItem _ => [']']
  | .firstName | .nextName _ | .colon .. | .afterMember _ | .text (.name _) .. => ['}']
  | _ => []

/-- Whether the next character is escaped by a backslash. -/
def isEscaping : Json.Escape → Bool
  | .backslash | .pairedBackslash _ => true
  | _ => false

/-- What a region scan knows of the reader's state. -/
def view (s : Json.State) : State :=
  let closers := modeClosers s.mode ++ s.frames.map frameCloser
  match s.mode with
  | .text _ _ e => ⟨true, isEscaping e, closers⟩
  | _ => ⟨false, false, closers⟩

/-- Within a container. Of a word no more than plain characters are left. -/
structure Inside (s : Json.State) : Prop where
  open_ : (view s).closers ≠ []
  notDone : ∀ v, s.mode ≠ .done v
  word : ∀ left v, s.mode = .word left v → ∀ c ∈ left, isPlain c

/-- A scan that sees the reader in one state sees it in the next, or the outermost container is
complete and the scan stops. -/
def Follows (s : Json.State) (c : Char) (t : Json.State) : Prop :=
  step (view s) c = .more (view t) ∧ Inside t ∨
    step (view s) c = .closed ∧ ∃ v : Json, v.isContainer ∧ t = ⟨[], .done v⟩

theorem isPlain_of_digit? {c : Char} {d : Nat} (h : Json.Numeral.digit? c = some d) :
    isPlain c := by
  unfold Json.Numeral.digit? at h
  split_ifs at h with hd
  simp only [isPlain, Bool.and_eq_true, bne_iff_ne]
  refine ⟨⟨⟨⟨?_, ?_⟩, ?_⟩, ?_⟩, ?_⟩ <;> rintro rfl <;> revert hd <;> decide

theorem isPlain_of_isWord {w : List Char} {v : Json} (h : Json.IsWord w v) :
    ∀ c ∈ w, isPlain c := by
  cases h <;> simp [isPlain]

theorem view_of_isBetween {frames : List Json.Frame} {m : Json.Mode} (hm : m.isBetween) :
    view ⟨frames, m⟩ = ⟨false, false, modeClosers m ++ frames.map frameCloser⟩ := by
  cases m with
  | text => cases hm
  | _ => rfl

theorem isPlain_of_isBlank {c : Char} (h : Json.isBlank c) : isPlain c := by
  rcases Json.eq_of_isBlank h with rfl | rfl | rfl | rfl <;> rfl

theorem view_complete (frames : List Json.Frame) (v : Json) :
    view (Json.complete frames v) = ⟨false, false, frames.map frameCloser⟩ := by
  rcases frames with - | ⟨_ | _, _⟩ <;> rfl

theorem inside_complete {frames : List Json.Frame} {v : Json} (hf : frames ≠ []) :
    Inside (Json.complete frames v) := by
  rcases frames with - | ⟨_ | _, frames⟩
  · exact absurd rfl hf
  · exact ⟨by simp [Json.complete, view, modeClosers], by simp [Json.complete],
      by simp [Json.complete]⟩
  · exact ⟨by simp [Json.complete, view, modeClosers], by simp [Json.complete],
      by simp [Json.complete]⟩

/-- A value begins with a character that keeps or extends the brackets that are due. -/
theorem step_view_of_begins {frames : List Json.Frame} {c : Char} {t : Json.State}
    (h : Json.Begins frames c t) :
    step ⟨false, false, frames.map frameCloser⟩ c = .more (view t) := by
  cases h with
  | word h => exact step_plain (isPlain_of_isWord h c (by simp))
  | sign => exact step_plain rfl
  | zero h => exact step_plain (isPlain_of_digit? h)
  | digit h _ => exact step_plain (isPlain_of_digit? h)
  | text => rfl
  | array _ => rfl
  | object _ => rfl

theorem inside_of_begins {frames : List Json.Frame} {c : Char} {t : Json.State}
    (h : Json.Begins frames c t) (hf : (view t).closers ≠ []) : Inside t := by
  cases h with
  | word h =>
    refine ⟨hf, by simp, ?_⟩
    rintro left v hm d hd
    cases hm
    exact isPlain_of_isWord h d (by simp [hd])
  | _ => exact ⟨hf, by simp, by simp⟩

theorem view_closers_of_begins {frames : List Json.Frame} {c : Char} {t : Json.State}
    (h : Json.Begins frames c t) (hf : frames ≠ []) : (view t).closers ≠ [] := by
  cases h <;> simp [view, hf]

/-- The bracket that ends a container either leaves the scan within the next one or ends it. -/
theorem follows_end {m : Json.Mode} {frames : List Json.Frame} {c : Char} {v : Json}
    (hm : view ⟨frames, m⟩ = ⟨false, false, c :: frames.map frameCloser⟩)
    (hc : c = '}' ∨ c = ']') (hv : v.isContainer) :
    Follows ⟨frames, m⟩ c (Json.complete frames v) := by
  have hs : step (view ⟨frames, m⟩) c =
      if (frames.map frameCloser).isEmpty then .closed
      else .more ⟨false, false, frames.map frameCloser⟩ := by
    rcases hc with rfl | rfl <;> simp [hm, step]
  cases frames with
  | nil => exact .inr ⟨hs, v, hv, rfl⟩
  | cons f frames =>
    refine .inl ⟨?_, inside_complete (by simp)⟩
    rw [hs, view_complete]
    rfl

theorem isPlain_of_numeral_more {n n' : Json.Numeral} {c : Char} (h : n.step c = .more n') :
    isPlain c := by
  rcases Json.char_of_numeral_more h with hd | rfl | rfl | rfl | rfl | rfl
  · exact isPlain_of_digit? (d := c.toNat - '0'.toNat) (by simp [Json.Numeral.digit?, hd])
  all_goals rfl

theorem hexDigit?_ne {c : Char} {d : Nat} (h : Text.hexDigit? c = some d) :
    c ≠ '\\' ∧ c ≠ '"' := by
  have hb : Text.hexDigit? '\\' = none := by decide
  have hq : Text.hexDigit? '"' = none := by decide
  constructor
  · rintro rfl
    simp [hb] at h
  · rintro rfl
    simp [hq] at h

theorem isEscaping_of_resolveEscape {lead : Option Nat} {n : Nat} {added : Option Char}
    {e : Json.Escape} (h : Json.resolveEscape lead n = .ok (added, e)) : isEscaping e = false := by
  unfold Json.resolveEscape at h
  split at h <;> split_ifs at h <;> cases h <;> rfl

/-- Within a string, scan and reader agree on whether the next character is escaped. -/
theorem step_escape {e e' : Json.Escape} {c : Char} {added : Option Char} {closers : List Char}
    (he : e = .none → c ≠ '"') (h : Json.stepEscape e c = .ok (added, e'))
    (ht : ∀ lead seen, e' ≠ .hex lead seen none) :
    step ⟨true, isEscaping e, closers⟩ c = .more ⟨true, isEscaping e', closers⟩ := by
  cases e with
  | none =>
    simp only [Json.stepEscape, Json.refuse] at h
    split_ifs at h with h1
    · cases h
      subst c
      rfl
    · cases h
      exact step_quoted h1 (he rfl)
  | backslash =>
    have hes : isEscaping e' = false := by
      simp only [Json.stepEscape, Json.refuse] at h
      grind [isEscaping]
    rw [hes]
    rfl
  | hex lead seen value =>
    simp only [Json.stepEscape, Json.stepHex] at h
    cases hd : Text.hexDigit? c with
    | none =>
      simp only [hd] at h
      split_ifs at h
      cases h
      exact absurd rfl (ht _ _)
    | some d =>
      obtain ⟨h1, h2⟩ := hexDigit?_ne hd
      have hes : isEscaping e' = false := by
        split_ifs at h
        · cases h
          rfl
        · split at h
          · cases h
          · split at h
            · cases h
              exact isEscaping_of_resolveEscape ‹_›
            · cases h
      rw [hes]
      exact step_quoted h1 h2
  | paired lead =>
    simp only [Json.stepEscape, Json.refuse] at h
    split_ifs at h with h1
    cases h
    subst c
    rfl
  | pairedBackslash lead =>
    simp only [Json.stepEscape, Json.refuse] at h
    split_ifs at h
    cases h
    rfl

/-- A string's closing quote ends the quoted text. -/
theorem follows_textEnd {frames : List Json.Frame} {purpose : Json.Purpose} {chars : List Char}
    (hs : Inside ⟨frames, .text purpose chars .none⟩) (w : String) :
    Follows ⟨frames, .text purpose chars .none⟩ '"' (Json.completeText frames purpose w) := by
  have hs' := hs.open_
  cases purpose with
  | value =>
    have hf : frames ≠ [] := by
      rintro rfl
      exact hs' rfl
    refine .inl ⟨?_, inside_complete hf⟩
    rw [Json.completeText, view_complete]
    rfl
  | name members => exact .inl ⟨rfl, by simp [Json.completeText, view, modeClosers],
      by simp [Json.completeText], by simp [Json.completeText]⟩

theorem follows_of_move {s t : Json.State} {c : Char} (h : Json.Move s c t) (hs : Inside s)
    (ht : ¬ t.Doomed) : Follows s c t := by
  induction h with
  | blank hm hc =>
    refine .inl ⟨?_, hs⟩
    rw [view_of_isBetween hm]
    exact step_plain (isPlain_of_isBlank hc)
  | @value frames _ _ h =>
    have hf : frames ≠ [] := by
      rintro rfl
      exact hs.open_ rfl
    exact .inl ⟨step_view_of_begins h, inside_of_begins h (view_closers_of_begins h hf)⟩
  | firstItem h =>
    exact .inl ⟨step_view_of_begins h, inside_of_begins h (view_closers_of_begins h (by simp))⟩
  | nextItem h =>
    exact .inl ⟨step_view_of_begins h, inside_of_begins h (view_closers_of_begins h (by simp))⟩
  | emptyArray => exact follows_end rfl (.inr rfl) rfl
  | arrayEnd => exact follows_end rfl (.inr rfl) rfl
  | emptyObject => exact follows_end rfl (.inl rfl) rfl
  | objectEnd => exact follows_end rfl (.inl rfl) rfl
  | letter =>
    have hw := hs.word _ _ rfl
    refine .inl ⟨step_plain (hw _ (by simp)), hs.open_, by simp, ?_⟩
    rintro left v hm c hc
    cases hm
    exact hw c (by simp [hc])
  | @lastLetter frames c v =>
    have hf : frames ≠ [] := by
      rintro rfl
      exact hs.open_ rfl
    refine .inl ⟨?_, inside_complete hf⟩
    rw [view_complete]
    exact step_plain (hs.word _ _ rfl c (by simp))
  | numeral h =>
    exact .inl ⟨step_plain (isPlain_of_numeral_more h), hs.open_, by simp, by simp⟩
  | @numeralEnd frames n x c t h hx hm ih =>
    have hf : frames ≠ [] := by
      rintro rfl
      exact hs.open_ rfl
    have hfol := ih (inside_complete hf) ht
    rw [Follows, view_complete] at hfol
    exact hfol
  | textEnd => exact follows_textEnd hs _
  | @text frames purpose chars e e' c added he h =>
    have hv : view ⟨frames, .text purpose (added.toList ++ chars) e'⟩ =
        ⟨true, isEscaping e', (view ⟨frames, .text purpose chars e⟩).closers⟩ := by
      cases purpose <;> rfl
    refine .inl ⟨?_, by rw [hv]; exact hs.open_, by simp, by simp⟩
    rw [hv]
    refine step_escape he h ?_
    rintro lead seen rfl
    exact ht ⟨_, _, _, _, rfl⟩
  | _ => exact .inl ⟨rfl, by simp [view, modeClosers], by simp, by simp⟩

/-- No text ends within a container. -/
theorem finish_of_inside {s : Json.State} {v : Json} (hs : Inside s) :
    Json.finish s ≠ .ok v := by
  obtain ⟨frames, m⟩ := s
  cases m with
  | done w => exact absurd rfl (hs.notDone w)
  | numeral n =>
    have hf : frames ≠ [] := by
      rintro rfl
      exact hs.open_ rfl
    unfold Json.finish
    dsimp only
    split
    · simp
    · rcases frames with - | ⟨_ | _, frames⟩
      · exact absurd rfl hf
      · simp
      · simp
  | _ => simp [Json.finish]

/-- Whatever leads out of a container leads first to the bracket that completes it, where the scan
stops; after it there are only blanks. -/
theorem takeFrom_view {s t : Json.State} {cs : List Char} {v : Json} (h : Json.Reaches s cs t)
    (hf : Json.finish t = .ok v) (hs : Inside s) :
    v.isContainer ∧ ∃ region blanks, cs = region ++ blanks ∧ (∀ c ∈ blanks, Json.isBlank c) ∧
      Json.Reaches s region ⟨[], .done v⟩ ∧
      ∀ rest, takeFrom (view s) (region ++ rest) = some region := by
  induction cs generalizing s with
  | nil =>
    obtain rfl := Json.reaches_nil.mp h
    exact absurd hf (finish_of_inside hs)
  | cons c cs ih =>
    obtain ⟨m, hm, ht⟩ := Json.reaches_cons.mp h
    rcases follows_of_move (Json.move_of_step hm) hs (Json.not_doomed ht hf) with
      ⟨hstep, hin⟩ | ⟨hstep, w, hw, rfl⟩
    · obtain ⟨hv, region, blanks, rfl, hb, hr, htake⟩ := ih ht hin
      refine ⟨hv, c :: region, blanks, rfl, hb, hr.cons hm, fun rest => ?_⟩
      rw [List.cons_append, takeFrom, hstep]
      simp [htake rest]
    · obtain ⟨rfl, hb⟩ := Json.reaches_from_done ht
      cases hf
      refine ⟨hw, [c], cs, rfl, hb, Json.Reaches.cons hm (Json.reaches_nil.mpr rfl), fun rest => ?_⟩
      rw [List.singleton_append, takeFrom, hstep]

/-- A text that is read and begins with a bracket is a region, up to blanks after it; a scan finds
that region whatever follows. -/
theorem balanced?_of_read {c : Char} {cs : List Char} {v : Json} (hc : isOpener c)
    (h : Json.read (c :: cs) = .ok v) : v.isContainer ∧ ∃ region blanks,
      c :: cs = region ++ blanks ∧ (∀ b ∈ blanks, Json.isBlank b) ∧
      Json.read region = .ok v ∧ ∀ rest, balanced? (region ++ rest) = some region := by
  obtain ⟨t, ht, hf⟩ := Json.read_eq_ok_iff.mp h
  obtain ⟨m, hm, ht⟩ := Json.reaches_cons.mp ht
  have hin : Inside m ∧ step .start c = .more (view m) := by
    rcases (by simpa [isOpener] using hc : c = '{' ∨ c = '[') with rfl | rfl <;>
      · cases hm
        exact ⟨⟨by simp [view, modeClosers], by simp, by simp⟩, rfl⟩
  obtain ⟨hv, region, blanks, rfl, hb, hr, htake⟩ := takeFrom_view ht hf hin.1
  refine ⟨hv, c :: region, blanks, rfl, hb, ?_, fun rest => ?_⟩
  · exact Json.read_eq_ok_iff.mpr ⟨_, hr.cons hm, rfl⟩
  · rw [balanced?, List.cons_append, takeFrom, hin.2]
    simp [htake rest]

/-- The closing bracket stands last in a region. -/
theorem takeFrom_getLast? {s : State} {cs region : List Char} (h : takeFrom s cs = some region) :
    region.getLast? = some '}' ∨ region.getLast? = some ']' := by
  induction cs generalizing s region with
  | nil => cases h
  | cons c cs ih =>
    rw [takeFrom] at h
    split at h
    · obtain ⟨r, hr, rfl⟩ := Option.map_eq_some_iff.mp h
      have hlast := ih hr
      rcases r with - | ⟨d, r⟩
      · simp at hlast
      · simpa [List.getLast?_cons_cons] using hlast
    · rename_i hc
      cases h
      unfold step at hc
      split_ifs at hc
      grind
    · cases h

/-- A region is a part of the text from its start. -/
theorem takeFrom_isPrefix {s : State} {cs region : List Char} (h : takeFrom s cs = some region) :
    region <+: cs := by
  induction cs generalizing s region with
  | nil => cases h
  | cons c cs ih =>
    rw [takeFrom] at h
    split at h
    · obtain ⟨r, hr, rfl⟩ := Option.map_eq_some_iff.mp h
      exact List.prefix_cons_inj c |>.mpr (ih hr)
    · cases h
      exact ⟨cs, rfl⟩
    · cases h

theorem takeFrom_eq_none {s : State} {cs : List Char} (h : ∀ c ∈ cs, c ≠ '}' ∧ c ≠ ']') :
    takeFrom s cs = none := by
  rw [Option.eq_none_iff_forall_ne_some]
  intro region hregion
  have hpart := (takeFrom_isPrefix hregion).subset
  rcases takeFrom_getLast? hregion with hlast | hlast
  · exact (h _ (hpart (List.mem_of_getLast? hlast))).1 rfl
  · exact (h _ (hpart (List.mem_of_getLast? hlast))).2 rfl

/-- No region is closed where no closing bracket stands. -/
theorem takeFrom_append {s : State} {back : List Char} (h : ∀ c ∈ back, c ≠ '}' ∧ c ≠ ']')
    (cs : List Char) : takeFrom s (cs ++ back) = takeFrom s cs := by
  induction cs generalizing s with
  | nil => exact takeFrom_eq_none h
  | cons c cs ih =>
    rw [List.cons_append, takeFrom, takeFrom]
    cases step s c with
    | more s' => simp only [ih]
    | _ => rfl

end Elicit.Region
