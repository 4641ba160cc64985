import Elicit.Json.Reader
import Mathlib.Tactic.SplitIfs

/-! Reading as a walk of the reader from state to state. Where a fault lies plays no part in it,
so a text that is read in one place is read in every other. -/
namespace Elicit.Json

/-- Whether the value is an object or an array. -/
def isContainer : Json → Bool
  | .array _ | .object _ => true
  | _ => false

/-- Whether the reader stands between tokens. -/
def Mode.isBetween : Mode → Bool
  | .word (_ :: _) _ | .numeral _ | .text .. => false
  | _ => true

theorem eq_of_isBlank {c : Char} (h : isBlank c) : c = ' ' ∨ c = '\n' ∨ c = '\t' ∨ c = '\r' := by
  simpa [isBlank, or_assoc] using h

/-- The words that stand for a value. -/
inductive IsWord : List Char → Json → Prop
  | null : IsWord ['n', 'u', 'l', 'l'] .null
  | true : IsWord ['t', 'r', 'u', 'e'] (.bool true)
  | false : IsWord ['f', 'a', 'l', 's', 'e'] (.bool false)

/-- The first character of a value within the given containers. -/
inductive Begins (frames : List Frame) : Char → State → Prop
  | word {c : Char} {left : List Char} {v : Json} (h : IsWord (c :: left) v) :
    Begins frames c ⟨frames, .word left v⟩
  | sign : Begins frames '-' ⟨frames, .numeral .sign⟩
  | zero {c : Char} (h : Numeral.digit? c = some 0) :
    Begins frames c ⟨frames, .numeral (.zero false)⟩
  | digit {c : Char} {d : Nat} (h : Numeral.digit? c = some d) (hd : d ≠ 0) :
    Begins frames c ⟨frames, .numeral (.whole false d)⟩
  | text : Begins frames '"' ⟨frames, .text .value [] .none⟩
  | array (h : frames.length < maxDepth) : Begins frames '[' ⟨frames, .firstItem⟩
  | object (h : frames.length < maxDepth) : Begins frames '{' ⟨frames, .firstName⟩

/-- All that a character can do to the reader. -/
inductive Move : State → Char → State → Prop
  | blank {frames m c} (hm : m.isBetween) (hc : isBlank c) : Move ⟨frames, m⟩ c ⟨frames, m⟩
  | value {frames c t} (h : Begins frames c t) : Move ⟨frames, .value⟩ c t
  | firstItem {frames c t} (h : Begins (.array [] :: frames) c t) : Move ⟨frames, .firstItem⟩ c t
  | nextItem {frames items c t} (h : Begins (.array items :: frames) c t) :
    Move ⟨frames, .nextItem items⟩ c t
  | itemComma {frames items} : Move ⟨frames, .afterItem items⟩ ',' ⟨frames, .nextItem items⟩
  | emptyArray {frames} : Move ⟨frames, .firstItem⟩ ']' (complete frames (.array []))
  | arrayEnd {frames items} :
    Move ⟨frames, .afterItem items⟩ ']' (complete frames (.array items.reverse))
  | firstName {frames} : Move ⟨frames, .firstName⟩ '"' ⟨frames, .text (.name []) [] .none⟩
  | nextName {frames members} :
    Move ⟨frames, .nextName members⟩ '"' ⟨frames, .text (.name members) [] .none⟩
  | colon {frames members name} :
    Move ⟨frames, .colon members name⟩ ':' ⟨.object members name :: frames, .value⟩
  | memberComma {frames members} :
    Move ⟨frames, .afterMember members⟩ ',' ⟨frames, .nextName members⟩
  | emptyObject {frames} : Move ⟨frames, .firstName⟩ '}' (complete frames (.object []))
  | objectEnd {frames members} :
    Move ⟨frames, .afterMember members⟩ '}' (complete frames (.object members))
  | letter {frames c d left v} :
    Move ⟨frames, .word (c :: d :: left) v⟩ c ⟨frames, .word (d :: left) v⟩
  | lastLetter {frames c v} : Move ⟨frames, .word [c] v⟩ c (complete frames v)
  | numeral {frames n n' c} (h : n.step c = .more n') :
    Move ⟨frames, .numeral n⟩ c ⟨frames, .numeral n'⟩
  | numeralEnd {frames n x c t} (h : n.step c = .stop) (hx : n.finish = .ok x)
    (ht : Move (complete frames (.number x)) c t) : Move ⟨frames, .numeral n⟩ c t
  | textEnd {frames purpose chars} : Move ⟨frames, .text purpose chars .none⟩ '"'
    (completeText frames purpose (String.ofList chars.reverse))
  | text {frames purpose chars e e' c added} (he : e = .none → c ≠ '"')
    (h : stepEscape e c = .ok (added, e')) : Move ⟨frames, .text purpose chars e⟩ c
    ⟨frames, .text purpose (added.toList ++ chars) e'⟩

/-- The characters that a number goes on with. -/
theorem char_of_numeral_more {n n' : Numeral} {c : Char} (h : n.step c = .more n') :
    c.isDigit ∨ c = '.' ∨ c = 'e' ∨ c = 'E' ∨ c = '+' ∨ c = '-' := by
  by_cases hd : c.isDigit
  · exact .inl hd
  have hd' : Numeral.digit? c = none := by simp [Numeral.digit?, hd]
  cases n <;> simp only [Numeral.step, Numeral.leaveWhole, hd', hd] at h <;> grind

theorem begins_of_beginValue {frames : List Frame} {c : Char} {t : State}
    (h : beginValue frames c = .ok t) : Begins frames c t := by
  unfold beginValue openContainer refuse at h
  split_ifs at h with _ _ _ _ _ _ hd _ hd
  · cases h; subst c; exact .word .null
  · cases h; subst c; exact .word .true
  · cases h; subst c; exact .word .false
  · cases h; subst c; exact .sign
  · cases h; subst c; exact .text
  · cases h; subst c; exact .array hd
  · cases h; subst c; exact .object hd
  · split at h
    · cases h; exact .zero ‹_›
    · cases h; exact .digit ‹_› ‹_›
    · cases h

theorem move_of_stepBetween {frames : List Frame} {m : Mode} {c : Char} {t : State}
    (hm : m.isBetween) (h : stepBetween frames m c = .ok t) : Move ⟨frames, m⟩ c t := by
  unfold stepBetween at h
  by_cases hb : isBlank c
  · rw [if_pos hb] at h
    cases h
    exact .blank hm hb
  rw [if_neg hb] at h
  cases m with
  | value => exact .value (begins_of_beginValue h)
  | firstItem =>
    dsimp only at h
    split_ifs at h with hc
    · cases h; subst c; exact .emptyArray
    · exact .firstItem (begins_of_beginValue h)
  | nextItem items =>
    dsimp only [refuse] at h
    split_ifs at h
    exact .nextItem (begins_of_beginValue h)
  | afterItem items =>
    dsimp only [refuse] at h
    split_ifs at h
    · cases h; subst c; exact .itemComma
    · cases h; subst c; exact .arrayEnd
  | firstName =>
    dsimp only [refuse] at h
    split_ifs at h
    · cases h; subst c; exact .emptyObject
    · cases h; subst c; exact .firstName
  | nextName members =>
    dsimp only [refuse] at h
    split_ifs at h
    cases h; subst c; exact .nextName
  | colon members name =>
    dsimp only [refuse] at h
    split_ifs at h
    cases h; subst c; exact .colon
  | afterMember members =>
    dsimp only [refuse] at h
    split_ifs at h
    · cases h; subst c; exact .memberComma
    · cases h; subst c; exact .objectEnd
  | _ => cases h

theorem complete_isBetween (frames : List Frame) (v : Json) :
    (complete frames v).mode.isBetween := by
  rcases frames with - | ⟨_ | _, _⟩ <;> rfl

theorem move_of_step {s t : State} {c : Char} (h : step s c = .ok t) : Move s c t := by
  obtain ⟨frames, m⟩ := s
  cases m with
  | word left v =>
    rcases left with - | ⟨l, left⟩
    · exact move_of_stepBetween rfl h
    simp only [step, refuse] at h
    split at h
    · subst c
      cases left with
      | nil => cases h; exact .lastLetter
      | cons d left => cases h; exact .letter
    · cases h
  | numeral n =>
    simp only [step] at h
    split at h
    · cases h; exact .numeral ‹_›
    · cases h
    · split at h
      · cases h
      · exact .numeralEnd ‹_› ‹_› (move_of_stepBetween (complete_isBetween _ _) h)
  | text purpose chars e =>
    by_cases hq : e = .none ∧ c = '"'
    · obtain ⟨rfl, rfl⟩ := hq
      cases h
      exact .textEnd
    · have hs : ((stepEscape e c).map fun r =>
          (⟨frames, .text purpose (r.1.toList ++ chars) r.2⟩ : State)) = .ok t := by
        cases e <;> simp_all [step, bind, Except.bind, Except.map, pure, Except.pure]
      cases he : stepEscape e c with
      | error stop => rw [he] at hs; cases hs
      | ok r =>
        rw [he] at hs
        cases hs
        exact .text (fun h1 h2 => hq ⟨h1, h2⟩) he
  | _ => exact move_of_stepBetween rfl h

/-- The text takes the reader from one state to the other. -/
def Reaches (s : State) (cs : List Char) (t : State) : Prop := cs.foldlM step s = .ok t

@[simp] theorem reaches_nil {s t : State} : Reaches s [] t ↔ s = t := by
  simp [Reaches, pure, Except.pure]

theorem reaches_cons {s t : State} {c : Char} {cs : List Char} :
    Reaches s (c :: cs) t ↔ ∃ m, step s c = .ok m ∧ Reaches m cs t := by
  unfold Reaches
  rw [List.foldlM_cons]
  cases step s c with
  | error e => simp [bind, Except.bind]
  | ok m => simp [bind, Except.bind]

theorem reaches_append {s t : State} {as bs : List Char} :
    Reaches s (as ++ bs) t ↔ ∃ m, Reaches s as m ∧ Reaches m bs t := by
  induction as generalizing s with
  | nil => simp
  | cons a as ih =>
    simp only [List.cons_append, reaches_cons, ih]
    constructor
    · rintro ⟨m, hm, n, hn, ht⟩
      exact ⟨n, ⟨m, hm, hn⟩, ht⟩
    · rintro ⟨n, ⟨m, hm, hn⟩, ht⟩
      exact ⟨m, hm, n, hn, ht⟩

theorem Reaches.trans {s m t : State} {as bs : List Char} (h : Reaches s as m)
    (h' : Reaches m bs t) : Reaches s (as ++ bs) t :=
  reaches_append.mpr ⟨m, h, h'⟩

theorem Reaches.cons {s m t : State} {c : Char} {cs : List Char} (h : step s c = .ok m)
    (h' : Reaches m cs t) : Reaches s (c :: cs) t :=
  reaches_cons.mpr ⟨m, h, h'⟩

theorem Reaches.unique {s t t' : State} {cs : List Char} (h : Reaches s cs t)
    (h' : Reaches s cs t') : t = t' :=
  Except.ok.inj (h.symm.trans h')

/-- What every move keeps holds wherever a text leads. -/
theorem Reaches.induct {P : State → Prop} (hP : ∀ {s c t}, Move s c t → P s → P t)
    {s t : State} {cs : List Char} (h : Reaches s cs t) (hs : P s) : P t := by
  induction cs generalizing s with
  | nil => exact reaches_nil.mp h ▸ hs
  | cons c cs ih =>
    obtain ⟨m, hm, ht⟩ := reaches_cons.mp h
    exact ih ht (hP (move_of_step hm) hs)

theorem run_eq_ok_iff {s : State} {p : Place} {cs : List Char} {v : Json} :
    run s p cs = .ok v ↔ ∃ t, Reaches s cs t ∧ finish t = .ok v := by
  induction cs generalizing s p with
  | nil => cases h : finish s <;> simp [run, h, Except.mapError]
  | cons c cs ih =>
    rw [run]
    cases h : step s c with
    | error e => simp [reaches_cons, h]
    | ok m => simp [reaches_cons, h, ih]

/-- A text is read as a value when the walk from the start ends where that value may end. -/
theorem read_eq_ok_iff {cs : List Char} {v : Json} :
    read cs = .ok v ↔ ∃ t, Reaches .start cs t ∧ finish t = .ok v :=
  run_eq_ok_iff

theorem step_blank {frames : List Frame} {m : Mode} (hm : m.isBetween) {c : Char}
    (hc : isBlank c) : step ⟨frames, m⟩ c = .ok ⟨frames, m⟩ := by
  have hs : step ⟨frames, m⟩ c = stepBetween frames m c := by
    cases m with
    | word left v => rcases left with - | ⟨l, left⟩ <;> first | rfl | cases hm
    | numeral n => cases hm
    | text purpose chars e => cases hm
    | _ => rfl
  rw [hs]
  unfold stepBetween
  rw [if_pos hc]

/-- Blanks between tokens leave the reader where it stands. -/
theorem reaches_blanks {frames : List Frame} {m : Mode} (hm : m.isBetween) {bs : List Char}
    (hb : ∀ c ∈ bs, isBlank c) : Reaches ⟨frames, m⟩ bs ⟨frames, m⟩ := by
  induction bs with
  | nil => exact reaches_nil.mpr rfl
  | cons b bs ih =>
    exact Reaches.cons (step_blank hm (hb b (by simp))) (ih fun c hc => hb c (by simp [hc]))

/-- Blanks around a text do not change what it is read as. -/
theorem read_blanks_append {bs cs : List Char} (hb : ∀ c ∈ bs, isBlank c) {v : Json} :
    read (bs ++ cs) = .ok v ↔ read cs = .ok v := by
  simp only [read_eq_ok_iff, reaches_append]
  constructor
  · rintro ⟨t, ⟨m, hm, ht⟩, hf⟩
    obtain rfl := hm.unique (reaches_blanks rfl hb)
    exact ⟨t, ht, hf⟩
  · rintro ⟨t, ht, hf⟩
    exact ⟨t, ⟨.start, reaches_blanks rfl hb, ht⟩, hf⟩

/-- Nothing but blanks may follow a value. -/
theorem reaches_from_done {v : Json} {cs : List Char} {t : State}
    (h : Reaches ⟨[], .done v⟩ cs t) : t = ⟨[], .done v⟩ ∧ ∀ c ∈ cs, isBlank c := by
  induction cs with
  | nil => exact ⟨(reaches_nil.mp h).symm, by simp⟩
  | cons c cs ih =>
    obtain ⟨m, hm, ht⟩ := reaches_cons.mp h
    cases move_of_step hm with
    | blank _ hc =>
      obtain ⟨htd, hcs⟩ := ih ht
      exact ⟨htd, by simpa [hc] using hcs⟩

/-- Within an escape that has met something other than a hexadecimal digit. -/
def State.Doomed (s : State) : Prop :=
  ∃ purpose chars lead seen, s.mode = .text purpose chars (.hex lead seen none)

theorem Move.doomed {s t : State} {c : Char} (h : Move s c t) (hs : s.Doomed) : t.Doomed := by
  obtain ⟨purpose, chars, lead, seen, hm⟩ := hs
  cases h with
  | text he h =>
    cases hm
    simp only [stepEscape, stepHex] at h
    split_ifs at h
    cases h
    exact ⟨_, _, _, _, rfl⟩
  | blank hb _ => cases hm; cases hb
  | _ => cases hm

/-- No text that leads on from such an escape is read. -/
theorem not_doomed {s t : State} {cs : List Char} {v : Json} (h : Reaches s cs t)
    (hf : finish t = .ok v) : ¬ s.Doomed := by
  intro hs
  obtain ⟨_, _, _, _, hm⟩ := h.induct Move.doomed hs
  simp [finish, hm] at hf

/-- Within or after a value that is no container. -/
def Mode.IsScalar : Mode → Prop
  | .word _ v | .done v => v.isContainer = false
  | .numeral _ | .text .value .. => True
  | _ => False

/-- What has begun as a scalar remains one. -/
theorem Move.isScalar {s t : State} {c : Char} (h : Move s c t)
    (hs : s.frames = [] ∧ s.mode.IsScalar) : t.frames = [] ∧ t.mode.IsScalar := by
  induction h with
  | blank => exact hs
  | letter => exact hs
  | numeral => exact hs
  | lastLetter =>
    obtain ⟨rfl, hv⟩ := hs
    exact ⟨rfl, hv⟩
  | numeralEnd _ _ _ ih =>
    obtain ⟨rfl, -⟩ := hs
    exact ih ⟨rfl, rfl⟩
  | @textEnd _ purpose =>
    obtain ⟨rfl, hp⟩ := hs
    cases purpose with
    | value => exact ⟨rfl, rfl⟩
    | name => exact hp.elim
  | @text _ purpose =>
    obtain ⟨rfl, hp⟩ := hs
    cases purpose with
    | value => exact ⟨rfl, trivial⟩
    | name => exact hp.elim
  | _ => exact hs.2.elim

theorem finish_of_isScalar {s : State} {v : Json} (hs : s.frames = [] ∧ s.mode.IsScalar)
    (h : finish s = .ok v) : v.isContainer = false := by
  obtain ⟨frames, m⟩ := s
  obtain ⟨rfl, hm⟩ := hs
  cases m with
  | done w => cases h; exact hm
  | numeral n =>
    simp only [finish] at h
    split at h <;> cases h
    rfl
  | text => cases h
  | word => cases h
  | _ => exact hm.elim

/-- A container begins with its opening bracket. -/
theorem exists_opener_of_read {cs : List Char} {v : Json} (h : read cs = .ok v)
    (hv : v.isContainer) : ∃ blanks c rest, cs = blanks ++ c :: rest ∧
      (∀ b ∈ blanks, isBlank b) ∧ (c = '{' ∨ c = '[') := by
  induction cs with
  | nil => cases h
  | cons c cs ih =>
    by_cases hc : isBlank c
    · have hblank : ∀ b ∈ [c], isBlank b := by simpa using hc
      obtain ⟨blanks, d, rest, rfl, hb, hd⟩ := ih ((read_blanks_append hblank).mp h)
      exact ⟨c :: blanks, d, rest, rfl, by simpa [hc] using hb, hd⟩
    refine ⟨[], c, cs, rfl, by simp, ?_⟩
    obtain ⟨t, ht, hf⟩ := read_eq_ok_iff.mp h
    obtain ⟨m, hm, ht⟩ := reaches_cons.mp ht
    have hscalar : ¬ (m.frames = [] ∧ m.mode.IsScalar) := by
      intro hs
      rw [finish_of_isScalar (ht.induct Move.isScalar hs) hf] at hv
      cases hv
    cases move_of_step hm with
    | blank _ hb => exact absurd hb hc
    | value hb =>
      cases hb with
      | word hw => exact absurd ⟨rfl, by cases hw <;> rfl⟩ hscalar
      | array => exact .inr rfl
      | object => exact .inl rfl
      | _ => exact absurd ⟨rfl, trivial⟩ hscalar

end Elicit.Json
