import Elicit.Proofs.Json.Reading
import Mathlib.Data.String.Basic

/-! The values that reading gives: whole numbers of at most 64 bits, members by increasing name,
and no more containers within one another than the reader allows. -/
namespace Elicit.Json

/-- The values that may be read within `depth` containers. -/
inductive Readable : Nat → Json → Prop
  | null {depth : Nat} : Readable depth .null
  | bool {depth : Nat} {b : Bool} : Readable depth (.bool b)
  | integer {depth : Nat} {i : Int} (hl : -9223372036854775808 ≤ i)
    (hu : i ≤ 18446744073709551615) : Readable depth (.number (.integer i))
  | double {depth : Nat} {x : Binary64} : Readable depth (.number (.double x))
  | string {depth : Nat} {s : String} : Readable depth (.string s)
  | array {depth : Nat} {items : List Json} (hd : depth < maxDepth)
    (h : ∀ v ∈ items, Readable (depth + 1) v) : Readable depth (.array items)
  | object {depth : Nat} {members : List (String × Json)} (hd : depth < maxDepth)
    (hs : members.Pairwise fun a b => a.1 < b.1) (h : ∀ m ∈ members, Readable (depth + 1) m.2) :
    Readable depth (.object members)

/-- A member put in its place leaves nothing else than was there. -/
theorem mem_insertMember {α : Type} {name : String} {value : α} {members : List (String × α)}
    {m : String × α} (h : m ∈ insertMember name value members) :
    m = (name, value) ∨ m ∈ members := by
  induction members with
  | nil => exact .inl (List.mem_singleton.mp h)
  | cons p rest ih =>
    obtain ⟨n, v⟩ := p
    rw [insertMember] at h
    split_ifs at h with h1 h2
    · exact List.mem_cons.mp h
    · rcases List.mem_cons.mp h with hm | hm
      · exact .inl hm
      · exact .inr (List.mem_cons_of_mem _ hm)
    · rcases List.mem_cons.mp h with hm | hm
      · exact .inr (hm ▸ List.mem_cons_self)
      · rcases ih hm with hn | hn
        · exact .inl hn
        · exact .inr (List.mem_cons_of_mem _ hn)

theorem pairwise_insertMember {α : Type} {name : String} {value : α}
    {members : List (String × α)} (h : members.Pairwise fun a b => a.1 < b.1) :
    (insertMember name value members).Pairwise fun a b => a.1 < b.1 := by
  induction members with
  | nil => exact List.pairwise_singleton _ _
  | cons p rest ih =>
    obtain ⟨n, v⟩ := p
    obtain ⟨hn, hrest⟩ := List.pairwise_cons.mp h
    rw [insertMember]
    split_ifs with h1 h2
    · refine List.pairwise_cons.mpr ⟨?_, h⟩
      intro m hm
      rcases List.mem_cons.mp hm with rfl | hm
      · exact h1
      · exact h1.trans (hn m hm)
    · subst h2
      exact List.pairwise_cons.mpr ⟨hn, hrest⟩
    · refine List.pairwise_cons.mpr ⟨?_, ih hrest⟩
      intro m hm
      rcases mem_insertMember hm with rfl | hm
      · exact lt_of_le_of_ne (not_lt.mp h1) (Ne.symm h2)
      · exact hn m hm

/-- Items of an array within `depth` containers. -/
def ItemsFit (depth : Nat) (items : List Json) : Prop :=
  depth < maxDepth ∧ ∀ v ∈ items, Readable (depth + 1) v

/-- Members of an object within `depth` containers. -/
def MembersFit (depth : Nat) (members : List (String × Json)) : Prop :=
  depth < maxDepth ∧ (members.Pairwise fun a b => a.1 < b.1) ∧
    ∀ m ∈ members, Readable (depth + 1) m.2

/-- Containers with what has been read of them. -/
def FramesFit : List Frame → Prop
  | [] => True
  | .array items :: rest => ItemsFit rest.length items ∧ FramesFit rest
  | .object members _ :: rest => MembersFit rest.length members ∧ FramesFit rest

/-- A number so far, with a significand that fits. -/
def Numeral.Fits : Numeral → Prop
  | .whole _ significand => significand ≤ maxSignificand
  | _ => True

/-- What has been read within `depth` containers. -/
def Mode.Fits (depth : Nat) : Mode → Prop
  | .firstItem | .firstName => depth < maxDepth
  | .nextItem items | .afterItem items => ItemsFit depth items
  | .nextName members | .colon members _ | .afterMember members | .text (.name members) .. =>
    MembersFit depth members
  | .word _ v => ∀ d, Readable d v
  | .done v => Readable 0 v
  | .numeral n => n.Fits
  | .value | .text .value .. => True

/-- What has been read so far can become part of a readable value. -/
def State.Fits (s : State) : Prop := FramesFit s.frames ∧ s.mode.Fits s.frames.length

theorem readable_of_isWord {w : List Char} {v : Json} (h : IsWord w v) (depth : Nat) :
    Readable depth v := by
  cases h
  · exact .null
  · exact .bool
  · exact .bool

theorem digit?_le {c : Char} {d : Nat} (h : Numeral.digit? c = some d) : d ≤ 9 := by
  unfold Numeral.digit? at h
  split_ifs at h with hc
  cases h
  have := (Char.isDigit_iff_toNat.mp hc).2
  simp only [show '0'.toNat = 48 from rfl, show '9'.toNat = 57 from rfl] at this ⊢
  omega

theorem Numeral.step_fits {n n' : Numeral} {c : Char} (h : n.step c = .more n') (hn : n.Fits) :
    n'.Fits := by
  -- only a first digit and a further whole digit lead to whole digits that fit
  cases n with
  | sign =>
    simp only [step] at h
    split at h <;> cases h
    · trivial
    · exact (digit?_le ‹_›).trans (by decide)
  | whole negative significand =>
    simp only [step, addWhole, leaveWhole] at h
    split at h
    · split at h <;> cases h
      · assumption
      · trivial
    · split_ifs at h <;> cases h <;> trivial
  | _ =>
    simp only [step, leaveWhole, addFraction, addExponent] at h
    grind [Numeral.Fits]

theorem readable_of_toNumber {m : Mantissa} {e : Int} {x : Number}
    (h : Numeral.Mantissa.toNumber m e = .ok x) (depth : Nat) : Readable depth (.number x) := by
  unfold Numeral.Mantissa.toNumber at h
  split at h <;> cases h
  exact .double

theorem readable_of_wholeNumber {negative : Bool} {significand : Nat} {x : Number}
    (h : Numeral.wholeNumber negative significand = .ok x)
    (hs : significand ≤ Numeral.maxSignificand) (depth : Nat) : Readable depth (.number x) := by
  unfold Numeral.wholeNumber at h
  unfold Numeral.maxSignificand at hs
  split_ifs at h with hc hn
  · exact readable_of_toNumber h depth
  · cases h
    have : significand ≤ 9223372036854775808 := by
      by_contra hlt
      exact hc ⟨hn, .inr (by omega)⟩
    exact .integer (by omega) (by omega)
  · cases h
    exact .integer (by omega) (by omega)

theorem readable_of_numeral {n : Numeral} {x : Number} (h : n.finish = .ok x) (hn : n.Fits)
    (depth : Nat) : Readable depth (.number x) := by
  cases n with
  | zero negative => exact readable_of_wholeNumber h (by decide) depth
  | whole negative significand => exact readable_of_wholeNumber h hn depth
  | overlong m => exact readable_of_toNumber h depth
  | fraction m => exact readable_of_toNumber h depth
  | crowded m => exact readable_of_toNumber h depth
  | exponent m down value => exact readable_of_toNumber h depth
  | vanished negative => cases h; exact .double
  | _ => cases h

theorem fits_complete {frames : List Frame} {v : Json} (hf : FramesFit frames)
    (hv : Readable frames.length v) : (complete frames v).Fits := by
  rcases frames with - | ⟨items | ⟨members, name⟩, rest⟩
  · exact ⟨trivial, hv⟩
  · obtain ⟨⟨hd, hi⟩, hr⟩ := hf
    refine ⟨hr, hd, ?_⟩
    intro w hw
    rcases List.mem_cons.mp hw with rfl | hw
    · exact hv
    · exact hi w hw
  · obtain ⟨⟨hd, hs, hm⟩, hr⟩ := hf
    refine ⟨hr, hd, pairwise_insertMember hs, ?_⟩
    intro m hmem
    rcases mem_insertMember hmem with rfl | hmem
    · exact hv
    · exact hm m hmem

theorem fits_of_begins {frames : List Frame} {c : Char} {t : State} (h : Begins frames c t)
    (hf : FramesFit frames) : t.Fits := by
  cases h with
  | word h => exact ⟨hf, readable_of_isWord h⟩
  | digit h _ => exact ⟨hf, (digit?_le h).trans (by decide)⟩
  | array hd => exact ⟨hf, hd⟩
  | object hd => exact ⟨hf, hd⟩
  | _ => exact ⟨hf, trivial⟩

theorem Move.fits {s t : State} {c : Char} (h : Move s c t) (hs : s.Fits) : t.Fits := by
  induction h with
  | value h => exact fits_of_begins h hs.1
  | firstItem h => exact fits_of_begins h ⟨⟨hs.2, by simp⟩, hs.1⟩
  | nextItem h => exact fits_of_begins h ⟨hs.2, hs.1⟩
  | emptyArray => exact fits_complete hs.1 (.array hs.2 (by simp))
  | arrayEnd => exact fits_complete hs.1 (.array hs.2.1 fun v hv => hs.2.2 v (by simpa using hv))
  | firstName => exact ⟨hs.1, hs.2, .nil, by simp⟩
  | colon => exact ⟨⟨hs.2, hs.1⟩, trivial⟩
  | emptyObject => exact fits_complete hs.1 (.object hs.2 .nil (by simp))
  | objectEnd => exact fits_complete hs.1 (.object hs.2.1 hs.2.2.1 hs.2.2.2)
  | lastLetter => exact fits_complete hs.1 (hs.2 _)
  | numeral h => exact ⟨hs.1, Numeral.step_fits h hs.2⟩
  | numeralEnd _ hx _ ih => exact ih (fits_complete hs.1 (readable_of_numeral hx hs.2 _))
  | @textEnd _ purpose =>
    cases purpose with
    | value => exact fits_complete hs.1 .string
    | name members => exact hs
  | @text _ purpose =>
    cases purpose with
    | value => exact hs
    | name members => exact hs
  | _ => exact hs

/-- Whatever is read fits. -/
theorem readable_of_read {cs : List Char} {v : Json} (h : read cs = .ok v) : Readable 0 v := by
  obtain ⟨t, ht, hf⟩ := read_eq_ok_iff.mp h
  have hfit : t.Fits := ht.induct Move.fits ⟨trivial, trivial⟩
  obtain ⟨frames, m⟩ := t
  cases m with
  | done w => cases hf; exact hfit.2
  | numeral n =>
    rcases frames with - | ⟨_ | _, _⟩ <;> simp only [finish] at hf <;> split at hf <;> cases hf
    exact readable_of_numeral ‹_› hfit.2 0
  | _ => cases hf

end Elicit.Json
