import Elicit.Proofs.Shape.Admission

/-! The values that a shape admits and cannot hold: those with a number in them that is beyond the
type it is to have. -/
namespace Elicit

/-- The number is one of the type, and written as a whole number. -/
def IntegerType.Holds (t : IntegerType) (n : Json.Number) : Prop :=
  ∃ i, n = .integer i ∧ t.least ≤ i ∧ i ≤ t.greatest

/-- Where a schema has the lower bound of a type, what it lets by is too great, or is not written
as a whole number. -/
theorem IntegerType.Bounds.not_holds_iff {t : IntegerType} {n : Json.Number} (h : t.Bounds n)
    (ht : ¬ (t.signed ∧ 32 ≤ t.bits)) :
    ¬ t.Holds n ↔ ∀ i, n = .integer i → t.greatest < i := by
  constructor
  · rintro hn i rfl
    by_contra hle
    exact hn ⟨i, rfl, h.of_integer.2 ht, not_lt.mp hle⟩
  · rintro hlt ⟨i, rfl, -, hle⟩
    exact absurd (hlt i rfl) (not_lt.mpr hle)

namespace Shape

mutual

/-- A number within the value is not one of the type that it is to have. -/
def Slips : Shape → Json → Prop
  | .bool, _ => False
  | .string, _ => False
  | .integer t, v => ∃ n, v = .number n ∧ ¬ t.Holds n
  | .optional s, v => s.Slips v
  | .list s, v => ∃ items, v = .array items ∧ ∃ item ∈ items, s.Slips item
  | .record _ fields, v => ∃ members, v = .object members ∧ SlipsFields fields members

def SlipsFields : List (String × Shape) → List (String × Json) → Prop
  | [], _ => False
  | (name, s) :: fields, members =>
    (∃ v, members.lookup name = some v ∧ s.Slips v) ∨ SlipsFields fields members

end

theorem slipsFields_iff {fields : List (String × Shape)} {members : List (String × Json)} :
    SlipsFields fields members ↔
      ∃ m ∈ fields, ∃ v, members.lookup m.1 = some v ∧ m.2.Slips v := by
  induction fields with
  | nil => simp [SlipsFields]
  | cons m fields ih =>
    rw [SlipsFields, ih]
    simp only [List.mem_cons, exists_eq_or_imp]

/-- The value has the shape. -/
def Fits (s : Shape) (v : Json) : Prop := ∃ w, s.read v = .ok w

theorem mapM_ok_iff {α β ε : Type} {f : α → Except ε β} {l : List α} :
    (∃ ys, l.mapM f = .ok ys) ↔ ∀ x ∈ l, ∃ y, f x = .ok y := by
  induction l with
  | nil => simp [pure, Except.pure]
  | cons x l ih =>
    rw [List.mapM_cons, List.forall_mem_cons, ← ih]
    cases f x with
    | error e => simp [bind, Except.bind]
    | ok y =>
      cases l.mapM f with
      | error e => simp [bind, Except.bind]
      | ok ys => simp [bind, Except.bind, pure, Except.pure]

theorem fits_integer {t : IntegerType} {n : Json.Number} :
    (Shape.integer t).Fits (.number n) ↔ t.Holds n := by
  unfold Fits IntegerType.Holds
  rw [read]
  cases n with
  | integer i =>
    rw [readInteger]
    split_ifs with h <;> simp [h]
  | double x => simp [readInteger]

theorem fits_list {s : Shape} {items : List Json} :
    (Shape.list s).Fits (.array items) ↔ ∀ item ∈ items, s.Fits item := by
  have hmap : (∃ ws, items.mapM s.read = .ok ws) ↔ _ := mapM_ok_iff
  unfold Fits
  rw [← hmap, read, readList]
  cases items.mapM s.read <;> simp [bind, Except.bind, pure, Except.pure]

/-- Only members that are fields are read. -/
theorem readMembers_ok_iff {fields : List (String × Bool × Reader)}
    {members : List (String × Json)} :
    (∃ found, readMembers fields members = .ok found) ↔
      ∀ m ∈ members, ∀ f, fields.lookup m.1 = some f → ∃ w, f.2 m.2 = .ok w := by
  induction members with
  | nil => simp [readMembers]
  | cons m members ih =>
    rw [List.forall_mem_cons, ← ih, readMembers]
    cases hf : fields.lookup m.1 with
    | none => simp
    | some f =>
      simp only [Option.some.injEq, forall_eq']
      cases f.2 m.2 with
      | error e => simp [bind, Except.bind]
      | ok w =>
        cases readMembers fields members with
        | error e => simp [bind, Except.bind]
        | ok found => simp [bind, Except.bind, pure, Except.pure]

theorem names_readMembers {fields : List (String × Bool × Reader)}
    {members found : List (String × Json)} (h : readMembers fields members = .ok found) :
    found.map (·.1) =
      (members.map (·.1)).filter fun name => (fields.lookup name).isSome := by
  induction members generalizing found with
  | nil =>
    cases h
    rfl
  | cons m members ih =>
    rw [readMembers] at h
    rw [List.map_cons]
    cases hf : fields.lookup m.1 with
    | none =>
      rw [hf] at h
      rw [List.filter_cons_of_neg (by simp [hf])]
      exact ih h
    | some f =>
      rw [hf] at h
      rw [List.filter_cons_of_pos (by simp [hf])]
      cases hw : f.2 m.2 with
      | error e => simp [hw, bind, Except.bind] at h
      | ok w =>
        cases hrest : readMembers fields members with
        | error e => simp [hw, hrest, bind, Except.bind] at h
        | ok rest =>
          simp only [hw, hrest, bind, Except.bind, pure, Except.pure, Except.ok.injEq] at h
          rw [← h, List.map_cons, ih hrest]

/-- No field is missing where those that are there are all that may not be left out. -/
theorem addMissing_ok {fields : List (String × Bool × Reader)} {found : List (String × Json)}
    (h : ∀ f ∈ fields, f.2.1 = false → (found.lookup f.1).isSome) :
    ∃ all, addMissing found fields = .ok all := by
  induction fields generalizing found with
  | nil => exact ⟨found, rfl⟩
  | cons f fields ih =>
    obtain ⟨hf, hfields⟩ := List.forall_mem_cons.mp h
    rw [addMissing]
    split_ifs with hfound hlack
    · exact ih hfields
    · refine ih fun g hg hlack => ?_
      rw [List.lookup_append, Option.isSome_or, hfields g hg hlack]
      rfl
    · exact absurd (hf (by simpa using hlack)) hfound

theorem fieldReaders_eq_map (fields : List (String × Shape)) :
    fieldReaders fields = fields.map fun m => (m.1, m.2.isOptional, m.2.read) := by
  induction fields with
  | nil => rfl
  | cons m fields ih => rw [fieldReaders, ih, List.map_cons]

theorem fits_record {name : String} {fields : List (String × Shape)}
    {members : List (String × Json)} (hn : (fields.map (·.1)).Nodup)
    (hs : (members.map (·.1)).Nodup)
    (hr : ∀ m ∈ fields, m.2.isOptional = false → (members.lookup m.1).isSome) :
    (Shape.record name fields).Fits (.object members) ↔
      ∀ m ∈ fields, ∀ v, members.lookup m.1 = some v → m.2.Fits v := by
  have hnames : ((fieldReaders fields).map (·.1)).Nodup := by
    rw [fieldReaders_eq_map, List.map_map]
    exact hn
  have hfound : (∃ found, readMembers (fieldReaders fields) members = .ok found) ↔
      ∀ m ∈ fields, ∀ v, members.lookup m.1 = some v → m.2.Fits v := by
    rw [readMembers_ok_iff]
    constructor
    · intro h m hm v hv
      have hmem : (m.1, m.2.isOptional, m.2.read) ∈ fieldReaders fields := by
        rw [fieldReaders_eq_map]
        exact List.mem_map_of_mem hm
      exact h _ (Json.mem_of_lookup hv) _ (Json.lookup_of_mem hnames hmem)
    · intro h m hm f hf
      have hmem := Json.mem_of_lookup hf
      rw [fieldReaders_eq_map, List.mem_map] at hmem
      obtain ⟨m', hm', he⟩ := hmem
      obtain ⟨hname, rfl⟩ := Prod.mk.injEq .. ▸ he
      exact h m' hm' m.2 (hname ▸ Json.lookup_of_mem hs hm)
  rw [← hfound, Fits, read, readRecord]
  constructor
  · rintro ⟨w, hw⟩
    cases hread : readMembers (fieldReaders fields) members with
    | error e => simp [hread, bind, Except.bind] at hw
    | ok found => exact ⟨found, rfl⟩
  · rintro ⟨found, hread⟩
    have hall : ∀ f ∈ fieldReaders fields, f.2.1 = false → (found.lookup f.1).isSome := by
      intro f hf hlack
      rw [Json.isSome_lookup_iff, names_readMembers hread, List.mem_filter]
      refine ⟨?_, ?_⟩
      · rw [fieldReaders_eq_map, List.mem_map] at hf
        obtain ⟨m, hm, rfl⟩ := hf
        exact Json.isSome_lookup_iff.mp (hr m hm hlack)
      · rw [Json.isSome_lookup_iff]
        exact List.mem_map_of_mem hf
    obtain ⟨all, hadd⟩ := addMissing_ok hall
    exact ⟨.ofMembers all, by simp [hread, hadd, bind, Except.bind, pure, Except.pure]⟩

theorem not_slips_null : ∀ s : Shape, ¬ s.Slips .null
  | .bool => by simp [Slips]
  | .string => by simp [Slips]
  | .integer t => by simp [Slips]
  | .optional s => by
    rw [Slips]
    exact not_slips_null s
  | .list s => by simp [Slips]
  | .record .. => by simp [Slips]

mutual

/-- What a shape admits has the shape, unless a number is not of its type. -/
theorem fits_iff : ∀ (s : Shape) {depth : Nat} {v : Json}, s.isRegular → Json.Readable depth v →
    s.Admits v → (s.Fits v ↔ ¬ s.Slips v)
  | .bool, _, _, _, _, hv => by
    obtain ⟨b, rfl⟩ := hv
    simp [Fits, read, Slips]
  | .string, _, _, _, _, hv => by
    obtain ⟨text, rfl⟩ := hv
    simp [Fits, read, Slips]
  | .integer t, _, _, _, _, hv => by
    obtain ⟨n, rfl, -⟩ := hv
    rw [fits_integer]
    simp [Slips]
  | .optional s, _, v, hs, hr, hv => by
    rw [isRegular, Bool.and_eq_true] at hs
    by_cases hnull : v = .null
    · subst hnull
      simp [Fits, read, Slips, not_slips_null]
    · have hread : (Shape.optional s).read v = s.read v := by
        rw [read]
        cases v with
        | null => exact absurd rfl hnull
        | _ => rfl
      rw [Fits, hread, Slips]
      exact fits_iff s hs.2 hr (hv.resolve_left hnull)
  | .list s, _, _, hs, hr, hv => by
    obtain ⟨items, rfl, hitems⟩ := hv
    rw [isRegular] at hs
    cases hr with
    | array _ hr =>
      rw [fits_list]
      have hall : ∀ item ∈ items, s.Fits item ↔ ¬ s.Slips item := fun item hitem =>
        fits_iff s hs (hr item hitem) (hitems item hitem)
      simp only [Slips, Json.array.injEq, exists_eq_left', not_exists, not_and]
      exact forall₂_congr hall
  | .record name fields, _, _, hs, hr, hv => by
    obtain ⟨members, rfl, hfields⟩ := hv
    rw [isRegular, Bool.and_eq_true, decide_eq_true_eq] at hs
    rw [admitsFields_iff] at hfields
    cases hr with
    | object _ hsorted hr =>
      rw [fits_record hs.1 (Json.nodup_names hsorted) fun m hm => (hfields m hm).1]
      simp only [Slips, Json.object.injEq, exists_eq_left', slipsFields_iff, not_exists, not_and]
      refine forall₂_congr fun m hm => forall₂_congr fun v hv => ?_
      exact fits_fields fields hs.2 m hm (hr _ (Json.mem_of_lookup hv)) ((hfields m hm).2 v hv)

theorem fits_fields : ∀ fields : List (String × Shape), areRegular fields → ∀ m ∈ fields,
    ∀ {depth : Nat} {v : Json}, Json.Readable depth v → m.2.Admits v → (m.2.Fits v ↔ ¬ m.2.Slips v)
  | [], _, _, hm, _, _, _, _ => by cases hm
  | (_, s) :: fields, hs, m, hm, _, _, hr, hv => by
    rw [areRegular, Bool.and_eq_true] at hs
    rcases List.mem_cons.mp hm with rfl | hm
    · exact fits_iff s hs.1 hr hv
    · exact fits_fields fields hs.2 m hm hr hv

end

theorem slips_record_iff {name : String} {fields : List (String × Shape)} {v : Json} :
    (Shape.record name fields).Slips v ↔
      ∃ m ∈ fields, ∃ value, v.member? m.1 = some value ∧ m.2.Slips value := by
  rw [Slips]
  simp only [slipsFields_iff]
  constructor
  · rintro ⟨members, rfl, hslips⟩
    exact hslips
  · rintro ⟨m, hm, value, hvalue, hslips⟩
    cases v with
    | object members => exact ⟨members, rfl, m, hm, value, hvalue, hslips⟩
    | _ => cases hvalue

theorem Admits.member {name : String} {fields : List (String × Shape)} {v value : Json}
    (h : (Shape.record name fields).Admits v) {field : String} {s : Shape}
    (hm : (field, s) ∈ fields) (hv : v.member? field = some value) : s.Admits value := by
  obtain ⟨members, rfl, hfields⟩ := h
  exact (admitsFields_iff.mp hfields _ hm).2 value hv

end Shape

end Elicit
