import Elicit.Proofs.Shape.Described

/-! The values that the schema of a shape accepts. -/
namespace Elicit

/-- What a schema says of a whole number of the type. Types of 32 bits and more have no upper bound
there, and signed ones no lower bound either. -/
structure IntegerType.Bounds (t : IntegerType) (n : Json.Number) : Prop where
  whole : n.isWhole
  upper : t.bits < 32 → n.compare (.integer t.greatest) ≠ .gt
  lower : ¬ (t.signed ∧ 32 ≤ t.bits) → n.compare (.integer t.least) ≠ .lt

theorem IntegerType.Bounds.of_integer {t : IntegerType} {i : Int} (h : t.Bounds (.integer i)) :
    (t.bits < 32 → i ≤ t.greatest) ∧ (¬ (t.signed ∧ 32 ≤ t.bits) → t.least ≤ i) := by
  have hupper := h.upper
  have hlower := h.lower
  simp only [Json.Number.compare, Json.Number.fraction, Int.ofNat_one, Int.mul_one, ne_eq,
    compare_gt_iff_gt, compare_lt_iff_lt, not_lt] at hupper hlower
  exact ⟨hupper, hlower⟩

/-- A zero is within the bounds, also where it is binary64. -/
theorem IntegerType.bounds_zero (t : IntegerType) (negative : Bool) :
    t.Bounds (.double (.zero negative)) := by
  obtain ⟨d, hratio⟩ : ∃ d, (Binary64.zero negative).ratio = (0, d) := ⟨_, rfl⟩
  have hfraction : (Binary64.zero negative).fraction = (0, d) := by
    rw [Binary64.fraction, hratio]
    cases negative <;> rfl
  have hcompare : ∀ i : Int, Json.Number.compare (.double (.zero negative)) (.integer i) =
      compare 0 (i * d) := by
    intro i
    simp only [Json.Number.compare, Json.Number.fraction, hfraction, Int.zero_mul]
  constructor
  case whole =>
    rw [Json.Number.isWhole, Binary64.isWhole, hratio, Nat.zero_mod]
    rfl
  case upper =>
    intro _
    rw [hcompare, ne_eq, compare_gt_iff_gt, not_lt]
    exact Int.mul_nonneg (Int.natCast_nonneg _) (Int.natCast_nonneg d)
  case lower =>
    intro _
    have hleast : t.least ≤ 0 := by
      unfold IntegerType.least
      split_ifs
      · exact Int.neg_nonpos_of_nonneg (Int.natCast_nonneg _)
      · exact Int.le_refl 0
    rw [hcompare, ne_eq, compare_lt_iff_lt, not_lt]
    exact Int.mul_nonpos_of_nonpos_of_nonneg hleast (Int.natCast_nonneg d)

namespace Shape

mutual

/-- What a value is to be so that the schema of a shape accepts it. -/
def Admits : Shape → Json → Prop
  | .bool, v => ∃ b, v = .bool b
  | .string, v => ∃ text, v = .string text
  | .integer t, v => ∃ n, v = .number n ∧ t.Bounds n
  | .optional s, v => v = .null ∨ s.Admits v
  | .list s, v => ∃ items, v = .array items ∧ ∀ item ∈ items, s.Admits item
  | .record _ fields, v => ∃ members, v = .object members ∧ AdmitsFields fields members

/-- What members are to be so that a record with the fields admits them. -/
def AdmitsFields : List (String × Shape) → List (String × Json) → Prop
  | [], _ => True
  | (name, s) :: fields, members =>
    (s.isOptional = false → (members.lookup name).isSome) ∧
    (∀ v, members.lookup name = some v → s.Admits v) ∧ AdmitsFields fields members

end

open Schema (Check Keyword Kind Path Place)

section

variable {resolve : Place → Check} {path : Path} {v : Json}

theorem violations_demand {ok : Json → Bool} {complaint : Schema.Complaint} :
    (Check.demand ok complaint path v).violations = [] ↔ ok v := by
  unfold Check.demand Schema.Report.ofViolations
  split_ifs with h <;> simp [h]

theorem violations_keywords {ks : List Keyword} :
    (Schema.check resolve (.keywords ks) path v).violations = [] ↔
      ∀ k ∈ ks, (Schema.checkKeyword resolve k path v).violations = [] := by
  have hmap : Schema.checkKeywords resolve ks = ks.map (Schema.checkKeyword resolve) := by
    induction ks with
    | nil => rfl
    | cons k ks ih => rw [Schema.checkKeywords, ih, List.map_cons]
  rw [Schema.check, hmap]
  simp [Check.all, Schema.Report.unions]

theorem violations_items {k : Check} {items : List Json} :
    (Check.items 0 k path (.array items)).violations = [] ↔
      ∀ (i : Nat) item, items[i]? = some item → (k (toString i :: path) item).violations = [] := by
  simp only [Check.items, List.drop_zero, List.flatMap_eq_nil_iff, Prod.forall,
    List.mem_zipIdx_iff_getElem?]
  exact forall_comm

theorem violations_properties {named : List (String × Check)} :
    (Check.properties named path v).violations = [] ↔ ∀ m ∈ named, ∀ value,
      v.member? m.1 = some value → (m.2 (m.1 :: path) value).violations = [] := by
  simp only [Check.properties, Schema.Report.ofMembers, List.flatMap_eq_nil_iff,
    List.mem_filterMap, Option.map_eq_some_iff]
  constructor
  · intro h m hm value hvalue
    exact h _ ⟨m, hm, value, hvalue, rfl⟩
  · rintro h _ ⟨m, hm, value, hvalue, rfl⟩
    exact h m hm value hvalue

theorem violations_required {names : List String} {members : List (String × Json)} :
    (Check.required names path (.object members)).violations = [] ↔
      ∀ n ∈ names, (members.lookup n).isSome := by
  simp only [Check.required, Schema.Report.ofViolations, List.flatMap_eq_nil_iff]
  refine forall₂_congr fun n _ => ?_
  split_ifs with h <;> simp [h]

theorem any_kinds {nullable : Bool} {kind : Kind} :
    (kinds nullable kind).any (·.holds v) ↔ (nullable ∧ v = .null) ∨ kind.holds v := by
  have hnull : Kind.holds .null v ↔ v = .null := by cases v <;> simp [Kind.holds]
  cases nullable <;> simp [kinds, hnull, or_comm]

theorem violations_type {nullable : Bool} {kind : Kind} :
    (Schema.checkKeyword resolve (.type (kinds nullable kind)) path v).violations = [] ↔
      (nullable ∧ v = .null) ∨ kind.holds v := by
  rw [Schema.checkKeyword, violations_demand, any_kinds]

theorem accepts_integer {nullable : Bool} {t : IntegerType} :
    (∀ k ∈ keywords nullable (.integer t), (Schema.checkKeyword resolve k path v).violations = []) ↔
      (nullable ∧ v = .null) ∨ (Shape.integer t).Admits v := by
  have hmaximum : (∀ k ∈ (if t.bits < 32 then [Keyword.maximum (.integer t.greatest)] else []),
      (Schema.checkKeyword resolve k path v).violations = []) ↔
      ∀ n, v = .number n → t.bits < 32 → n.compare (.integer t.greatest) ≠ .gt := by
    split_ifs with h
    · simp only [List.mem_singleton, forall_eq, Schema.checkKeyword, violations_demand]
      cases v <;> simp [Check.onNumber, h]
    · simp [h]
  have hminimum : (∀ k ∈ (if t.signed ∧ 32 ≤ t.bits then [] else
      [Keyword.minimum (.integer t.least)]),
      (Schema.checkKeyword resolve k path v).violations = []) ↔
      ∀ n, v = .number n → ¬ (t.signed ∧ 32 ≤ t.bits) → n.compare (.integer t.least) ≠ .lt := by
    split_ifs with h
    · simp [h]
    · simp only [List.mem_singleton, forall_eq, Schema.checkKeyword, violations_demand]
      cases v <;> simp [Check.onNumber, h]
  rw [keywords, List.forall_mem_append, List.forall_mem_append, hmaximum, hminimum,
    List.forall_mem_singleton, violations_type, Admits]
  constructor
  · rintro ⟨⟨hupper, hlower⟩, hnull | hkind⟩
    · exact .inl hnull
    · cases v with
      | number n => exact .inr ⟨n, rfl, hkind, hupper n rfl, hlower n rfl⟩
      | _ => cases hkind
  · rintro (⟨hnull, rfl⟩ | ⟨n, rfl, hwhole, hupper, hlower⟩)
    · exact ⟨⟨nofun, nofun⟩, .inl ⟨hnull, rfl⟩⟩
    · refine ⟨⟨?_, ?_⟩, .inr hwhole⟩
      · rintro _ ⟨⟩
        exact hupper
      · rintro _ ⟨⟩
        exact hlower

theorem accepts_list {nullable : Bool} {s : Shape}
    (h : ∀ path v, (∀ k ∈ keywords false s,
      (Schema.checkKeyword resolve k path v).violations = []) ↔ s.Admits v) :
    (∀ k ∈ keywords nullable (.list s), (Schema.checkKeyword resolve k path v).violations = []) ↔
      (nullable ∧ v = .null) ∨ (Shape.list s).Admits v := by
  have hitems : ∀ items, (Schema.checkKeyword resolve (.items 0 (.keywords (keywords false s))) path
      (.array items)).violations = [] ↔ ∀ item ∈ items, s.Admits item := by
    intro items
    rw [Schema.checkKeyword, violations_items]
    simp only [violations_keywords, h]
    exact ⟨fun hall item hitem => (List.getElem?_of_mem hitem).elim fun i hi => hall i item hi,
      fun hall i item hi => hall item (List.mem_of_getElem? hi)⟩
  rw [keywords, List.forall_mem_cons, List.forall_mem_singleton, violations_type, Admits]
  constructor
  · rintro ⟨hall, hnull | hkind⟩
    · exact .inl hnull
    · cases v with
      | array items => exact .inr ⟨items, rfl, (hitems items).mp hall⟩
      | _ => cases hkind
  · rintro (⟨hnull, rfl⟩ | ⟨items, rfl, hall⟩)
    · exact ⟨rfl, .inl ⟨hnull, rfl⟩⟩
    · exact ⟨(hitems items).mpr hall, .inr rfl⟩

theorem admitsFields_iff {fields : List (String × Shape)} {members : List (String × Json)} :
    AdmitsFields fields members ↔ ∀ m ∈ fields,
      (m.2.isOptional = false → (members.lookup m.1).isSome) ∧
      ∀ value, members.lookup m.1 = some value → m.2.Admits value := by
  induction fields with
  | nil => simp [AdmitsFields]
  | cons m fields ih => rw [AdmitsFields, ih, List.forall_mem_cons, and_assoc]

theorem accepts_record {nullable : Bool} {name : String} {fields : List (String × Shape)}
    (hn : (fields.map (·.1)).Nodup)
    (h : ∀ m ∈ fields, ∀ path v, (∀ k ∈ keywords false m.2,
      (Schema.checkKeyword resolve k path v).violations = []) ↔ m.2.Admits v) :
    (∀ k ∈ keywords nullable (.record name fields),
      (Schema.checkKeyword resolve k path v).violations = []) ↔
      (nullable ∧ v = .null) ∨ (Shape.record name fields).Admits v := by
  have hnamed : ∀ named, Schema.checkNamed resolve named =
      named.map fun m => (m.1, Schema.check resolve m.2) := by
    intro named
    induction named with
    | nil => rfl
    | cons m named ih => rw [Schema.checkNamed, ih, List.map_cons]
  have hnames : ((fieldKeywords fields).map (·.1)).Nodup := by
    rw [fieldKeywords_eq_map, List.map_map]
    exact hn
  have hproperties : ∀ v, (Schema.checkKeyword resolve
      (.properties (Json.arrange (fieldKeywords fields))) path v).violations = [] ↔
      ∀ m ∈ fields, ∀ value, v.member? m.1 = some value → m.2.Admits value := by
    intro v
    rw [Schema.checkKeyword, violations_properties, hnamed, List.forall_mem_map]
    have hmem : ∀ m, m ∈ Json.arrange (fieldKeywords fields) ↔ m ∈ fieldKeywords fields :=
      fun m => (Json.arrange_perm hnames).mem_iff
    simp only [hmem]
    rw [fieldKeywords_eq_map, List.forall_mem_map]
    refine forall₂_congr fun m hm => forall₂_congr fun value _ => ?_
    rw [violations_keywords, h m hm]
  have hrequired : ∀ names members, (Schema.checkKeyword resolve (.required names) path
      (.object members)).violations = [] ↔ ∀ name ∈ names, (members.lookup name).isSome := by
    intro names members
    rw [Schema.checkKeyword, violations_required]
  rw [keywords, List.forall_mem_cons, List.forall_mem_cons, List.forall_mem_singleton,
    violations_type, Admits, hproperties]
  constructor
  · rintro ⟨hall, hsome, hnull | hkind⟩
    · exact .inl hnull
    · cases v with
      | object members =>
        rw [hrequired, List.forall_mem_map] at hsome
        simp only [List.mem_filter, and_imp, Bool.not_eq_true'] at hsome
        exact .inr ⟨members, rfl, admitsFields_iff.mpr fun m hm => ⟨hsome m hm, hall m hm⟩⟩
      | _ => cases hkind
  · rintro (⟨hnull, rfl⟩ | ⟨members, rfl, hfields⟩)
    · refine ⟨fun m hm value hvalue => ?_, rfl, .inl ⟨hnull, rfl⟩⟩
      cases hvalue
    · rw [admitsFields_iff] at hfields
      rw [hrequired, List.forall_mem_map]
      simp only [List.mem_filter, and_imp, Bool.not_eq_true']
      exact ⟨fun m hm => (hfields m hm).2, fun m hm => (hfields m hm).1, .inr rfl⟩

end

mutual

/-- What is read from the schema of a shape accepts the values that the shape admits. -/
theorem accepts_keywords {resolve : Place → Check} :
    ∀ (s : Shape) (nullable : Bool) (path : Path) (v : Json), s.isRegular →
      ((∀ k ∈ keywords nullable s, (Schema.checkKeyword resolve k path v).violations = []) ↔
        (nullable ∧ v = .null) ∨ s.Admits v)
  | .bool, nullable, path, v, _ => by
    have hkind : Kind.holds .boolean v ↔ ∃ b, v = .bool b := by cases v <;> simp [Kind.holds]
    rw [keywords, List.forall_mem_singleton, violations_type, Admits, hkind]
  | .string, nullable, path, v, _ => by
    have hkind : Kind.holds .string v ↔ ∃ text, v = .string text := by
      cases v <;> simp [Kind.holds]
    rw [keywords, List.forall_mem_singleton, violations_type, Admits, hkind]
  | .integer t, nullable, path, v, _ => accepts_integer
  | .optional s, nullable, path, v, hs => by
    rw [isRegular, Bool.and_eq_true] at hs
    rw [keywords, accepts_keywords s true path v hs.2, Admits]
    simp only [true_and]
    tauto
  | .list s, nullable, path, v, hs => by
    rw [isRegular] at hs
    exact accepts_list fun path v => by
      rw [accepts_keywords s false path v hs]
      simp
  | .record name fields, nullable, path, v, hs => by
    rw [isRegular, Bool.and_eq_true, decide_eq_true_eq] at hs
    exact accepts_record hs.1 fun m hm path v => accepts_fields fields hs.2 m hm path v

theorem accepts_fields {resolve : Place → Check} :
    ∀ fields : List (String × Shape), areRegular fields → ∀ m ∈ fields, ∀ path v,
      (∀ k ∈ keywords false m.2, (Schema.checkKeyword resolve k path v).violations = []) ↔
        m.2.Admits v
  | [], _, _, hm, _, _ => by cases hm
  | (_, s) :: fields, hs, m, hm, path, v => by
    rw [areRegular, Bool.and_eq_true] at hs
    rcases List.mem_cons.mp hm with rfl | hm
    · rw [accepts_keywords s false path v hs.1]
      simp
    · exact accepts_fields fields hs.2 m hm path v

end

/-- A validator that is read from the schema of a shape accepts what the shape admits. -/
theorem errors_eq_nil_iff {s : Shape} (hs : s.isRegular) {k : Validator}
    (h : Validator.read s.schema = .ok k) {v : Json} : k.errors v = [] ↔ s.Admits v := by
  unfold Validator.errors Schema.Document.violations
  rw [document_of_read hs h, List.map_eq_nil_iff, violations_keywords,
    accepts_keywords s false [] v hs]
  simp

end Shape

end Elicit
