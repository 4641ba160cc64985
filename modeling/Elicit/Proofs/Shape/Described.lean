import Elicit.Proofs.Json.Members
import Elicit.Schema.Validator
import Elicit.Shape

/-! What the schema of a shape is read as: keywords that refer to nothing, and say of a value what
the shape says of it. -/
namespace Elicit.Shape

open Schema (Keyword Kind Context Follower Reading Readings)

/-- The kinds of a value that may be `null` besides. -/
def kinds (nullable : Bool) (kind : Kind) : List Kind :=
  if nullable then [kind, .null] else [kind]

mutual

/-- What a shape says of a value, which may be `null` besides. -/
def keywords (nullable : Bool) : Shape → List Keyword
  | .bool => [.type (kinds nullable .boolean)]
  | .string => [.type (kinds nullable .string)]
  | .integer t =>
    (if t.bits < 32 then [.maximum (.integer t.greatest)] else []) ++
      (if t.signed ∧ 32 ≤ t.bits then [] else [.minimum (.integer t.least)]) ++
      [.type (kinds nullable .integer)]
  | .optional s => keywords true s
  | .list s => [.items 0 (.keywords (keywords false s)), .type (kinds nullable .array)]
  | .record _ fields =>
    [.properties (Json.arrange (fieldKeywords fields)),
      .required ((fields.filter fun (_, s) => !s.isOptional).map (·.1)),
      .type (kinds nullable .object)]

/-- What is said of fields. -/
def fieldKeywords : List (String × Shape) → List (String × Schema)
  | [] => []
  | (name, s) :: fields => (name, .keywords (keywords false s)) :: fieldKeywords fields

end

mutual

/-- Whether the fields of every record have names of their own, and nothing is optional twice. -/
def isRegular : Shape → Bool
  | .optional s => !s.isOptional && s.isRegular
  | .list s => s.isRegular
  | .record _ fields => decide (fields.map (·.1)).Nodup && areRegular fields
  | _ => true

def areRegular : List (String × Shape) → Bool
  | [] => true
  | (_, s) :: fields => s.isRegular && areRegular fields

end

/-- The value of a `type` that may be `null` besides. -/
def typeOf (nullable : Bool) (kind : Kind) : Json :=
  if nullable then .array [.string kind.name, .string "null"] else .string kind.name

/-- The members of the schema of a shape, of a value that may be `null` besides. -/
def described (nullable : Bool) (s : Shape) : List (String × Json) :=
  if nullable then orNull (schemaMembers s) else schemaMembers s

section

variable {read : Follower} {siblings : Readings} {c : Context} {r : Reading}

/-- The members of a schema are read as those keywords, whatever is around them. -/
def ReadAs (read : Follower) (siblings : Readings) (c : Context) (members : List (String × Json))
    (ks : List Keyword) : Prop :=
  ∀ before rest, Schema.readKeywords read siblings c before
      (Schema.readings read members ++ rest) =
    Schema.readKeywords read siblings c (before ++ ks) rest

theorem ReadAs.append {a b : List (String × Json)} {ks ls : List Keyword}
    (ha : ReadAs read siblings c a ks) (hb : ReadAs read siblings c b ls) :
    ReadAs read siblings c (a ++ b) (ks ++ ls) := by
  have hsplit : Schema.readings read (a ++ b) =
      Schema.readings read a ++ Schema.readings read b := by
    clear ha
    induction a with
    | nil => rfl
    | cons m a ih => rw [List.cons_append, Schema.readings, ih, Schema.readings, List.cons_append]
  intro before rest
  rw [hsplit, List.append_assoc, ha, hb, List.append_assoc]

theorem ReadAs.nil : ReadAs read siblings c [] [] := by
  intro before rest
  rw [List.append_nil]
  rfl

theorem ReadAs.ite {p : Prop} [Decidable p] {a b : List (String × Json)} {ks ls : List Keyword}
    (ha : ReadAs read siblings c a ks) (hb : ReadAs read siblings c b ls) :
    ReadAs read siblings c (if p then a else b) (if p then ks else ls) := by
  split_ifs
  · exact ha
  · exact hb

theorem ReadAs.one {name : String} {v : Json} {k : Option Keyword}
    (hi : name ≠ "unevaluatedItems") (hp : name ≠ "unevaluatedProperties")
    (h : Schema.readKeyword read siblings c name ⟨v, Schema.readSchema read v,
      Schema.itemReaders read v, Schema.memberReaders read v⟩ = pure k) :
    ReadAs read siblings c [(name, v)] k.toList := by
  intro before rest
  rw [Schema.readings, List.cons_append, Schema.readKeywords, if_neg (fun hn => hi hn.2),
    if_neg (fun hn => hp hn.2), h, pure_bind]
  rfl

theorem readKeyword_unknown {name : String} (h : c.dialect.knows name = false) :
    Schema.readKeyword read siblings c name r = pure none := by
  unfold Schema.readKeyword
  rw [h]
  rfl

theorem kinds?_typeOf (nullable : Bool) (kind : Kind) :
    Schema.kinds? (typeOf nullable kind) = some (kinds nullable kind) := by
  cases nullable <;> cases kind <;> decide

/-- Where the keywords that the schemas of shapes have are read. -/
structure Dispatches (read : Follower) (siblings : Readings) (c : Context) (r : Reading) :
    Prop where
  format : Schema.readKeyword read siblings c "format" r = liftM (Schema.readFormat c r.value)
  items : Schema.readKeyword read siblings c "items" r = Schema.readItems siblings c r
  maximum : Schema.readKeyword read siblings c "maximum" r =
    liftM (Schema.readBound siblings c r "exclusiveMaximum" .maximum .exclusiveMaximum)
  minimum : Schema.readKeyword read siblings c "minimum" r =
    liftM (Schema.readBound siblings c r "exclusiveMinimum" .minimum .exclusiveMinimum)
  properties : Schema.readKeyword read siblings c "properties" r =
    if Schema.ordersMembers siblings then pure none
    else return some (.properties (← r.readNamed c))
  required : Schema.readKeyword read siblings c "required" r =
    liftM (do return some (.required (← Schema.readNames r.value)) : Except Schema.Fault _)
  type : Schema.readKeyword read siblings c "type" r = liftM (Schema.readType c r.value)

theorem dispatches : Dispatches read siblings c r := by
  have hknows : ∀ name ∈ ["format", "items", "maximum", "minimum", "properties", "required",
      "type"], c.dialect.knows name = true := by
    cases c.dialect <;> decide
  simp only [List.forall_mem_cons] at hknows
  constructor <;> unfold Schema.readKeyword <;> simp only [hknows] <;> rfl

theorem readBound_eq {exclusive : String} {inner outer : Json.Number → Keyword} {n : Json.Number}
    (hc : c.dialect = .draft2020) (hr : r.value = .number n) :
    Schema.readBound siblings c r exclusive inner outer = .ok (some (inner n)) := by
  rw [Schema.readBound, hr, hc]
  rfl

theorem readKeyword_minimum {n : Json.Number} (hc : c.dialect = .draft2020)
    (hr : r.value = .number n) :
    Schema.readKeyword read siblings c "minimum" r = pure (some (.minimum n)) := by
  rw [(dispatches).minimum, readBound_eq hc hr]
  rfl

theorem readKeyword_maximum {n : Json.Number} (hc : c.dialect = .draft2020)
    (hr : r.value = .number n) :
    Schema.readKeyword read siblings c "maximum" r = pure (some (.maximum n)) := by
  rw [(dispatches).maximum, readBound_eq hc hr]
  rfl

theorem readKeyword_type {nullable : Bool} {kind : Kind} (hc : c.dialect = .draft2020)
    (hr : r.value = typeOf nullable kind) :
    Schema.readKeyword read siblings c "type" r = pure (some (.type (kinds nullable kind))) := by
  have hk := kinds?_typeOf nullable kind
  have ht : Schema.readType c r.value = .ok (some (.type (kinds nullable kind))) := by
    rw [hr]
    cases nullable <;> simp [typeOf, Schema.readType, hc] at hk ⊢ <;> rw [hk]
  rw [(dispatches).type, ht]
  rfl

/-- Formats are not checked. -/
theorem readKeyword_format (hc : c.dialect = .draft2020) :
    Schema.readKeyword read siblings c "format" r = pure none := by
  have hchecks : c.dialect.checksFormats = false := by
    rw [hc]
    rfl
  rw [(dispatches).format, Schema.readFormat, hchecks]
  rfl

theorem readKeyword_required {names : List String} (hr : r.value = .array (names.map .string)) :
    Schema.readKeyword read siblings c "required" r = pure (some (.required names)) := by
  have hnames : Schema.readNames r.value = .ok names := by
    rw [hr, Schema.readNames, List.mapM_map]
    exact List.mapM_pure.trans (congrArg _ (List.map_id' names))
  rw [(dispatches).required, hnames]
  rfl

theorem readKeyword_items {s : Schema} {members : List (String × Json)}
    (hs : siblings.lookup "prefixItems" = none) (hr : r.value = .object members)
    (h : r.schema c = pure s) :
    Schema.readKeyword read siblings c "items" r = pure (some (.items 0 s)) := by
  rw [(dispatches).items]
  simp [Schema.readItems, hr, Schema.firstCount, hs, h]

theorem readKeyword_properties {named : List (String × Schema)}
    (hs : siblings.lookup "additionalProperties" = none) (h : r.readNamed c = pure named) :
    Schema.readKeyword read siblings c "properties" r = pure (some (.properties named)) := by
  have horders : Schema.ordersMembers siblings = false := by
    rw [Schema.ordersMembers, hs]
  rw [(dispatches).properties, horders, h]
  rfl

theorem mapM_eq_pure {m : Type → Type} [Monad m] [LawfulMonad m] {α β : Type} {f : α → m β}
    {g : α → β} {l : List α} (h : ∀ x ∈ l, f x = pure (g x)) : l.mapM f = pure (l.map g) := by
  induction l with
  | nil => exact List.mapM_nil
  | cons x l ih =>
    rw [List.mapM_cons, h x List.mem_cons_self, ih fun y hy => h y (List.mem_cons_of_mem x hy)]
    simp

theorem namedReaders_eq_map (members : List (String × Json)) :
    Schema.namedReaders read members =
      members.map fun m => (m.1, m.2, Schema.readSchema read m.2) := by
  induction members with
  | nil => rfl
  | cons m members ih => rw [Schema.namedReaders, ih, List.map_cons]

theorem lookup_readings {members : List (String × Json)} {name : String}
    (h : members.lookup name = none) : (Schema.readings read members).lookup name = none := by
  induction members with
  | nil => rfl
  | cons m members ih =>
    rw [Schema.readings, List.lookup_cons]
    rw [List.lookup_cons] at h
    split at h
    · cases h
    · exact ih h

theorem readNamed_eq (read : Follower) {α : Type} {members : List (String × α)} {f : α → Json}
    {g : α → Schema}
    (hr : r.value = .object (members.map fun m => (m.1, f m.2)))
    (hm : r.members = Schema.namedReaders read (members.map fun m => (m.1, f m.2)))
    (h : ∀ m ∈ members, Schema.readSchema read (f m.2) c = pure (g m.2)) :
    r.readNamed c = pure (members.map fun m => (m.1, g m.2)) := by
  have hnamed : r.named = .ok r.members := by rw [Reading.named, hr]
  have hmap : ((r.members.mapM fun x => do return (x.1, ← x.2.2 c)) :
      Schema.ReadM (List (String × Schema))) = pure (members.map fun m => (m.1, g m.2)) := by
    rw [hm, namedReaders_eq_map, List.mapM_map, List.mapM_map]
    refine mapM_eq_pure fun m hm => ?_
    simp [h m hm]
  unfold Reading.readNamed
  rw [hnamed]
  exact hmap

end

/-- The keywords that the schemas of shapes have. -/
def vocabulary : List String :=
  ["format", "items", "maximum", "minimum", "properties", "required", "title", "type"]

theorem names_orNull (members : List (String × Json)) :
    (orNull members).map (·.1) = members.map (·.1) := by
  induction members with
  | nil => rfl
  | cons m members ih =>
    by_cases htype : m.1 = "type"
    · obtain ⟨name, t⟩ := m
      subst htype
      rfl
    · rw [orNull, List.map_cons, List.map_cons, ih]
      exact fun t he => htype (congrArg Prod.fst he)

theorem names_schemaMembers : ∀ s : Shape, (schemaMembers s).map (·.1) ⊆ vocabulary
  | .bool => by decide
  | .string => by decide
  | .integer t => by
    unfold schemaMembers
    split_ifs <;> simp [vocabulary]
  | .optional s => by
    rw [schemaMembers, names_orNull]
    exact names_schemaMembers s
  | .list s => by simp [schemaMembers, vocabulary]
  | .record .. => by simp [schemaMembers, vocabulary]

theorem fieldSchemas_eq_map (fields : List (String × Shape)) :
    fieldSchemas fields = fields.map fun m => (m.1, .ofMembers (schemaMembers m.2)) := by
  induction fields with
  | nil => rfl
  | cons m fields ih => rw [fieldSchemas, ih, List.map_cons]

theorem fieldKeywords_eq_map (fields : List (String × Shape)) :
    fieldKeywords fields = fields.map fun m => (m.1, .keywords (keywords false m.2)) := by
  induction fields with
  | nil => rfl
  | cons m fields ih => rw [fieldKeywords, ih, List.map_cons]

theorem names_described (nullable : Bool) (s : Shape) :
    (described nullable s).map (·.1) ⊆ vocabulary := by
  unfold described
  split_ifs
  · rw [names_orNull]
    exact names_schemaMembers s
  · exact names_schemaMembers s

theorem lookup_described {name : String} (h : name ∉ vocabulary) (nullable : Bool) (s : Shape) :
    (Json.arrange (described nullable s)).lookup name = none :=
  Json.lookup_eq_none fun hn => h (names_described nullable s (Json.names_arrange_subset _ hn))

section

variable {read : Follower} {c : Context} (hc : c.dialect = .draft2020)
include hc

/-- A schema that does not tell where it is, nor of another dialect, is read where it stands. -/
theorem readSchema_object {members : List (String × Json)} {ks : List Keyword}
    (hd : c.dialect.within (.object members) = .ok .draft2020)
    (hid : members.lookup "$id" = none)
    (h : ReadAs read (Schema.readings read members) c members ks) :
    Schema.readSchema read (.object members) c = pure (.keywords ks) := by
  have hdialect : (c.dialect.within (.object members)).toOption.getD .draft2020 = c.dialect := by
    rw [hd, hc]
    rfl
  have hid' : c.dialect.identifier? (.object members) = none := by
    simp [Schema.Dialect.identifier?, hc, Schema.Dialect.identity, Json.member?, hid]
  have henter : c.enter (.object members) = .ok c := by
    rw [Context.enter, hid']
  have halone : c.dialect.referenceStandsAlone = false := by
    rw [hc]
    rfl
  have hread : Schema.readKeywords read (Schema.readings read members) c []
      (Schema.readings read members) = pure ks := by
    have hempty := h [] []
    rwa [List.append_nil, List.nil_append] at hempty
  have hlift : (liftM (Except.ok c : Except Schema.Fault Context) : Schema.ReadM Context) =
      pure c := rfl
  rw [Schema.readSchema]
  dsimp only
  rw [hdialect, henter, hlift, pure_bind]
  unfold Schema.readMembersOf
  simp only [halone, Bool.false_eq_true, if_false, List.isEmpty_nil, if_true, hread, pure_bind]

theorem readSchema_schemaMembers {s : Shape}
    (h : ∀ siblings : Readings, siblings.lookup "additionalProperties" = none →
      siblings.lookup "prefixItems" = none →
      ReadAs read siblings c (Json.arrange (described false s)) (keywords false s)) :
    Schema.readSchema read (.ofMembers (schemaMembers s)) c =
      pure (.keywords (keywords false s)) := by
  have hschema : (Json.arrange (described false s)).lookup "$schema" = none :=
    lookup_described (by decide) false s
  have hid : (Json.arrange (described false s)).lookup "$id" = none :=
    lookup_described (by decide) false s
  have hd : c.dialect.within (.object (Json.arrange (described false s))) = .ok .draft2020 := by
    rw [Schema.Dialect.within, Json.member?, hschema, hc]
  exact readSchema_object hc hd hid (h _ (lookup_readings (lookup_described (by decide) false s))
    (lookup_readings (lookup_described (by decide) false s)))

theorem readAs_type {siblings : Readings} (nullable : Bool) (kind : Kind) :
    ReadAs read siblings c [("type", typeOf nullable kind)] [.type (kinds nullable kind)] :=
  .one (by decide) (by decide) (readKeyword_type hc rfl)

theorem readAs_integer {siblings : Readings} (nullable : Bool) (t : IntegerType) :
    ReadAs read siblings c (Json.arrange (described nullable (.integer t)))
      (keywords nullable (.integer t)) := by
  have harrange : Json.arrange (described nullable (.integer t)) =
      [("format", .string t.format)] ++
      ((if t.bits < 32 then [("maximum", .number (.integer t.greatest))] else []) ++
      ((if t.signed ∧ 32 ≤ t.bits then [] else [("minimum", .number (.integer t.least))]) ++
      [("type", typeOf nullable .integer)])) := by
    cases nullable
    · change Json.arrange (schemaMembers (.integer t)) = _
      unfold schemaMembers
      split_ifs <;> rfl
    · change Json.arrange (orNull (schemaMembers (.integer t))) = _
      unfold schemaMembers
      split_ifs <;> rfl
  have hkeywords : keywords nullable (.integer t) = [] ++
      ((if t.bits < 32 then [.maximum (.integer t.greatest)] else []) ++
      ((if t.signed ∧ 32 ≤ t.bits then [] else [.minimum (.integer t.least)]) ++
      [.type (kinds nullable .integer)])) := by
    rw [keywords, List.nil_append, List.append_assoc]
  have hformat : ReadAs read siblings c [("format", .string t.format)] [] :=
    .one (by decide) (by decide) (readKeyword_format hc)
  have hmaximum : ReadAs read siblings c [("maximum", .number (.integer t.greatest))]
      [.maximum (.integer t.greatest)] :=
    .one (by decide) (by decide) (readKeyword_maximum hc rfl)
  have hminimum : ReadAs read siblings c [("minimum", .number (.integer t.least))]
      [.minimum (.integer t.least)] :=
    .one (by decide) (by decide) (readKeyword_minimum hc rfl)
  rw [harrange, hkeywords]
  exact hformat.append ((hmaximum.ite .nil).append
    ((ReadAs.ite .nil hminimum).append (readAs_type hc nullable .integer)))

theorem readAs_list {siblings : Readings} {s : Shape} (hs : siblings.lookup "prefixItems" = none)
    (h : Schema.readSchema read (.ofMembers (schemaMembers s)) c =
      pure (.keywords (keywords false s))) (nullable : Bool) :
    ReadAs read siblings c (Json.arrange (described nullable (.list s)))
      (keywords nullable (.list s)) := by
  have harrange : Json.arrange (described nullable (.list s)) =
      [("items", .ofMembers (schemaMembers s))] ++ [("type", typeOf nullable .array)] := by
    cases nullable <;> rfl
  have hitems : ReadAs read siblings c [("items", .ofMembers (schemaMembers s))]
      [.items 0 (.keywords (keywords false s))] :=
    .one (by decide) (by decide) (readKeyword_items hs rfl h)
  rw [harrange, keywords]
  exact hitems.append (readAs_type hc nullable .array)

theorem readAs_record {siblings : Readings} {name : String} {fields : List (String × Shape)}
    (hs : siblings.lookup "additionalProperties" = none) (hn : (fields.map (·.1)).Nodup)
    (h : ∀ m ∈ fields, Schema.readSchema read (.ofMembers (schemaMembers m.2)) c =
      pure (.keywords (keywords false m.2))) (nullable : Bool) :
    ReadAs read siblings c (Json.arrange (described nullable (.record name fields)))
      (keywords nullable (.record name fields)) := by
  have harrange : Json.arrange (described nullable (.record name fields)) =
      [("properties", .ofMembers (fieldSchemas fields))] ++
      ([("required",
        .array ((fields.filter fun (_, s) => !s.isOptional).map fun (n, _) => .string n))] ++
      ([("title", .string name)] ++ [("type", typeOf nullable .object)])) := by
    cases nullable <;> rfl
  have hproperties : ReadAs read siblings c [("properties", .ofMembers (fieldSchemas fields))]
      [.properties (Json.arrange (fieldKeywords fields))] := by
    refine .one (by decide) (by decide) (readKeyword_properties hs ?_)
    have hvalue : Json.ofMembers (fieldSchemas fields) = .object ((Json.arrange fields).map fun m =>
        (m.1, .ofMembers (schemaMembers m.2))) := by
      rw [fieldSchemas_eq_map]
      exact congrArg Json.object
        (Json.arrange_map (fun s => Json.ofMembers (schemaMembers s)) fields)
    have hkeywords : Json.arrange (fieldKeywords fields) = (Json.arrange fields).map fun m =>
        (m.1, .keywords (keywords false m.2)) := by
      rw [fieldKeywords_eq_map]
      exact Json.arrange_map (fun s => Schema.keywords (keywords false s)) fields
    rw [hkeywords]
    refine readNamed_eq read (f := fun s => Json.ofMembers (schemaMembers s))
      (g := fun s => Schema.keywords (keywords false s)) ?_ ?_ ?_
    · exact hvalue
    · exact congrArg (Schema.memberReaders read) hvalue
    · intro m hm
      exact h m ((Json.arrange_perm hn).mem_iff.mp hm)
  have hrequired : ReadAs read siblings c
      [("required",
        .array ((fields.filter fun (_, s) => !s.isOptional).map fun (n, _) => .string n))]
      [.required ((fields.filter fun (_, s) => !s.isOptional).map (·.1))] := by
    refine .one (by decide) (by decide) (readKeyword_required ?_)
    rw [List.map_map]
    rfl
  have htitle : ReadAs read siblings c [("title", .string name)] [] :=
    .one (by decide) (by decide) (readKeyword_unknown (by rw [hc]; rfl))
  rw [harrange, keywords]
  exact hproperties.append (hrequired.append (htitle.append (readAs_type hc nullable .object)))

end

mutual

/-- The schema of a shape is read as what the shape says of a value. -/
theorem readAs_described {read : Follower} {c : Context} (hc : c.dialect = .draft2020)
    {siblings : Readings} (ha : siblings.lookup "additionalProperties" = none)
    (hp : siblings.lookup "prefixItems" = none) :
    ∀ (s : Shape) (nullable : Bool), s.isRegular → (nullable → s.isOptional = false) →
      ReadAs read siblings c (Json.arrange (described nullable s)) (keywords nullable s)
  | .bool, nullable, _, _ => by
    have harrange : Json.arrange (described nullable .bool) =
        [("type", typeOf nullable .boolean)] := by
      cases nullable <;> rfl
    rw [harrange, keywords]
    exact readAs_type hc nullable .boolean
  | .string, nullable, _, _ => by
    have harrange : Json.arrange (described nullable .string) =
        [("type", typeOf nullable .string)] := by
      cases nullable <;> rfl
    rw [harrange, keywords]
    exact readAs_type hc nullable .string
  | .integer t, nullable, _, _ => readAs_integer hc nullable t
  | .optional s, nullable, hs, hn => by
    obtain rfl : nullable = false := by
      cases nullable with
      | false => rfl
      | true => cases hn rfl
    rw [isRegular, Bool.and_eq_true, Bool.not_eq_true'] at hs
    exact readAs_described hc ha hp s true hs.2 fun _ => hs.1
  | .list s, nullable, hs, _ => by
    rw [isRegular] at hs
    have hread : Schema.readSchema read (.ofMembers (schemaMembers s)) c =
        pure (.keywords (keywords false s)) :=
      readSchema_schemaMembers hc fun siblings ha hp => readAs_described hc ha hp s false hs nofun
    exact readAs_list hc hp hread nullable
  | .record name fields, nullable, hs, _ => by
    rw [isRegular, Bool.and_eq_true, decide_eq_true_eq] at hs
    exact readAs_record hc ha hs.1 (readSchema_fields hc fields hs.2) nullable

theorem readSchema_fields {read : Follower} {c : Context} (hc : c.dialect = .draft2020) :
    ∀ fields : List (String × Shape), areRegular fields → ∀ m ∈ fields,
      Schema.readSchema read (.ofMembers (schemaMembers m.2)) c =
        pure (.keywords (keywords false m.2))
  | [], _, _, hm => by cases hm
  | (name, s) :: fields, hs, m, hm => by
    rw [areRegular, Bool.and_eq_true] at hs
    rcases List.mem_cons.mp hm with rfl | hm
    · exact readSchema_schemaMembers hc fun siblings ha hp =>
        readAs_described hc ha hp s false hs.1 nofun
    · exact readSchema_fields hc fields hs.2 m hm

end

/-- The members of the whole schema of a shape. -/
def declared (s : Shape) : List (String × Json) :=
  ("$schema", .string "https://json-schema.org/draft/2020-12/schema") ::
    Json.arrange (described false s)

theorem schema_eq (s : Shape) : s.schema = .object (declared s) := by
  have hfirst : ∀ n ∈ (schemaMembers s).map (·.1), "$schema" < n := by
    have hall : ∀ n ∈ vocabulary, "$schema" < n := by decide
    exact fun n hn => hall n (names_schemaMembers s hn)
  exact congrArg Json.object (Json.arrange_cons hfirst)

theorem lookup_declared {name : String} (hne : name ≠ "$schema") (h : name ∉ vocabulary)
    (s : Shape) : (declared s).lookup name = none := by
  rw [declared, List.lookup_cons, beq_eq_false_iff_ne.mpr hne]
  exact lookup_described h false s

theorem within_schema (d : Schema.Dialect) (s : Shape) : d.within s.schema = .ok .draft2020 := by
  have hname : Schema.Dialect.ofName? (Schema.Dialect.withoutHash
      "https://json-schema.org/draft/2020-12/schema") = some .draft2020 := by cbv
  have hmember : Json.member? "$schema" (.object (declared s)) =
      some (.string "https://json-schema.org/draft/2020-12/schema") := rfl
  simp only [Schema.Dialect.within, schema_eq, hmember, hname]

/-- The whole schema of a shape, its dialect declared, is read likewise. -/
theorem readSchema_schema {read : Follower} {c : Context} (hc : c.dialect = .draft2020) {s : Shape}
    (hs : s.isRegular) :
    Schema.readSchema read s.schema c = pure (.keywords (keywords false s)) := by
  have hunknown : ReadAs read (Schema.readings read (declared s)) c
      [("$schema", .string "https://json-schema.org/draft/2020-12/schema")] [] :=
    .one (by decide) (by decide) (readKeyword_unknown (by rw [hc]; rfl))
  have hrest : ReadAs read (Schema.readings read (declared s)) c (Json.arrange (described false s))
      (keywords false s) :=
    readAs_described hc
      (lookup_readings (lookup_declared (by decide) (by decide) s))
      (lookup_readings (lookup_declared (by decide) (by decide) s)) s false hs nofun
  have hd := within_schema c.dialect s
  rw [schema_eq] at hd ⊢
  exact readSchema_object hc hd (lookup_declared (by decide) (by decide) s)
    (hunknown.append hrest)

theorem readPending_none (read : Follower) (n : Nat) {p : Schema.Progress} (hp : p.pending = []) :
    (Schema.readPending read n).run p = .ok ((), p) := by
  cases n with
  | zero => rfl
  | succ n =>
    unfold Schema.readPending
    simp only [StateT.run_bind, StateT.run_get, pure_bind, hp]
    rfl

theorem document_read {c : Context} (hc : c.dialect = .draft2020) {s : Shape} (hs : s.isRegular) :
    Schema.Document.read c s.schema = .ok ⟨.keywords (keywords false s), []⟩ := by
  unfold Schema.Document.read
  dsimp only
  rw [readSchema_schema hc hs, pure_bind, StateT.run_bind, readPending_none _ _ rfl]
  rfl

/-- A validator that is read from the schema of a shape has but that to go by. -/
theorem document_of_read {s : Shape} (hs : s.isRegular) {k : Validator}
    (h : Validator.read s.schema = .ok k) : k.document = ⟨.keywords (keywords false s), []⟩ := by
  unfold Validator.read Schema.dialectWithin at h
  rw [within_schema] at h
  simp only [bind, Except.bind] at h
  split at h
  · cases h
  · split at h
    · cases h
    · split at h
      · cases h
      · rw [document_read rfl hs] at h
        cases h
        rfl

end Elicit.Shape
