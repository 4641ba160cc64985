import Elicit.Proofs.Json.Scalar

/-! The compact and the indented text of a readable value are read as that value, provided that
the text of each of its binary64 numbers is. -/
namespace Elicit.Json

mutual

/-- The binary64 numbers within a value. -/
def doubles : Json → List Binary64
  | .number (.double x) => [x]
  | .array items => itemsDoubles items
  | .object members => membersDoubles members
  | _ => []

/-- The binary64 numbers within the items. -/
def itemsDoubles : List Json → List Binary64
  | [] => []
  | item :: items => item.doubles ++ itemsDoubles items

/-- The binary64 numbers within the members. -/
def membersDoubles : List (String × Json) → List Binary64
  | [] => []
  | (_, value) :: members => value.doubles ++ membersDoubles members

end

/-- The number's text is read as that number. -/
def RoundTrips (x : Binary64) : Prop := read (x.text .mixed) = .ok (.number (.double x))

theorem Spells.append_blanks {depth : Nat} {bs cs : List Char} {v : Json}
    (hb : ∀ b ∈ bs, isBlank b) (h : Spells depth cs v) : Spells depth (bs ++ cs) v := by
  intro frames hd
  obtain ⟨s, hs, hv⟩ := h frames hd
  exact ⟨s, (reaches_blanks rfl hb).trans hs, hv⟩

theorem isBlank_nil : ∀ b ∈ ([] : List Char), isBlank b := by simp

theorem isBlank_space : ∀ b ∈ [' '], isBlank b := by simp [isBlank]

/-- Where an array expects an item, with the items before it, latest first. -/
def Mode.ExpectsItem (m : Mode) (before : List Json) : Prop :=
  m = .firstItem ∧ before = [] ∨ m = .nextItem before

/-- Where an object expects a member, with the members before it. -/
def Mode.ExpectsMember (m : Mode) (before : List (String × Json)) : Prop :=
  m = .firstName ∧ before = [] ∨ m = .nextName before

theorem delimiter_of_end {bs : List Char} (hb : ∀ b ∈ bs, isBlank b) {c : Char}
    (hc : isDelimiter c) : ∃ d ds, bs ++ [c] = d :: ds ∧ isDelimiter d := by
  rcases bs with - | ⟨b, bs⟩
  · exact ⟨c, [], rfl, hc⟩
  · exact ⟨b, bs ++ [c], rfl, by simp [isDelimiter, hb b (by simp)]⟩

/-- The rest of an array whose items are written with commas between them. -/
theorem reaches_items {frames : List Frame} {text : Json → List Char} {bs : List Char}
    (hb : ∀ b ∈ bs, isBlank b) {items before : List Json} {m : Mode}
    (hm : m.ExpectsItem before) (hne : items ≠ [])
    (h : ∀ v ∈ items, Spells (frames.length + 1) (text v) v) :
    Reaches ⟨frames, m⟩ ([','].intercalate (items.map text) ++ (bs ++ [']']))
      (complete frames (.array (before.reverse ++ items))) := by
  induction items generalizing before m with
  | nil => exact absurd rfl hne
  | cons v items ih =>
    obtain ⟨s, hs, hv⟩ := h v (by simp) (.array before :: frames) rfl
    have hitem : Reaches ⟨frames, m⟩ (text v) s := reaches_item hm hs hv.ne_value
    -- a number ends only with what follows it, so either a bracket or a comma is read with the item
    rcases items with - | ⟨w, items⟩
    · obtain ⟨d, ds, hds, hd⟩ := delimiter_of_end hb (c := ']') rfl
      have hend : Reaches ⟨frames, .afterItem (v :: before)⟩ (bs ++ [']'])
          (complete frames (.array (v :: before).reverse)) :=
        (reaches_blanks rfl hb).trans rfl
      rw [List.map_singleton, List.intercalate_singleton, ← List.reverse_cons]
      refine hitem.trans ?_
      rw [hds] at hend ⊢
      exact hv.reaches hd hend
    · have hexpects : Mode.ExpectsItem (.nextItem (v :: before)) (v :: before) := .inr rfl
      have hrest := ih hexpects (by simp) fun u hu => h u (by simp [hu])
      have hcomma : Reaches ⟨frames, .afterItem (v :: before)⟩
          (',' :: ([','].intercalate ((w :: items).map text) ++ (bs ++ [']'])))
          (complete frames (.array ((v :: before).reverse ++ w :: items))) :=
        Reaches.cons rfl hrest
      rw [List.reverse_cons, List.append_assoc] at hcomma
      rw [List.map_cons, List.map_cons, List.intercalate_cons_cons, List.append_assoc,
        List.append_assoc]
      exact hitem.trans (hv.reaches rfl hcomma)

/-- A member put among members of lesser names comes last. -/
theorem insertMember_of_lt {α : Type} {name : String} {value : α} {members : List (String × α)}
    (h : ∀ m ∈ members, m.1 < name) :
    insertMember name value members = members ++ [(name, value)] := by
  induction members with
  | nil => rfl
  | cons p rest ih =>
    obtain ⟨n, w⟩ := p
    have hn : n < name := h (n, w) (by simp)
    rw [insertMember, if_neg hn.asymm, if_neg hn.ne', ih fun m hm => h m (by simp [hm]),
      List.cons_append]

/-- A name is read where an object expects a member. -/
theorem reaches_name {frames : List Frame} {m : Mode} {before : List (String × Json)}
    (hm : m.ExpectsMember before) (name : String) :
    Reaches ⟨frames, m⟩ (stringText name) ⟨frames, .colon before name⟩ := by
  refine Reaches.cons (m := ⟨frames, .text (.name before) [] .none⟩) ?_
    (reaches_text frames (.name before) name)
  rcases hm with ⟨rfl, rfl⟩ | rfl <;> rfl

/-- The text of a member: its name after some blanks, a colon, and a text that spells its value. -/
def SpellsMember (depth : Nat) (cs : List Char) (m : String × Json) : Prop :=
  ∃ bs rest, cs = bs ++ stringText m.1 ++ ':' :: rest ∧ (∀ b ∈ bs, isBlank b) ∧
    Spells depth rest m.2

/-- The rest of an object whose members are written with commas between them. -/
theorem reaches_members {frames : List Frame} {text : String × Json → List Char}
    {bs : List Char} (hb : ∀ b ∈ bs, isBlank b) {members before : List (String × Json)} {m : Mode}
    (hm : m.ExpectsMember before) (hne : members ≠ [])
    (hs : (before ++ members).Pairwise fun a b => a.1 < b.1)
    (h : ∀ p ∈ members, SpellsMember (frames.length + 1) (text p) p) :
    Reaches ⟨frames, m⟩ ([','].intercalate (members.map text) ++ (bs ++ ['}']))
      (complete frames (.object (before ++ members))) := by
  induction members generalizing before m with
  | nil => exact absurd rfl hne
  | cons p members ih =>
    obtain ⟨name, v⟩ := p
    obtain ⟨blanks, rest, htext, hblanks, hrest⟩ := h (name, v) (by simp)
    obtain ⟨s, hs', hv⟩ := hrest (.object before name :: frames) rfl
    have hbetween : m.isBetween := by rcases hm with ⟨rfl, -⟩ | rfl <;> rfl
    have hmember : Reaches ⟨frames, m⟩ (text (name, v)) s := by
      rw [htext]
      exact ((reaches_blanks hbetween hblanks).trans (reaches_name hm name)).trans
        (Reaches.cons rfl hs')
    have hlast : insertMember name v before = before ++ [(name, v)] :=
      insertMember_of_lt fun q hq => (List.pairwise_append.mp hs).2.2 q hq (name, v) (by simp)
    have hdone : complete (.object before name :: frames) v =
        ⟨frames, .afterMember (before ++ [(name, v)])⟩ := by
      rw [← hlast]
      rfl
    rcases members with - | ⟨q, members⟩
    · obtain ⟨d, ds, hds, hd⟩ := delimiter_of_end hb (c := '}') rfl
      have hend : Reaches (complete (.object before name :: frames) v) (bs ++ ['}'])
          (complete frames (.object (before ++ [(name, v)]))) := by
        rw [hdone]
        exact (reaches_blanks rfl hb).trans rfl
      rw [List.map_singleton, List.intercalate_singleton]
      refine hmember.trans ?_
      rw [hds] at hend ⊢
      exact hv.reaches hd hend
    · rw [← List.singleton_append, ← List.append_assoc] at hs
      have hexpects : Mode.ExpectsMember (.nextName (before ++ [(name, v)]))
          (before ++ [(name, v)]) := .inr rfl
      have hrest := ih hexpects (by simp) hs fun u hu => h u (by simp [hu])
      have hcomma : Reaches (complete (.object before name :: frames) v)
          (',' :: ([','].intercalate ((q :: members).map text) ++ (bs ++ ['}'])))
          (complete frames (.object (before ++ [(name, v)] ++ q :: members))) := by
        rw [hdone]
        exact Reaches.cons rfl hrest
      rw [List.append_assoc] at hcomma
      rw [List.map_cons, List.map_cons, List.intercalate_cons_cons, List.append_assoc,
        List.append_assoc]
      exact hmember.trans (hv.reaches rfl hcomma)

theorem step_opener {frames : List Frame} (hd : frames.length < maxDepth) :
    step ⟨frames, .value⟩ '[' = .ok ⟨frames, .firstItem⟩ ∧
      step ⟨frames, .value⟩ '{' = .ok ⟨frames, .firstName⟩ :=
  ⟨if_pos hd, if_pos hd⟩

theorem spells_array {depth : Nat} (hd : depth < maxDepth) (text : Json → List Char)
    {bs : List Char} (hb : ∀ b ∈ bs, isBlank b) {items : List Json} (hne : items ≠ [])
    (h : ∀ v ∈ items, Spells (depth + 1) (text v) v) :
    Spells depth ('[' :: ([','].intercalate (items.map text) ++ (bs ++ [']']))) (.array items) := by
  rintro frames rfl
  exact ⟨complete frames (.array items),
    Reaches.cons (step_opener hd).1 (reaches_items hb (.inl ⟨rfl, rfl⟩) hne h), .inl rfl⟩

theorem read_singleton {cs : List Char} {v : Json} (h : Spells 1 cs v) :
    read ('[' :: cs ++ [']']) = .ok (.array [v]) := by
  have harray := spells_array (by decide : 0 < maxDepth) (fun _ => cs) isBlank_nil
    (List.cons_ne_nil v []) fun w hw => by rwa [List.mem_singleton.mp hw]
  simpa using harray.read

theorem spells_object {depth : Nat} (hd : depth < maxDepth) {text : String × Json → List Char}
    {bs : List Char} (hb : ∀ b ∈ bs, isBlank b) {members : List (String × Json)}
    (hne : members ≠ []) (hs : members.Pairwise fun a b => a.1 < b.1)
    (h : ∀ m ∈ members, SpellsMember (depth + 1) (text m) m) :
    Spells depth ('{' :: ([','].intercalate (members.map text) ++ (bs ++ ['}'])))
      (.object members) := by
  rintro frames rfl
  exact ⟨complete frames (.object members),
    Reaches.cons (step_opener hd).2 (reaches_members hb (.inl ⟨rfl, rfl⟩) hne hs h), .inl rfl⟩

theorem spells_empty {depth : Nat} (hd : depth < maxDepth) :
    Spells depth ['[', ']'] (.array []) ∧ Spells depth ['{', '}'] (.object []) := by
  constructor
  · rintro frames rfl
    exact ⟨_, Reaches.cons (step_opener hd).1 rfl, .inl rfl⟩
  · rintro frames rfl
    exact ⟨_, Reaches.cons (step_opener hd).2 rfl, .inl rfl⟩

theorem compactItems_eq (items : List Json) :
    compactItems items = [','].intercalate (items.map compactText) := by
  induction items with
  | nil => rfl
  | cons item items ih =>
    rcases items with - | ⟨next, items⟩
    · simp [compactItems]
    · rw [compactItems, ih] <;> simp

theorem compactMembers_eq (members : List (String × Json)) : compactMembers members =
    [','].intercalate (members.map fun m => stringText m.1 ++ ':' :: compactText m.2) := by
  induction members with
  | nil => rfl
  | cons member members ih =>
    rcases members with - | ⟨next, members⟩
    · simp [compactMembers]
    · rw [compactMembers, ih] <;> simp

theorem prettyItems_eq (level : Nat) (items : List Json) : prettyItems level items =
    [','].intercalate (items.map fun v => newLine level ++ prettyText level v) := by
  induction items with
  | nil => rfl
  | cons item items ih =>
    rcases items with - | ⟨next, items⟩
    · simp [prettyItems]
    · rw [prettyItems, ih] <;> simp

theorem prettyMembers_eq (level : Nat) (members : List (String × Json)) :
    prettyMembers level members = [','].intercalate (members.map fun m =>
      newLine level ++ stringText m.1 ++ ':' :: ' ' :: prettyText level m.2) := by
  induction members with
  | nil => rfl
  | cons member members ih =>
    rcases members with - | ⟨next, members⟩
    · simp [prettyMembers]
    · rw [prettyMembers, ih] <;> simp

theorem mem_itemsDoubles {x : Binary64} {v : Json} {items : List Json} (hv : v ∈ items)
    (hx : x ∈ v.doubles) : x ∈ itemsDoubles items := by
  induction items with
  | nil => cases hv
  | cons item items ih =>
    rw [itemsDoubles, List.mem_append]
    rcases List.mem_cons.mp hv with rfl | hv
    · exact .inl hx
    · exact .inr (ih hv)

theorem mem_membersDoubles {x : Binary64} {m : String × Json} {members : List (String × Json)}
    (hm : m ∈ members) (hx : x ∈ m.2.doubles) : x ∈ membersDoubles members := by
  induction members with
  | nil => cases hm
  | cons member members ih =>
    rw [membersDoubles, List.mem_append]
    rcases List.mem_cons.mp hm with rfl | hm
    · exact .inl hx
    · exact .inr (ih hm)

theorem isBlank_newLine (level : Nat) : ∀ b ∈ newLine level, isBlank b := by
  intro b hb
  rcases List.mem_cons.mp hb with rfl | hb
  · rfl
  · rw [List.eq_of_mem_replicate hb]
    rfl

theorem spells_scalar {depth : Nat} {v : Json} (h : Readable depth v)
    (hv : v.isContainer = false) (hx : ∀ x ∈ v.doubles, RoundTrips x) :
    Spells depth (scalarText v) v := by
  cases h with
  | null => exact spells_word .null _
  | @bool _ b =>
    cases b with
    | true => exact spells_word .true _
    | false => exact spells_word .false _
  | integer hl hu => exact spells_integer hl hu _
  | double => exact spells_number (isNumeric_text _ _) (hx _ (by simp [doubles])) _
  | string => exact spells_string _ _
  | array => cases hv
  | object => cases hv

/-- The compact text of a readable value spells it. -/
theorem spells_compact {depth : Nat} {v : Json} (h : Readable depth v)
    (hx : ∀ x ∈ v.doubles, RoundTrips x) : Spells depth v.compactText v := by
  induction h with
  | null => exact spells_scalar .null rfl hx
  | bool => exact spells_scalar .bool rfl hx
  | integer hl hu => exact spells_scalar (.integer hl hu) rfl hx
  | double => exact spells_scalar .double rfl hx
  | string => exact spells_scalar .string rfl hx
  | @array depth items hd _ ih =>
    rw [compactText, compactItems_eq]
    by_cases hne : items = []
    · subst hne
      exact (spells_empty hd).1
    · exact spells_array hd compactText isBlank_nil hne
        fun v hv => ih v hv fun x hxv => hx x (mem_itemsDoubles hv hxv)
  | @object depth members hd hs _ ih =>
    rw [compactText, compactMembers_eq]
    by_cases hne : members = []
    · subst hne
      exact (spells_empty hd).2
    · refine spells_object hd isBlank_nil hne hs fun m hm => ?_
      exact ⟨[], _, rfl, by simp, ih m hm fun x hxv => hx x (mem_membersDoubles hm hxv)⟩

/-- The indented text of a readable value spells it. -/
theorem spells_pretty {depth : Nat} {v : Json} (h : Readable depth v)
    (hx : ∀ x ∈ v.doubles, RoundTrips x) (level : Nat) : Spells depth (v.prettyText level) v := by
  induction h generalizing level with
  | null => exact spells_scalar .null rfl hx
  | bool => exact spells_scalar .bool rfl hx
  | integer hl hu => exact spells_scalar (.integer hl hu) rfl hx
  | double => exact spells_scalar .double rfl hx
  | string => exact spells_scalar .string rfl hx
  | @array depth items hd _ ih =>
    by_cases hne : items = []
    · subst hne
      exact (spells_empty hd).1
    · rw [prettyText, prettyItems_eq, List.cons_append, List.cons_append, List.append_assoc]
      · refine spells_array hd _ (isBlank_newLine level) hne fun v hv => ?_
        exact (ih v hv (fun x hxv => hx x (mem_itemsDoubles hv hxv)) _).append_blanks
          (isBlank_newLine _)
      · exact hne
  | @object depth members hd hs _ ih =>
    by_cases hne : members = []
    · subst hne
      exact (spells_empty hd).2
    · rw [prettyText, prettyMembers_eq, List.cons_append, List.cons_append, List.append_assoc]
      · refine spells_object hd (isBlank_newLine level) hne hs fun m hm => ?_
        exact ⟨newLine (level + 1), _, rfl, isBlank_newLine _,
          (ih m hm (fun x hxv => hx x (mem_membersDoubles hm hxv)) _).append_blanks isBlank_space⟩
      · exact hne

end Elicit.Json
