import Elicit.Proofs.Json.Readable

/-! Lists of members: what is found in them by name, and how they come into order. -/
namespace Elicit.Json

variable {α β : Type}

theorem mem_of_lookup {members : List (String × α)} {name : String} {v : α}
    (h : members.lookup name = some v) : (name, v) ∈ members := by
  obtain ⟨before, after, rfl, -⟩ := List.lookup_eq_some_iff.mp h
  exact List.mem_append_right _ List.mem_cons_self

/-- Where each name comes once, every member is found by its name. -/
theorem lookup_of_mem {members : List (String × α)} (hn : (members.map (·.1)).Nodup)
    {name : String} {v : α} (h : (name, v) ∈ members) : members.lookup name = some v := by
  obtain ⟨before, after, rfl⟩ := List.append_of_mem h
  refine List.lookup_eq_some_iff.mpr ⟨before, after, rfl, ?_⟩
  intro m hm
  rw [List.map_append, List.nodup_append] at hn
  have hne : m.1 ≠ name := hn.2.2 m.1 (List.mem_map_of_mem hm) name (by simp)
  simpa using hne.symm

theorem lookup_eq_none {members : List (String × α)} {name : String}
    (h : name ∉ members.map (·.1)) : members.lookup name = none := by
  rw [List.lookup_eq_none_iff]
  intro m hm
  have hne : m.1 ≠ name := fun he => h (he ▸ List.mem_map_of_mem hm)
  simpa using hne.symm

theorem isSome_lookup_iff {members : List (String × α)} {name : String} :
    (members.lookup name).isSome ↔ name ∈ members.map (·.1) := by
  rw [List.lookup_isSome_iff, List.mem_map]
  constructor
  · rintro ⟨m, hm, he⟩
    exact ⟨m, hm, (beq_iff_eq.mp he).symm⟩
  · rintro ⟨m, hm, rfl⟩
    exact ⟨m, hm, beq_self_eq_true _⟩

theorem nodup_names {members : List (String × α)} (h : members.Pairwise fun a b => a.1 < b.1) :
    (members.map (·.1)).Nodup := by
  unfold List.Nodup
  rw [List.pairwise_map]
  exact h.imp fun hlt => hlt.ne

/-- The members by increasing name; the last of several with one name counts. -/
def arrange (members : List (String × α)) : List (String × α) :=
  members.foldl (fun ms (n, v) => insertMember n v ms) []

theorem insertMember_perm {name : String} {value : α} {members : List (String × α)}
    (h : name ∉ members.map (·.1)) :
    (insertMember name value members).Perm ((name, value) :: members) := by
  induction members with
  | nil => exact .refl _
  | cons p rest ih =>
    obtain ⟨n, v⟩ := p
    rw [List.map_cons, List.mem_cons, not_or] at h
    rw [insertMember, if_neg h.1]
    split_ifs
    · exact .refl _
    · exact ((ih h.2).cons (n, v)).trans (.swap _ _ _)

/-- Members with names of their own are put in order and stay the same. -/
theorem arrange_perm {members : List (String × α)} (h : (members.map (·.1)).Nodup) :
    (arrange members).Perm members := by
  have hfold : ∀ before : List (String × α), ((before ++ members).map (·.1)).Nodup →
      (members.foldl (fun ms (n, v) => insertMember n v ms) before).Perm (before ++ members) := by
    clear h
    induction members with
    | nil => simp
    | cons p rest ih =>
      intro before h
      obtain ⟨n, v⟩ := p
      have hfresh : n ∉ before.map (·.1) := by
        rw [List.map_append, List.nodup_append] at h
        exact fun hm => h.2.2 n hm n (by simp) rfl
      have hinsert : (insertMember n v before).Perm ((n, v) :: before) := insertMember_perm hfresh
      have hfirst := (hinsert.append_right rest).trans List.perm_middle.symm
      exact (ih _ ((hfirst.map (·.1)).nodup_iff.mpr h)).trans hfirst
  exact hfold [] h

theorem names_arrange_subset (members : List (String × α)) :
    (arrange members).map (·.1) ⊆ members.map (·.1) := by
  have hfold : ∀ before : List (String × α),
      (members.foldl (fun ms (n, v) => insertMember n v ms) before).map (·.1) ⊆
        before.map (·.1) ++ members.map (·.1) := by
    induction members with
    | nil => simp
    | cons p rest ih =>
      intro before name hname
      rcases List.mem_append.mp (ih _ hname) with h | h
      · obtain ⟨m, hm, rfl⟩ := List.mem_map.mp h
        rcases mem_insertMember hm with rfl | hm
        · simp
        · exact List.mem_append_left _ (List.mem_map_of_mem hm)
      · exact List.mem_append_right _ (List.mem_cons_of_mem _ h)
  exact hfold []

/-- A member of a lesser name than all others comes first. -/
theorem arrange_cons {name : String} {value : α} {members : List (String × α)}
    (h : ∀ n ∈ members.map (·.1), name < n) :
    arrange ((name, value) :: members) = (name, value) :: arrange members := by
  have hfold : ∀ before : List (String × α),
      members.foldl (fun ms (n, v) => insertMember n v ms) ((name, value) :: before) =
        (name, value) :: members.foldl (fun ms (n, v) => insertMember n v ms) before := by
    induction members with
    | nil => intro before; rfl
    | cons p rest ih =>
      intro before
      obtain ⟨n, v⟩ := p
      have hn : name < n := h n (by simp)
      have hfirst : insertMember n v ((name, value) :: before) =
          (name, value) :: insertMember n v before := by
        rw [insertMember, if_neg hn.asymm, if_neg hn.ne']
      rw [List.foldl_cons, List.foldl_cons]
      dsimp only
      rw [hfirst]
      exact ih (fun m hm => h m (List.mem_cons_of_mem _ hm)) _
  exact hfold []

theorem insertMember_map (f : α → β) (name : String) (value : α) (members : List (String × α)) :
    insertMember name (f value) (members.map fun m => (m.1, f m.2)) =
      (insertMember name value members).map fun m => (m.1, f m.2) := by
  induction members with
  | nil => rfl
  | cons p rest ih =>
    obtain ⟨n, v⟩ := p
    simp only [List.map_cons, insertMember]
    split_ifs
    · rfl
    · rfl
    · rw [ih, List.map_cons]

/-- Where members come depends on their names alone. -/
theorem arrange_map (f : α → β) (members : List (String × α)) :
    arrange (members.map fun m => (m.1, f m.2)) =
      (arrange members).map fun m => (m.1, f m.2) := by
  have hfold : ∀ before : List (String × α),
      (members.map fun m => (m.1, f m.2)).foldl (fun ms (n, v) => insertMember n v ms)
        (before.map fun m => (m.1, f m.2)) =
      (members.foldl (fun ms (n, v) => insertMember n v ms) before).map fun m => (m.1, f m.2) := by
    induction members with
    | nil => intro before; rfl
    | cons p rest ih =>
      intro before
      simp only [List.map_cons, List.foldl_cons, insertMember_map, ih]
  exact hfold []

end Elicit.Json
