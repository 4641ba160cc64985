import Elicit.Proofs.Run.Call
import Mathlib.Data.List.Induction

/-! Settings that are changed one step after another: each field holds what was written to it last,
a change that fails leaves everything as it was, and changes to different fields may be made in
either order. -/
namespace Elicit.Settings

variable {σ : Type}

/-- The fields of settings. -/
inductive Field where
  | target
  | request
  | schema
  | generator
  | maxRetries
  | delay
  | errorCallback
  | observer
  | acceptance
  | quoteLimit
  deriving DecidableEq, Repr

/-- What a field holds. -/
abbrev Field.Value (σ : Type) : Field → Type
  | .target => String
  | .request => String
  | .schema => Option String
  | .generator => Option (Generator σ)
  | .maxRetries => Nat
  | .delay => RetryDelay
  | .errorCallback => Option ErrorCallback
  | .observer => Option Observer
  | .acceptance => Option (Acceptance σ)
  | .quoteLimit => Nat

/-- What settings hold in a field. -/
def get (s : Settings σ) : (f : Field) → f.Value σ
  | .target => s.target
  | .request => s.request
  | .schema => s.schema
  | .generator => s.generator
  | .maxRetries => s.maxRetries
  | .delay => s.delay
  | .errorCallback => s.errorCallback
  | .observer => s.observer
  | .acceptance => s.acceptance
  | .quoteLimit => s.quoteLimit

/-- Nothing but the fields tells settings apart. -/
theorem ext_get {s s' : Settings σ} (h : ∀ f, s.get f = s'.get f) : s = s' := by
  cases s
  cases s'
  rw [Settings.mk.injEq]
  exact ⟨h .target, h .request, h .schema, h .generator, h .maxRetries, h .delay,
    h .errorCallback, h .observer, h .acceptance, h .quoteLimit⟩

/-- What a change writes to a field, if it writes to that one. A source that is no JSON schema is
not written anywhere. -/
def Change.writes? : Change σ → (f : Field) → Option (f.Value σ)
  | .schema description, .schema => some (some description)
  | .jsonSchema source, .schema => (Validator.read source).toOption.map fun _ => some source.pretty
  | .jsonSchema source, .acceptance =>
    (Validator.read source).toOption.map fun k => some (acceptanceOf k)
  | .maxRetries n, .maxRetries => some n
  | .delay d, .delay => some (.fixed d)
  | .backoff base max, .delay => some (.exponential base max)
  | .generator g, .generator => some (some g)
  | .sharedGenerator g, .generator => some (some g)
  | .errorCallback f, .errorCallback => some (some f)
  | .observer o, .observer => some (some o)
  | .acceptance k, .acceptance => some (some k)
  | .quoteLimit n, .quoteLimit => some n
  | _, _ => none

/-- The settings after a change, or as they were if it fails. -/
def changed (s : Settings σ) (c : Change σ) : Settings σ := (s.change c).toOption.getD s

/-- The settings after changes that are made one after another, those that fail passed over. -/
def changedBy (s : Settings σ) (cs : List (Change σ)) : Settings σ := cs.foldl changed s

/-- Only a source that is no JSON schema makes a change fail, whatever the settings are. -/
theorem change_eq_error_iff {s : Settings σ} {c : Change σ} {e : RunError} :
    s.change c = .error e ↔ ∃ source fault, c = .jsonSchema source ∧
      Validator.read source = .error fault ∧ e = .invalid (.badSchema fault) := by
  cases c with
  | jsonSchema source =>
    cases h : Validator.read source with
    | error fault => simp [change, h, eq_comm]
    | ok k => simp [change, h]
  | _ => simp [change]

theorem changed_of_error {s : Settings σ} {c : Change σ} {e : RunError}
    (h : s.change c = .error e) : s.changed c = s := by
  rw [changed, h]
  rfl

/-- A change has the say in the fields that it writes to, and in no others. -/
theorem get_changed (s : Settings σ) (c : Change σ) (f : Field) :
    (s.changed c).get f = (c.writes? f).getD (s.get f) := by
  cases c with
  | jsonSchema source =>
    cases h : Validator.read source with
    | error fault =>
      rw [changed_of_error (change_eq_error_iff.mpr ⟨source, fault, rfl, h, rfl⟩)]
      cases f <;> simp [Change.writes?, h, Except.toOption]
    | ok k => cases f <;> simp [changed, change, Change.writes?, get, h, Except.toOption]
  | _ => cases f <;> rfl

theorem changedBy_append (s : Settings σ) (before after : List (Change σ)) :
    s.changedBy (before ++ after) = (s.changedBy before).changedBy after :=
  List.foldl_append

theorem get_changedBy (s : Settings σ) (cs : List (Change σ)) (f : Field) :
    (s.changedBy cs).get f = ((cs.filterMap (·.writes? f)).getLast?).getD (s.get f) := by
  induction cs using List.reverseRecOn with
  | nil => rfl
  | append_singleton cs c ih =>
    rw [changedBy_append, List.filterMap_append]
    refine (get_changed _ c f).trans ?_
    cases h : c.writes? f with
    | none =>
      simp only [List.filterMap_cons, List.filterMap_nil, h, List.append_nil, ← ih]
      rfl
    | some v =>
      simp only [List.filterMap_cons, List.filterMap_nil, h, List.getLast?_concat]
      rfl

theorem get_changedBy_of_unwritten (s : Settings σ) {cs : List (Change σ)} (f : Field)
    (h : ∀ c ∈ cs, c.writes? f = none) : (s.changedBy cs).get f = s.get f := by
  rw [get_changedBy, List.filterMap_eq_nil_iff.mpr h]
  rfl

/-- No change writes to the target. -/
theorem target_changedBy (s : Settings σ) (cs : List (Change σ)) :
    (s.changedBy cs).target = s.target :=
  get_changedBy_of_unwritten s .target fun c _ => by cases c <;> rfl

/-- Nor does any to the request. -/
theorem request_changedBy (s : Settings σ) (cs : List (Change σ)) :
    (s.changedBy cs).request = s.request :=
  get_changedBy_of_unwritten s .request fun c _ => by cases c <;> rfl

/-- The generator that a change brings. -/
def Change.generator? : Change σ → Option (Generator σ)
  | .generator g | .sharedGenerator g => some g
  | _ => none

theorem generator_changedBy (s : Settings σ) (cs : List (Change σ)) :
    (s.changedBy cs).generator = ((cs.filterMap Change.generator?).getLast?).or s.generator := by
  have hwrites : ∀ c : Change σ, c.writes? .generator = c.generator?.map some :=
    fun c => by cases c <;> rfl
  have hget := get_changedBy s cs .generator
  simp only [hwrites, ← List.map_filterMap, List.getLast?_map] at hget
  refine hget.trans ?_
  cases (cs.filterMap Change.generator?).getLast? <;> rfl

theorem isSome_generator_changedBy (s : Settings σ) (cs : List (Change σ)) :
    (s.changedBy cs).generator.isSome ↔
      s.generator.isSome ∨ ∃ c ∈ cs, c.generator?.isSome := by
  have hlast : ((cs.filterMap Change.generator?).getLast?).isSome ↔
      ∃ c ∈ cs, c.generator?.isSome := by
    rw [List.getLast?_isSome, Ne, List.filterMap_eq_nil_iff]
    simp [Option.ne_none_iff_isSome]
  rw [generator_changedBy, Option.isSome_or, Bool.or_eq_true, hlast, or_comm]

theorem changed_comm (s : Settings σ) {c d : Change σ}
    (h : ∀ f, c.writes? f = none ∨ d.writes? f = none) :
    (s.changed c).changed d = (s.changed d).changed c := by
  refine ext_get fun f => ?_
  rw [get_changed, get_changed, get_changed, get_changed]
  rcases h f with hc | hd
  · rw [hc]
    rfl
  · rw [hd]
    rfl

/-- Changes that are made one after another until one fails all go through just when none fails. -/
theorem foldlM_change_eq_ok_iff {s s' : Settings σ} {cs : List (Change σ)} :
    cs.foldlM change s = .ok s' ↔ (∀ c ∈ cs, ∀ e, s.change c ≠ .error e) ∧ s' = s.changedBy cs := by
  induction cs generalizing s with
  | nil => simp [changedBy, pure, Except.pure, eq_comm]
  | cons c cs ih =>
    rw [List.foldlM_cons]
    cases h : s.change c with
    | error e => simp [bind, Except.bind, h]
    | ok s₁ =>
      have hchanged : s.changed c = s₁ := by
        rw [changed, h]
        rfl
      have hfails : ∀ d e, s₁.change d ≠ .error e ↔ s.change d ≠ .error e := fun d e => by
        rw [Ne, Ne, change_eq_error_iff, change_eq_error_iff]
      refine ih.trans ?_
      simp only [hfails, List.forall_mem_cons, h, changedBy, List.foldl_cons, hchanged]
      simp

/-- After changes, made one after another, a field holds what was written to it last, if anything
was; the target and the request are never written. A change fails only if it is to bring a JSON
schema and its source is none; then it is as if it had not been made. Neighbouring changes that
write to no field in common may change places. So a run is allowed when the request is not blank
and a generator was there or has been brought, the last one brought being the one that is used, and
a blank request is what is objected to first. -/
theorem changedBy_last_written (s : Settings σ) (cs : List (Change σ)) :
    let s' := s.changedBy cs
    (∀ f, s'.get f = ((cs.filterMap (·.writes? f)).getLast?).getD (s.get f)) ∧
    s'.target = s.target ∧ s'.request = s.request ∧
    (∀ s'', cs.foldlM change s = .ok s'' ↔
      (∀ c ∈ cs, ∀ e, s.change c ≠ .error e) ∧ s'' = s') ∧
    (∀ c e, s.change c = .error e ↔ ∃ source fault, c = .jsonSchema source ∧
      Validator.read source = .error fault ∧ e = .invalid (.badSchema fault)) ∧
    (∀ before c after e, s.change c = .error e →
      s.changedBy (before ++ c :: after) = s.changedBy (before ++ after)) ∧
    (∀ before c d after, (∀ f, c.writes? f = none ∨ d.writes? f = none) →
      s.changedBy (before ++ c :: d :: after) = s.changedBy (before ++ d :: c :: after)) ∧
    (∀ g, s'.check = .ok g ↔ (∃ c ∈ s.request.toList, ¬ Text.isBlank c) ∧
      ((cs.filterMap Change.generator?).getLast?).or s.generator = some g) ∧
    ((∃ g, s'.check = .ok g) ↔ (∃ c ∈ s.request.toList, ¬ Text.isBlank c) ∧
      (s.generator.isSome ∨ ∃ c ∈ cs, c.generator?.isSome)) ∧
    ((∀ c ∈ s.request.toList, Text.isBlank c) → s'.check = .error (.blankPrompt s.target)) := by
  intro s'
  have hblank : ¬ Text.isBlankText s'.request ↔ ∃ c ∈ s.request.toList, ¬ Text.isBlank c := by
    rw [request_changedBy, Text.isBlankText, List.all_eq_true]
    push Not
    rfl
  refine ⟨get_changedBy s cs, target_changedBy s cs, request_changedBy s cs,
    fun _ => foldlM_change_eq_ok_iff, fun _ _ => change_eq_error_iff, ?_, ?_, ?_, ?_, ?_⟩
  · intro before c after e h
    have hfails : (s.changedBy before).change c = .error e :=
      change_eq_error_iff.mpr (change_eq_error_iff.mp h)
    rw [changedBy_append, changedBy_append]
    exact congrArg (changedBy · after) (changed_of_error hfails)
  · intro before c d after h
    rw [changedBy_append, changedBy_append]
    exact congrArg (changedBy · after) (changed_comm _ h)
  · intro g
    rw [Run.check_eq_ok_iff, hblank, generator_changedBy]
  · rw [← isSome_generator_changedBy, Option.isSome_iff_exists, ← exists_and_left]
    exact exists_congr fun g => by rw [Run.check_eq_ok_iff, hblank]
  · intro h
    have hall : Text.isBlankText s'.request := by
      rw [request_changedBy]
      exact List.all_eq_true.mpr h
    rw [check, if_pos hall, target_changedBy]

/-- Of two descriptions the schema's own is left, the wait is the one set last, and what is no
schema changes nothing, not even between changes that are swapped. -/
theorem changedBy_last_written_samples :
    let s : Settings Nat := initial "list" "A list, please."
    let described : List (Change Nat) := [.schema "A list.", .jsonSchema (.bool true)]
    let delayed : List (Change Nat) := [.delay .zero, .backoff .zero .longest]
    let s' := s.changedBy (described ++ .jsonSchema (.string "") :: delayed)
    s'.schema = some "true" ∧ s'.delay = .exponential .zero .longest ∧
    s' = s.changedBy (described ++ delayed) ∧
    s.changedBy ([.generator Run.busyOnce] ++ .quoteLimit 9 :: .sharedGenerator Run.mute :: []) =
      s.changedBy ([.generator Run.busyOnce] ++ .sharedGenerator Run.mute :: .quoteLimit 9 :: []) ∧
    (s.changedBy [.generator Run.busyOnce, .sharedGenerator Run.mute]).check = .ok Run.mute ∧
    ((initial "list" " " : Settings Nat).changedBy described).check =
      .error (.blankPrompt "list") := by
  intro s described delayed s'
  obtain ⟨k, hk⟩ : ∃ k, Validator.read (.bool true) = .ok k := by
    have h : (Validator.read (.bool true)).toBool := by decide +kernel
    cases hk : Validator.read (.bool true) with
    | error fault => rw [hk] at h; cases h
    | ok k => exact ⟨k, rfl⟩
  obtain ⟨fault, hfault⟩ : ∃ fault, Validator.read (.string "") = .error fault := by
    have h : ¬ (Validator.read (.string "")).toBool := by decide +kernel
    cases hk : Validator.read (.string "") with
    | error fault => exact ⟨fault, rfl⟩
    | ok k => rw [hk] at h; exact absurd rfl h
  obtain ⟨hget, -, -, -, hfails, hskip, -⟩ :=
    changedBy_last_written s (described ++ .jsonSchema (.string "") :: delayed)
  obtain ⟨-, -, -, -, -, -, hswap, -⟩ := changedBy_last_written s []
  obtain ⟨-, -, -, -, -, -, -, hcheck, -⟩ :=
    changedBy_last_written s [.generator Run.busyOnce, .sharedGenerator Run.mute]
  obtain ⟨-, -, -, -, -, -, -, -, -, hblank⟩ :=
    changedBy_last_written (initial "list" " " : Settings Nat) described
  have hspace : ∀ c ∈ " ".toList, Text.isBlank c := List.all_eq_true.mp (by decide)
  refine ⟨?_, ?_, ?_, ?_, ?_, hblank hspace⟩
  · have hwritten : (described ++ .jsonSchema (.string "") :: delayed).filterMap
        (·.writes? .schema) = [some "A list.", some (Json.bool true).pretty] := by
      simp [described, delayed, Change.writes?, hk, hfault, Except.toOption]
    exact (hget .schema).trans (by rw [hwritten]; rfl)
  · exact (hget .delay).trans rfl
  · exact hskip _ _ _ _ ((hfails _ _).mpr ⟨_, fault, rfl, hfault, rfl⟩)
  · exact hswap _ _ _ _ fun f => by cases f <;> simp [Change.writes?]
  · exact (hcheck Run.mute).mpr ⟨⟨'A', by decide, by decide⟩, rfl⟩

end Elicit.Settings
