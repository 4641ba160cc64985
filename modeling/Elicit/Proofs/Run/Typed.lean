import Elicit.Proofs.Extraction.Exact
import Elicit.Proofs.Run.Course
import Elicit.Proofs.Shape.Fit

/-! Runs whose documents are checked against the schema of a shape, and then read by the shape. -/
namespace Elicit

variable {σ : Type}

/-- The settings check documents as those for a shape do, whatever else has been changed. -/
def Settings.ChecksShape (s : Settings σ) (shape : Shape) : Prop :=
  ∃ target request, ∃ derived : Settings σ,
    Settings.forShape shape target request = .ok derived ∧ s.acceptance = derived.acceptance

/-- The document does not have the shape that it is read by. -/
def IsMisfit {α : Type} (result : Except RunError α) : Prop :=
  ∃ e, result = .error e ∧ e.kind = .misfit

namespace Run

variable {s : Settings σ} {generate : Generator σ}

theorem forShape_eq {shape : Shape} {k : Validator} (h : Validator.read shape.schema = .ok k)
    (target request : String) : Settings.forShape shape target request =
      .ok { Settings.initial target request with
        schema := some shape.schema.pretty
        acceptance := some (Settings.acceptanceOf k (σ := σ)) } := by
  unfold Settings.forShape Settings.change
  dsimp only
  rw [h]

theorem acceptance_of_checksShape {shape : Shape} (h : s.ChecksShape shape) :
    ∃ k, Validator.read shape.schema = .ok k ∧ s.acceptance = some (Settings.acceptanceOf k) := by
  obtain ⟨target, request, derived, hd, ha⟩ := h
  cases hk : Validator.read shape.schema with
  | error fault =>
    unfold Settings.forShape Settings.change at hd
    dsimp only at hd
    rw [hk] at hd
    cases hd
  | ok k =>
    rw [forShape_eq hk] at hd
    cases hd
    exact ⟨k, rfl, ha⟩

/-- A run itself gives no misfit, and its document is one that was accepted. -/
theorem result_attemptsWithin (memory : Memory) (s : Settings σ) (generate : Generator σ)
    (remaining : Nat) (p : Progress) (st : σ) :
    let run := attemptsWithin memory s generate remaining p st
    ¬ IsMisfit run.result ∧ ∀ x, run.result = .ok x → ∃ c response found after,
      Accepts s generate c response found after ∧ found.document = x.document := by
  refine attemptsWithin_induct memory (P := fun _ _ _ run => ¬ IsMisfit run.result ∧
    ∀ x, run.result = .ok x → ∃ c response found after,
      Accepts s generate c response found after ∧ found.document = x.document)
    ?accepted ?refused ?surrendered ?retried remaining p st
  case accepted =>
    intro remaining p st response found after h
    refine ⟨?_, ?_⟩
    · rintro ⟨e, he, -⟩
      cases he
    · rintro x ⟨⟩
      exact ⟨_, _, _, _, h, rfl⟩
  case refused =>
    intro remaining p st failure response after use r _ _
    refine ⟨?_, nofun⟩
    rintro ⟨e, ⟨⟩, hkind⟩
    cases hkind
  case surrendered =>
    intro p st failure response after h
    refine ⟨?_, nofun⟩
    rintro ⟨e, ⟨⟩, hkind⟩
    unfold finalError at hkind
    split at hkind <;> cases hkind
  case retried =>
    intro remaining p st failure response after rest _ ih
    exact ih

theorem result_elicitWithin (memory : Memory) (s : Settings σ) (st : σ) :
    let run := elicitWithin memory s st
    ¬ IsMisfit run.result ∧ ∀ x, run.result = .ok x → ∃ generate c response found after,
      Accepts s generate c response found after ∧ found.document = x.document := by
  unfold elicitWithin
  cases s.check with
  | error cause =>
    refine ⟨?_, nofun⟩
    rintro ⟨e, ⟨⟩, hkind⟩
    cases hkind
  | ok generate =>
    obtain ⟨hmisfit, hok⟩ :=
      result_attemptsWithin memory s generate (s.maxAttempts - 1) (Progress.start s) st
    exact ⟨hmisfit, fun x hx => ⟨generate, hok x hx⟩⟩

/-- The document of a run that checks it against the schema of a shape is admitted by the shape. -/
theorem admits_of_result {shape : Shape} (hs : shape.isRegular) (h : s.ChecksShape shape)
    {memory : Memory} {st : σ} {x : Elicited} (hx : (elicitWithin memory s st).result = .ok x) :
    shape.Admits x.document ∧ Json.Readable 0 x.document := by
  obtain ⟨k, hk, hacceptance⟩ := acceptance_of_checksShape h
  obtain ⟨generate, c, response, found, after, haccepts, hdocument⟩ :=
    (result_elicitWithin memory s st).2 x hx
  rw [← hdocument]
  cases haccepts with
  | unchecked _ _ ha =>
    rw [ha] at hacceptance
    cases hacceptance
  | checked _ hfound ha hc =>
    rw [ha] at hacceptance
    cases hacceptance
    obtain ⟨cs, hcs⟩ := Extraction.exists_read_of_extract hfound
    exact ⟨(Shape.errors_eq_nil_iff hs hk).mp (congrArg Prod.fst hc), Json.readable_of_read hcs⟩

/-- The document of such a run is a misfit when the shape cannot hold a number in it. -/
theorem isMisfit_fit_iff {shape : Shape} (hs : shape.isRegular) (h : s.ChecksShape shape)
    (memory : Memory) (st : σ) :
    IsMisfit ((elicitWithin memory s st).fit shape) ↔ ∃ x,
      (elicitWithin memory s st).result = .ok x ∧ shape.Slips x.document := by
  have hmisfit := (result_elicitWithin memory s st).1
  have hadmits : ∀ x, (elicitWithin memory s st).result = .ok x →
      shape.Admits x.document ∧ Json.Readable 0 x.document := fun x hx => admits_of_result hs h hx
  unfold Run.fit
  cases hresult : (elicitWithin memory s st).result with
  | error e =>
    rw [hresult] at hmisfit
    constructor
    · rintro ⟨e', ⟨⟩, hkind⟩
      exact absurd ⟨e, rfl, hkind⟩ hmisfit
    · rintro ⟨x, ⟨⟩, -⟩
  | ok x =>
    obtain ⟨hadmits, hreadable⟩ := hadmits x hresult
    have hfits : shape.Fits x.document ↔ ¬ shape.Slips x.document :=
      Shape.fits_iff shape hs hreadable hadmits
    have hfit : IsMisfit (x.fit shape) ↔ ¬ shape.Fits x.document := by
      unfold Elicited.fit Shape.Fits IsMisfit
      cases shape.read x.document with
      | error m => simp [RunError.kind]
      | ok w => simp
    change IsMisfit (x.fit shape) ↔ _
    rw [hfit, hfits, not_not]
    constructor
    · exact fun hslips => ⟨x, rfl, hslips⟩
    · rintro ⟨x', ⟨⟩, hslips⟩
      exact hslips

theorem not_slips_flag {v : Json} : ¬ Shape.flag.Slips v := by
  rw [Shape.flag, Shape.slips_record_iff]
  simp [Shape.Slips]

/-- The schema has no upper bound for the line, and takes a whole number in any spelling. -/
theorem slips_review_iff {v : Json} (h : Shape.review.Admits v) : Shape.review.Slips v ↔
    ∃ n, v.member? "line" = some (.number n) ∧ ∀ i, n = .integer i → 4294967295 < i := by
  have hline : ∀ value, v.member? "line" = some value →
      ((Shape.integer ⟨false, 32⟩).Slips value ↔
        ∃ n, value = .number n ∧ ∀ i, n = .integer i → 4294967295 < i) := by
    intro value hvalue
    obtain ⟨n, rfl, hbounds⟩ := h.member (s := .integer ⟨false, 32⟩) (by simp) hvalue
    have hn : ¬ IntegerType.Holds ⟨false, 32⟩ n ↔ ∀ i, n = .integer i → 4294967295 < i :=
      hbounds.not_holds_iff (by decide)
    simp only [Shape.Slips, Json.number.injEq, exists_eq_left', hn]
  rw [Shape.review, Shape.slips_record_iff]
  simp only [List.mem_cons, List.not_mem_nil, or_false, exists_eq_or_imp, exists_eq_left]
  constructor
  · rintro (⟨value, -, hslips⟩ | ⟨value, hvalue, hslips⟩)
    · exact absurd hslips (by simp [Shape.Slips])
    · obtain ⟨n, rfl, hn⟩ := (hline value hvalue).mp hslips
      exact ⟨n, hvalue, hn⟩
  · rintro ⟨n, hvalue, hn⟩
    exact .inr ⟨_, hvalue, (hline _ hvalue).mpr ⟨n, rfl, hn⟩⟩

/-- The schema takes a whole number in any spelling. -/
theorem slips_profile_iff {v : Json} (h : Shape.profile.Admits v) : Shape.profile.Slips v ↔
    ∃ x, v.member? "age" = some (.number (.double x)) := by
  have hage : ∀ value, v.member? "age" = some value →
      ((Shape.optional (.integer ⟨false, 8⟩)).Slips value ↔ ∃ x, value = .number (.double x)) := by
    intro value hvalue
    have hadmits := h.member (s := .optional (.integer ⟨false, 8⟩)) (by simp) hvalue
    rw [Shape.Slips]
    rcases hadmits with rfl | ⟨n, rfl, hbounds⟩
    · simp [Shape.Slips]
    · have hn : ¬ IntegerType.Holds ⟨false, 8⟩ n ↔ ∀ i, n = .integer i → 255 < i :=
        hbounds.not_holds_iff (by decide)
      simp only [Shape.Slips, Json.number.injEq, exists_eq_left', hn]
      cases n with
      | integer i =>
        have hle : i ≤ 255 := hbounds.of_integer.1 (by decide)
        simpa using hle
      | double x => simp
  rw [Shape.profile, Shape.slips_record_iff]
  simp only [List.mem_cons, List.not_mem_nil, or_false, exists_eq_or_imp, exists_eq_left]
  constructor
  · rintro (⟨value, -, hslips⟩ | ⟨value, hvalue, hslips⟩ | ⟨value, -, hslips⟩)
    · exact absurd hslips (by simp [Shape.Slips])
    · obtain ⟨x, rfl⟩ := (hage value hvalue).mp hslips
      exact ⟨x, hvalue⟩
    · exact absurd hslips (by simp [Shape.Slips])
  · rintro ⟨x, hvalue⟩
    exact .inr (.inl ⟨_, hvalue, (hage _ hvalue).mpr ⟨x, rfl⟩⟩)

theorem read_schema {shape : Shape} (h : shape ∈ [Shape.flag, .review, .profile]) :
    ∃ k, Validator.read shape.schema = .ok k := by
  have hread : ∀ shape ∈ [Shape.flag, .review, .profile],
      (Validator.read shape.schema).toBool := by decide +kernel
  specialize hread shape h
  cases hk : Validator.read shape.schema with
  | error fault =>
    rw [hk] at hread
    cases hread
  | ok k => exact ⟨k, rfl⟩

/-- A run for a flag never gives a misfit. One for a line under review gives one just when the line
of its document is past the greatest number of 32 bits or is a binary64 number, and one for a
profile just when the age is a binary64 number; the schemas let both by. -/
theorem isMisfit_fit (memory : Memory) (s : Settings σ) (st : σ) :
    let run := elicitWithin memory s st
    (∀ shape ∈ [Shape.flag, .review, .profile], ∀ target request, ∃ derived : Settings σ,
      Settings.forShape shape target request = .ok derived) ∧
    (s.ChecksShape .flag → ¬ IsMisfit (run.fit .flag)) ∧
    (s.ChecksShape .review → (IsMisfit (run.fit .review) ↔ ∃ x n, run.result = .ok x ∧
      x.document.member? "line" = some (.number n) ∧ ∀ i, n = .integer i → 4294967295 < i)) ∧
    (s.ChecksShape .profile → (IsMisfit (run.fit .profile) ↔ ∃ x y, run.result = .ok x ∧
      x.document.member? "age" = some (.number (.double y)))) := by
  intro run
  refine ⟨?_, ?_, ?_, ?_⟩
  · intro shape hshape target request
    obtain ⟨k, hk⟩ := read_schema hshape
    exact ⟨_, forShape_eq hk target request⟩
  · intro h
    rw [isMisfit_fit_iff rfl h]
    rintro ⟨x, -, hslips⟩
    exact not_slips_flag hslips
  · intro h
    rw [isMisfit_fit_iff rfl h]
    refine exists_congr fun x => ?_
    rw [exists_and_left]
    refine and_congr_right fun hx => ?_
    exact slips_review_iff (admits_of_result rfl h hx).1
  · intro h
    rw [isMisfit_fit_iff rfl h]
    refine exists_congr fun x => ?_
    rw [exists_and_left]
    refine and_congr_right fun hx => ?_
    exact slips_profile_iff (admits_of_result rfl h hx).1

/-- The settings for a shape, with a generator that gives the same response to every prompt. -/
def answering (shape : Shape) (response : String) : Except RunError (Settings Unit) := do
  let derived ← Settings.forShape shape "sample" "A sample, please."
  return { derived with generator := some fun _ st => (.ok response, st) }

/-- The first response is accepted if it holds a document that the shape admits. -/
theorem exists_answering {shape : Shape} (hs : shape.isRegular)
    (hshape : shape ∈ [Shape.flag, .review, .profile]) {response : String} {x : Extraction}
    (hx : extract response = .ok x) (ha : shape.Admits x.document) :
    ∃ s m, answering shape response = .ok s ∧ s.ChecksShape shape ∧
      (elicitWithin .ample s ()).result = .ok ⟨x.document, 1, x.stage, m⟩ := by
  obtain ⟨k, hk⟩ := read_schema hshape
  have hderived := forShape_eq (σ := Unit) hk "sample" "A sample, please."
  obtain ⟨s, hanswering, hacceptance, hcheck⟩ : ∃ s, answering shape response = .ok s ∧
      s.acceptance = some (Settings.acceptanceOf k) ∧
      s.check = .ok fun _ st => (.ok response, st) := by
    have hrequest : ¬ Text.isBlankText "A sample, please." := by decide
    rw [answering, hderived]
    exact ⟨_, rfl, rfl, check_eq_ok_iff.mpr ⟨hrequest, rfl⟩⟩
  have haccepted : Settings.acceptanceOf k x.document () = ([], ()) :=
    congrArg (·, ()) ((Shape.errors_eq_nil_iff hs hk).mpr ha)
  have haccepts : Accepts s (fun _ st => (.ok response, st)) ⟨s.initialPrompt, ()⟩ response x () :=
    .checked rfl hx hacceptance haccepted
  have hrun := attempts_of_accepts (p := Progress.start s) haccepts (s.maxAttempts - 1)
  refine ⟨s, (Progress.start s).count (some response), hanswering,
    ⟨_, _, _, hderived, hacceptance⟩, ?_⟩
  rw [elicitWithin_ample, elicit, hcheck]
  exact congrArg Run.result hrun

theorem admits_review {i : Int} (h : 0 ≤ i) : Shape.review.Admits
    (.object [("file", .string "a.rs"), ("line", .number (.integer i))]) := by
  have hbounds : IntegerType.Bounds ⟨false, 32⟩ (.integer i) := by
    refine ⟨rfl, nofun, fun _ => ?_⟩
    simpa [Json.Number.compare, Json.Number.fraction, IntegerType.least, compare_lt_iff_lt] using h
  simpa [Shape.review, Shape.Admits, Shape.AdmitsFields, List.lookup] using hbounds

/-- A zero is read as a binary64 number when its exponent is that large. -/
theorem isMisfit_fit_samples :
    (∃ s, answering .flag "\x7b\"ok\": true\x7d" = .ok s ∧ s.ChecksShape .flag ∧
      ¬ IsMisfit ((elicitWithin .ample s ()).fit .flag)) ∧
    (∃ s, answering .review "\x7b\"file\": \"a.rs\", \"line\": 5000000000\x7d" = .ok s ∧
      s.ChecksShape .review ∧ IsMisfit ((elicitWithin .ample s ()).fit .review)) ∧
    ∃ s, answering .profile
        "\x7b\"name\": \"A\", \"age\": 0e9999999999, \"tags\": []\x7d" = .ok s ∧
      s.ChecksShape .profile ∧ IsMisfit ((elicitWithin .ample s ()).fit .profile) := by
  refine ⟨?_, ?_, ?_⟩
  · have hx : extract "\x7b\"ok\": true\x7d" = .ok ⟨.object [("ok", .bool true)], .scanned⟩ := by
      cbv
    have ha : Shape.flag.Admits (.object [("ok", .bool true)]) := by
      simp [Shape.flag, Shape.Admits, Shape.AdmitsFields]
    obtain ⟨s, m, hs, hchecks, -⟩ := exists_answering rfl (by simp) hx ha
    exact ⟨s, hs, hchecks, (isMisfit_fit .ample s ()).2.1 hchecks⟩
  · have hx : extract "\x7b\"file\": \"a.rs\", \"line\": 5000000000\x7d" =
        .ok ⟨.object [("file", .string "a.rs"), ("line", .number (.integer 5000000000))],
          .scanned⟩ := by cbv
    obtain ⟨s, m, hs, hchecks, hresult⟩ :=
      exists_answering rfl (by simp) hx (admits_review (by decide))
    exact ⟨s, hs, hchecks, ((isMisfit_fit .ample s ()).2.2.1 hchecks).mpr
      ⟨_, _, hresult, rfl, by rintro _ ⟨⟩; decide⟩⟩
  · have hx : extract "\x7b\"name\": \"A\", \"age\": 0e9999999999, \"tags\": []\x7d" =
        .ok ⟨.object [("age", .number (.double (.zero false))), ("name", .string "A"),
          ("tags", .array [])], .scanned⟩ := by cbv
    have ha : Shape.profile.Admits (.object [("age", .number (.double (.zero false))),
        ("name", .string "A"), ("tags", .array [])]) := by
      have hbounds := IntegerType.bounds_zero ⟨false, 8⟩ false
      simpa [Shape.profile, Shape.Admits, Shape.AdmitsFields, List.lookup] using hbounds
    obtain ⟨s, m, hs, hchecks, hresult⟩ := exists_answering rfl (by simp) hx ha
    exact ⟨s, hs, hchecks, ((isMisfit_fit .ample s ()).2.2.2 hchecks).mpr ⟨_, _, hresult, rfl⟩⟩

/-- The schema of a line has no upper bound for numbers of 32 bits. -/
theorem isMisfit_line_too_great :
    ∃ s, answering .review "\x7b\"file\": \"a.rs\", \"line\": 4294967296\x7d" = .ok s ∧
      s.ChecksShape .review ∧ IsMisfit ((elicit s ()).fit .review) := by
  have hx : extract "\x7b\"file\": \"a.rs\", \"line\": 4294967296\x7d" =
      .ok ⟨.object [("file", .string "a.rs"), ("line", .number (.integer 4294967296))],
        .scanned⟩ := by cbv
  have ha := admits_review (i := 4294967296) (by decide)
  obtain ⟨s, m, hs, hchecks, hresult⟩ := exists_answering rfl (by simp) hx ha
  have hslips := (slips_review_iff ha).mpr ⟨_, rfl, by rintro _ ⟨⟩; decide⟩
  have hmisfit := (isMisfit_fit_iff rfl hchecks .ample ()).mpr ⟨_, hresult, hslips⟩
  rw [elicitWithin_ample] at hmisfit
  exact ⟨s, hs, hchecks, hmisfit⟩

end Run

end Elicit
