import Elicit.Proofs.Extraction.Fragment

/-! A document after prose. Every bracket of the prose is tried before the document is, whether it
is quoted or not; only where nothing can be read from any of them is the document itself reached. -/
namespace Elicit.Extraction

/-- The object or array that starts first among those that start at a bracket in `front`, where
`rest` follows `front`. -/
def firstIn? : List Char → List Char → Option Json
  | [], _ => none
  | c :: front, rest =>
    (if Region.isOpener c then (c :: front ++ rest).inits.findSome? container? else none).or
      (firstIn? front rest)

theorem firstContainer?_cons_of_not_isOpener {c : Char} (hc : ¬ Region.isOpener c)
    (cs : List Char) : firstContainer? (c :: cs) = firstContainer? cs := by
  rw [← scan_toOption, scan_cons_toOption, if_neg hc, scan_toOption]
  rfl

theorem firstContainer?_append (front rest : List Char) :
    firstContainer? (front ++ rest) = (firstIn? front rest).or (firstContainer? rest) := by
  induction front with
  | nil => rfl
  | cons c front ih =>
    rw [firstIn?, List.cons_append]
    split_ifs with hc
    · rw [firstContainer?_cons, ih, Option.or_assoc]
    · rw [firstContainer?_cons_of_not_isOpener hc, ih]
      rfl

theorem firstIn?_append (front middle rest : List Char) :
    firstIn? (front ++ middle) rest =
      (firstIn? front (middle ++ rest)).or (firstIn? middle rest) := by
  induction front with
  | nil => rfl
  | cons c front ih =>
    rw [List.cons_append, firstIn?, firstIn?, ih, Option.or_assoc, List.cons_append,
      List.cons_append, List.append_assoc]

theorem firstIn?_of_no_opener {front : List Char} (h : ∀ c ∈ front, ¬ Region.isOpener c)
    (rest : List Char) : firstIn? front rest = none := by
  induction front with
  | nil => rfl
  | cons c front ih =>
    rw [firstIn?, if_neg (h c (by simp)), ih fun d hd => h d (by simp [hd])]
    rfl

theorem not_isOpener_of_textBlank {c : Char} (h : Text.isBlank c) : ¬ Region.isOpener c := by
  intro ho
  rcases (by simpa [Region.isOpener] using ho : c = '{' ∨ c = '[') with rfl | rfl <;> cases h

theorem firstContainer?_append_blanks {back : List Char} (h : ∀ c ∈ back, Text.isBlank c)
    (cs : List Char) : firstContainer? (cs ++ back) = firstContainer? cs := by
  -- blanks close no bracket, so that every region stays as it is
  have hcloser : ∀ c ∈ back, c ≠ '}' ∧ c ≠ ']' := by
    intro c hc
    constructor <;> rintro rfl <;> cases h _ hc
  induction cs with
  | nil =>
    have hback := firstContainer?_append back []
    rwa [List.append_nil, firstIn?_of_no_opener fun c hc => not_isOpener_of_textBlank (h c hc)]
      at hback
  | cons c cs ih =>
    have hbalanced : Region.balanced? (c :: (cs ++ back)) = Region.balanced? (c :: cs) :=
      Region.takeFrom_append hcloser (c :: cs)
    rw [← scan_toOption, ← scan_toOption, List.cons_append, scan_cons_toOption,
      scan_cons_toOption, hbalanced, scan_toOption, scan_toOption, ih]

theorem firstContainer?_trim (cs : List Char) :
    firstContainer? (Text.trim cs) = firstContainer? cs := by
  obtain ⟨back, hback, hblank⟩ := Text.exists_trimEnd_append (Text.trimStart cs)
  have hstart : firstContainer? (Text.trimStart cs) = firstContainer? cs := by
    have hfront : ∀ c ∈ cs.takeWhile Text.isBlank, ¬ Region.isOpener c :=
      fun c hc => not_isOpener_of_textBlank (List.mem_takeWhile_imp hc)
    have hsplit := firstContainer?_append (cs.takeWhile Text.isBlank) (Text.trimStart cs)
    rw [Text.trimStart, List.takeWhile_append_dropWhile, firstIn?_of_no_opener hfront] at hsplit
    exact hsplit.symm
  rw [← hstart, hback, firstContainer?_append_blanks hblank, Text.trim]

/-- What is extracted from a response that is read as a value of any kind. -/
def exactValue (response : String) (v : Json) : Extraction :=
  match fenced? response, firstContainer? response.toList with
  | some w, _ => ⟨w, .fenced⟩
  | none, some w => ⟨w, .scanned⟩
  | none, none => ⟨v, .verbatim⟩

theorem extract_eq_exactValue {response : String} {v : Json}
    (h : Json.read (Text.trim response.toList) = .ok v) :
    extract response = .ok (exactValue response v) := by
  have hne : (Text.trim response.toList).isEmpty = false := by
    cases hcs : Text.trim response.toList with
    | nil => rw [hcs] at h; cases h
    | cons c cs => rfl
  rw [exactValue, ← firstContainer?_trim, ← scan_toOption, fenced?, extract]
  simp only [ofTrimmed, hne, h]
  cases firstFenced (Fence.blocks (Text.trim response.toList)) with
  | ok w => rfl
  | error faults => cases scan (Text.trim response.toList) <;> rfl

theorem extract_of_firstContainer? {response : String} {v : Json}
    (hfence : ¬ Fence.marker <:+: response.toList)
    (h : firstContainer? response.toList = some v) : extract response = .ok ⟨v, .scanned⟩ := by
  have hscan : (scan (Text.trim response.toList)).toOption = some v := by
    rw [scan_toOption, firstContainer?_trim, h]
  have hnone := fenced?_eq_none hfence
  rw [fenced?] at hnone
  rw [extract, ofTrimmed_of_scan hscan, hnone]

/-- No object or array stands in the text, and from none of its brackets can the reader go on to
what follows it. -/
structure Inert (text : List Char) : Prop where
  holdsNone : ∀ part, part <:+: text → container? part = none
  beginsNone : ∀ c rest t, c :: rest <:+ text → Region.isOpener c → ¬ Json.Reaches .start (c :: rest) t

theorem Inert.tail {c : Char} {text : List Char} (h : Inert (c :: text)) : Inert text where
  holdsNone := fun part hpart => h.holdsNone part (List.infix_cons hpart)
  beginsNone := fun d rest t hrest => h.beginsNone d rest t (hrest.trans (List.suffix_cons c text))

/-- Nothing that starts in an inert text is an object or array, whatever follows the text. -/
theorem Inert.firstIn?_eq_none {text : List Char} (h : Inert text) (rest : List Char) :
    firstIn? text rest = none := by
  induction text with
  | nil => rfl
  | cons c text ih =>
    rw [firstIn?, ih h.tail, Option.or_none]
    split_ifs with hc
    · rw [List.findSome?_eq_none_iff]
      intro part hinit
      have hpart := (List.mem_inits _ _).mp hinit
      -- a part ends within the text, which holds none, or is read beyond it
      rcases List.prefix_or_prefix_of_prefix hpart (List.prefix_append _ _) with
        hin | ⟨more, rfl⟩
      · exact h.holdsNone part hin.isInfix
      · by_contra hne
        obtain ⟨v, hv⟩ := Option.ne_none_iff_exists'.mp hne
        obtain ⟨t, ht, -⟩ := Json.read_eq_ok_iff.mp (container?_eq_some_iff.mp hv).1
        obtain ⟨m, hm, -⟩ := Json.reaches_append.mp ht
        exact h.beginsNone c text m (List.suffix_refl _) hc hm
    · rfl

/-- Prose in which quotes open and close in turn, with the texts between them, and in which all
brackets that open are quoted. -/
inductive QuotedProse : List (List Char) → List Char → Prop
  | plain {cs : List Char} (h : ∀ c ∈ cs, c ≠ '"' ∧ ¬ Region.isOpener c) : QuotedProse [] cs
  | quoted {before text rest : List Char} {texts : List (List Char)}
    (hbefore : ∀ c ∈ before, c ≠ '"' ∧ ¬ Region.isOpener c) (htext : '"' ∉ text)
    (hrest : QuotedProse texts rest) :
    QuotedProse (text :: texts) (before ++ '"' :: (text ++ '"' :: rest))

theorem firstIn?_quote (front rest : List Char) :
    firstIn? ('"' :: front) rest = firstIn? front rest := rfl

theorem QuotedProse.firstIn?_eq_none {texts : List (List Char)} {front : List Char}
    (h : QuotedProse texts front) (hinert : ∀ text ∈ texts, Inert text) (rest : List Char) :
    firstIn? front rest = none := by
  induction h with
  | plain h => exact firstIn?_of_no_opener (fun c hc => (h c hc).2) rest
  | @quoted before text after texts hbefore htext hafter ih =>
    have htext := (hinert text (by simp)).firstIn?_eq_none ('"' :: after ++ rest)
    have hafter := ih fun text ht => hinert text (by simp [ht])
    rw [firstIn?_append, firstIn?_of_no_opener (fun c hc => (hbefore c hc).2), firstIn?_quote,
      firstIn?_append, htext, firstIn?_quote, hafter]
    rfl

theorem firstIn?_ne_none_of_opener {front core : List Char} {c : Char} {v : Json}
    (hcore : c :: core <:+: front) (hc : Region.isOpener c) (hv : container? (c :: core) = some v)
    (rest : List Char) : firstIn? front rest ≠ none := by
  induction front with
  | nil => simp at hcore
  | cons d front ih =>
    rw [firstIn?]
    intro hnone
    rw [Option.or_eq_none_iff] at hnone
    rcases List.infix_cons_iff.mp hcore with hstart | hin
    · obtain ⟨rfl, -⟩ := List.cons_prefix_cons.mp hstart
      rw [if_pos hc, List.findSome?_eq_none_iff] at hnone
      have hpart := (List.mem_inits _ _).mpr (hstart.trans (List.prefix_append _ rest))
      rw [hnone.1 _ hpart] at hv
      cases hv
    · exact ih hin hnone.2

theorem firstIn?_ne_none {front part : List Char} (hpart : part <:+: front)
    (hne : container? part ≠ none) (rest : List Char) : firstIn? front rest ≠ none := by
  obtain ⟨v, hv⟩ := Option.ne_none_iff_exists'.mp hne
  obtain ⟨blanks, c, core, back, rfl, -, -, hc, hcore, -⟩ := exists_core hv
  exact firstIn?_ne_none_of_opener (List.IsInfix.trans ⟨blanks, back, rfl⟩ hpart) hc hcore rest

theorem QuotedProse.isInfix {texts : List (List Char)} {front : List Char}
    (h : QuotedProse texts front) : ∀ text ∈ texts, text <:+: front := by
  induction h with
  | plain => simp
  | @quoted before text after texts _ _ _ ih =>
    intro other hother
    rcases List.mem_cons.mp hother with rfl | hother
    · exact ⟨before ++ ['"'], '"' :: after, by simp⟩
    · exact (ih other hother).trans ⟨before ++ '"' :: (text ++ ['"']), [], by simp⟩

/-- After prose whose brackets are all quoted a document is extracted if those brackets are inert.
Otherwise what can be read from the first of them goes first, as it does when an object or array is
quoted. In the same way a response that is a string gives way to a container in it, and to a fenced
block. -/
theorem extract_after_prose :
    (∀ (front text back : String) (texts : List (List Char)) (v : Json),
      QuotedProse texts front.toList → Json.read text.toList = .ok v → v.isContainer →
      ¬ Fence.marker <:+: (front ++ text ++ back).toList →
      extract (front ++ text ++ back) =
        .ok ⟨(firstIn? front.toList (text ++ back).toList).getD v, .scanned⟩ ∧
      ((∀ quoted ∈ texts, Inert quoted) →
        extract (front ++ text ++ back) = .ok ⟨v, .scanned⟩) ∧
      ((∃ quoted ∈ texts, ∃ part, part <:+: quoted ∧ container? part ≠ none) →
        ∃ w, firstIn? front.toList (text ++ back).toList = some w ∧
          extract (front ++ text ++ back) = .ok ⟨w, .scanned⟩)) ∧
    (∀ (response w : String), Json.read (Text.trim response.toList) = .ok (.string w) →
      extract response = .ok (exactValue response (.string w))) := by
  refine ⟨?_, fun response w hw => extract_eq_exactValue hw⟩
  intro front text back texts v hfront hread hv hfence
  have hfirst : firstContainer? (front ++ text ++ back).toList =
      some ((firstIn? front.toList (text ++ back).toList).getD v) := by
    have htext : firstContainer? (text ++ back).toList = some v := by
      rw [← scan_toOption, String.toList_append]
      exact scan_of_isPrefix (List.prefix_append _ _) (container?_eq_some_iff.mpr ⟨hread, hv⟩)
    rw [String.append_assoc, String.toList_append, firstContainer?_append, htext, Option.or_some]
  have hextract := extract_of_firstContainer? hfence hfirst
  refine ⟨hextract, ?_, ?_⟩
  · intro hinert
    rw [hextract, hfront.firstIn?_eq_none hinert]
    rfl
  · rintro ⟨quoted, hquoted, part, hpart, hne⟩
    have hin := hpart.trans (hfront.isInfix quoted hquoted)
    obtain ⟨w, hw⟩ := Option.ne_none_iff_exists'.mp (firstIn?_ne_none hin hne _)
    rw [hextract, hw]
    exact ⟨w, rfl, rfl⟩

theorem inert_draft : Inert "[draft]".toList where
  holdsNone := firstContainer?_eq_none_iff.mp (by rw [← scan_toOption]; cbv)
  beginsNone := by
    intro c rest t hsuffix ho hreach
    have hchars : "[draft]".toList = ['[', 'd', 'r', 'a', 'f', 't', ']'] := rfl
    simp only [hchars, List.suffix_cons_iff, List.suffix_nil, List.cons.injEq, reduceCtorEq,
      or_false] at hsuffix
    rcases hsuffix with ⟨rfl, rfl⟩ | hother
    · cases hreach
    · rcases hother with ⟨rfl, -⟩ | ⟨rfl, -⟩ | ⟨rfl, -⟩ | ⟨rfl, -⟩ | ⟨rfl, -⟩ | ⟨rfl, -⟩ <;> cases ho

theorem extract_after_prose_samples :
    extract ("The \"[draft]\" is replaced by " ++ "\x7b\"final\": 1\x7d" ++ ".") =
      .ok ⟨.object [("final", .number (.integer 1))], .scanned⟩ ∧
    extract ("Put \"[\" and \"]\" around " ++ "[1]" ++ "") =
      .ok ⟨.array [.string " and "], .scanned⟩ ∧
    extract ("Not \"[1]\" but " ++ "[2]" ++ "") =
      .ok ⟨.array [.number (.integer 1)], .scanned⟩ ∧
    extract "\"a [b\"" = .ok ⟨.string "a [b", .verbatim⟩ := by
  obtain ⟨hprose, hstring⟩ := extract_after_prose
  have hdraft : QuotedProse ["[draft]".toList] "The \"[draft]\" is replaced by ".toList :=
    @QuotedProse.quoted "The ".toList "[draft]".toList " is replaced by ".toList []
      (by simp [Region.isOpener]) (by decide) (.plain (by simp [Region.isOpener]))
  have hbrackets : QuotedProse ["[".toList, "]".toList] "Put \"[\" and \"]\" around ".toList :=
    @QuotedProse.quoted "Put ".toList "[".toList " and \"]\" around ".toList ["]".toList]
      (by simp [Region.isOpener]) (by decide)
      (@QuotedProse.quoted " and ".toList "]".toList " around ".toList []
        (by simp [Region.isOpener]) (by decide) (.plain (by simp [Region.isOpener])))
  have harray : QuotedProse ["[1]".toList] "Not \"[1]\" but ".toList :=
    @QuotedProse.quoted "Not ".toList "[1]".toList " but ".toList []
      (by simp [Region.isOpener]) (by decide) (.plain (by simp [Region.isOpener]))
  obtain ⟨-, hinert, -⟩ := hprose _ "\x7b\"final\": 1\x7d" "." _
    (.object [("final", .number (.integer 1))]) hdraft (by cbv) rfl (by decide)
  obtain ⟨hfirst, -, -⟩ := hprose _ "[1]" "" _ (.array [.number (.integer 1)]) hbrackets (by cbv)
    rfl (by decide)
  obtain ⟨-, -, hquoted⟩ := hprose _ "[2]" "" _ (.array [.number (.integer 2)]) harray (by cbv)
    rfl (by decide)
  refine ⟨?_, ?_, ?_, ?_⟩
  · refine hinert fun quoted hq => ?_
    rw [List.mem_singleton.mp hq]
    exact inert_draft
  · rw [hfirst]
    cbv
  · have hone : container? "[1]".toList = some (.array [.number (.integer 1)]) := by cbv
    obtain ⟨w, hfirst, hw⟩ := hquoted ⟨_, List.mem_singleton.mpr rfl, _, List.infix_refl _,
      by rw [hone]; exact Option.some_ne_none _⟩
    have hin : firstIn? "Not \"[1]\" but ".toList ("[2]" ++ "").toList =
        some (.array [.number (.integer 1)]) := by cbv
    rw [hw, Option.some.inj (hfirst.symm.trans hin)]
  · rw [hstring "\"a [b\"" "a [b" (by cbv)]
    cbv

/-- What is quoted before a document may be read in its place, and a string may give way to a part
of itself. -/
theorem extract_quoted_brackets :
    (¬ ∀ (front text back : String) (texts : List (List Char)) (v : Json),
      QuotedProse texts front.toList → Json.read text.toList = .ok v → v.isContainer →
      ¬ Fence.marker <:+: (front ++ text ++ back).toList →
      extract (front ++ text ++ back) = .ok ⟨v, .scanned⟩) ∧
    (¬ ∀ response w : String, Json.read (Text.trim response.toList) = .ok (.string w) →
      ∃ stage, extract response = .ok ⟨.string w, stage⟩) := by
  constructor
  · intro h
    have hprose : QuotedProse ["[1]".toList] "The \"[1]\" is replaced by ".toList :=
      @QuotedProse.quoted "The ".toList "[1]".toList " is replaced by ".toList []
        (by simp [Region.isOpener]) (by decide) (.plain (by simp [Region.isOpener]))
    have hfinal := h _ "\x7b\"final\": 1\x7d" "" _ (.object [("final", .number (.integer 1))])
      hprose (by cbv) rfl (by decide)
    have hquoted : extract ("The \"[1]\" is replaced by " ++ "\x7b\"final\": 1\x7d" ++ "") =
        .ok ⟨.array [.number (.integer 1)], .scanned⟩ := by cbv
    cases hquoted.symm.trans hfinal
  · intro h
    obtain ⟨stage, hstage⟩ := h "\"[1]\"" "[1]" (by cbv)
    have hpart : extract "\"[1]\"" = .ok ⟨.array [.number (.integer 1)], .scanned⟩ := by cbv
    cases hpart.symm.trans hstage

end Elicit.Extraction
