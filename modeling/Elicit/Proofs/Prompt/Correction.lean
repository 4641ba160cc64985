import Elicit.Prompt
import Elicit.Proofs.Extraction.Reference
import Elicit.Proofs.Text.Excerpt

/-! What a corrective prompt tells of the attempt before it: an excerpt of the response or of the
document, the failure's own text, and wording of bounded length. -/
namespace Elicit.Prompt

theorem corrective_eq (initial : String) (failure : Attempt.Failure) (raw : Option String)
    (number attempts limit : Nat) :
    corrective initial failure raw number attempts limit =
      initial ++ "\n\n" ++
        ("Attempt " ++ toString number ++ "/" ++ toString attempts ++ ": ") ++
        (describe limit failure ++ quote limit failure raw) ++ closing := by
  unfold corrective correction
  simp only [String.append_assoc]

theorem length_lineFeed : "\n".length = 1 := rfl

theorem length_line (words told : String) :
    (words ++ told ++ "\n").length = words.length + told.length + 1 := by
  rw [String.length_append, String.length_append, length_lineFeed]

/-- A quoted excerpt under its heading. -/
def quotation (limit : Nat) (shown : String) : String :=
  "\nYour response (first " ++ toString limit ++ " chars):\n" ++ shown ++ "\n"

theorem length_quotation (limit : Nat) (shown : String) :
    (quotation limit shown).length = shown.length + (toString limit).length + 32 := by
  have hfront : "\nYour response (first ".length = 22 := rfl
  have hmiddle : " chars):\n".length = 9 := rfl
  unfold quotation
  generalize toString limit = digits
  rw [length_line, String.length_append, String.length_append, hfront, hmiddle]
  omega

theorem quotation_ne_empty (limit : Nat) (shown : String) : quotation limit shown ≠ "" := by
  intro he
  have hlength := length_quotation limit shown
  rw [he, String.length_empty] at hlength
  omega

theorem quote_cases (limit : Nat) (failure : Attempt.Failure) (raw : Option String) :
    quote limit failure raw = "" ∨ ∃ response, raw = some response ∧
      quote limit failure raw = quotation limit (Text.excerpt limit response) := by
  cases raw with
  | none =>
    left
    cases failure <;> rfl
  | some response =>
    by_cases hb : Text.isBlankText (Text.excerpt limit response)
    · cases failure with
      | rejected => exact .inl rfl
      | _ => exact .inl (if_pos hb)
    · cases failure with
      | rejected => exact .inl rfl
      | _ => exact .inr ⟨response, rfl, if_neg hb⟩

theorem quote_congr {limit : Nat} {raw raw' : String}
    (h : Text.excerpt limit raw = Text.excerpt limit raw') (failure : Attempt.Failure) :
    quote limit failure (some raw) = quote limit failure (some raw') := by
  cases failure <;> simp only [quote, h]

theorem describe_rejected (limit : Nat) (errors : List String) (document : Json) :
    describe limit (.rejected errors document) =
      "Your previous JSON document did not pass validation.\n\nErrors:\n" ++
        String.join (errors.map fun e => "  - " ++ e ++ "\n") ++ "\nYour submission:\n" ++
        Text.excerpt limit document.pretty ++ "\n" := rfl

theorem quote_rejected (limit : Nat) (errors : List String) (document : Json)
    (raw : Option String) : quote limit (.rejected errors document) raw = "" := rfl

theorem quote_blank_of_le {raw : String} {limit : Nat} (h : Text.isBlankText raw)
    (hle : raw.length ≤ limit) : quote limit .empty (some raw) = "" :=
  if_pos (Text.isBlankText_excerpt.mpr ⟨h, hle⟩)

/-- The dots after its first characters are not blank, whatever the response is. -/
theorem quote_of_lt {raw : String} {limit : Nat} (h : limit < raw.length) :
    quote limit .empty (some raw) =
      quotation limit (String.ofList (raw.toList.take limit) ++ "...") := by
  have hshown : ¬ Text.isBlankText (Text.excerpt limit raw) := by
    rw [Text.isBlankText_excerpt]
    exact fun hb => Nat.not_le.mpr h hb.2
  rw [← Text.excerpt_of_lt h]
  exact if_neg hshown

/-- A blank response counts as none if the excerpt shows all of it. A longer one is quoted, under
wording that it was empty. -/
theorem corrective_blank_iff {raw : String} (h : extract raw = .error .empty) (initial : String)
    (number attempts limit : Nat) :
    corrective initial .empty none number attempts limit =
        initial ++ "\n\n" ++
          ("Attempt " ++ toString number ++ "/" ++ toString attempts ++ ": ") ++
          "Your previous response was empty.\n" ++ closing ∧
    (corrective initial .empty (some raw) number attempts limit =
        corrective initial .empty none number attempts limit ↔ raw.length ≤ limit) ∧
    (limit < raw.length → corrective initial .empty (some raw) number attempts limit =
        initial ++ "\n\n" ++
          ("Attempt " ++ toString number ++ "/" ++ toString attempts ++ ": ") ++
          ("Your previous response was empty.\n" ++
            quotation limit (String.ofList (raw.toList.take limit) ++ "...")) ++ closing) := by
  have hraw : Text.isBlankText raw := Extraction.extract_eq_empty_iff.mp h
  have hwords : describe limit .empty = "Your previous response was empty.\n" := rfl
  have hnone : quote limit .empty none = "" := rfl
  refine ⟨?_, ?_, ?_⟩
  · rw [corrective_eq, hnone, hwords, String.append_empty]
  · rw [corrective_eq, corrective_eq, String.append_left_inj, String.append_right_inj,
      String.append_right_inj, hnone]
    refine ⟨fun hquote => ?_, quote_blank_of_le hraw⟩
    by_contra hlt
    -- a quotation has at least its heading
    rw [quote_of_lt (Nat.not_le.mp hlt)] at hquote
    exact quotation_ne_empty _ _ hquote
  · intro hlt
    rw [corrective_eq, quote_of_lt hlt, hwords]

theorem corrective_blank_iff_samples :
    extract "\u3000 \n" = .error .empty ∧
    corrective "Base" .empty (some "\u3000 \n") 1 2 3 = corrective "Base" .empty none 1 2 3 ∧
    corrective "Base" .empty (some "\u3000 \n") 1 2 2 ≠ corrective "Base" .empty none 1 2 2 ∧
    corrective "Base" .empty (some "\u3000 \n") 1 2 2 =
      "Base" ++ "\n\n" ++ ("Attempt " ++ toString 1 ++ "/" ++ toString 2 ++ ": ") ++
        ("Your previous response was empty.\n" ++ quotation 2 "\u3000 ...") ++ closing := by
  have hempty : extract "\u3000 \n" = .error .empty := by cbv
  obtain ⟨-, hshort, -⟩ := corrective_blank_iff hempty "Base" 1 2 3
  obtain ⟨-, hlong, hquoted⟩ := corrective_blank_iff hempty "Base" 1 2 2
  exact ⟨hempty, hshort.mpr (by decide), mt hlong.mp (by decide), hquoted (by decide)⟩

/-- The length of what a prompt tells in the failure's own words; every error is an item. -/
def toldLength : Attempt.Failure → Nat
  | .empty => 0
  | .unparsed _ stages => stages.length
  | .generator message => message.length
  | .rejected errors _ => (errors.map fun e => e.length + 5).sum

theorem length_items (errors : List String) :
    (String.join (errors.map fun e => "  - " ++ e ++ "\n")).length =
      (errors.map fun e => e.length + 5).sum := by
  have hitem : ∀ e : String, ("  - " ++ e ++ "\n").length = e.length + 5 := by
    intro e
    have hmark : "  - ".length = 4 := rfl
    rw [length_line, hmark]
    omega
  rw [String.length_join, List.map_map]
  exact congrArg List.sum (List.map_congr_left fun e _ => hitem e)

theorem length_quote_le (limit : Nat) (failure : Attempt.Failure) (raw : Option String) :
    (quote limit failure raw).length ≤ limit + (toString limit).length + 35 := by
  rcases quote_cases limit failure raw with h | ⟨response, -, h⟩
  · rw [h]
    exact Nat.zero_le _
  · have hshown := Text.length_excerpt_le limit response
    rw [h, length_quotation]
    omega

theorem length_describe_le {failure : Attempt.Failure} (h : failure.kind ≠ .rejected)
    (limit : Nat) : (describe limit failure).length ≤ toldLength failure + 69 := by
  cases failure with
  | empty =>
    have hwords : "Your previous response was empty.\n".length = 34 := rfl
    change "Your previous response was empty.\n".length ≤ 0 + 69
    omega
  | unparsed reason stages =>
    have hwords : "Your previous response could not be parsed as JSON.\n\nParse error: ".length =
        66 := rfl
    have hlength : (describe limit (.unparsed reason stages)).length = _ := length_line _ stages
    change _ ≤ stages.length + 69
    omega
  | generator message =>
    have hwords : "The previous request failed before a response was produced.\n\nError: ".length =
        68 := rfl
    have hlength : (describe limit (.generator message)).length = _ := length_line _ message
    change _ ≤ message.length + 69
    omega
  | rejected errors document => exact absurd rfl h

theorem length_describe_rejected_le (limit : Nat) (errors : List String) (document : Json) :
    (describe limit (.rejected errors document)).length ≤
      toldLength (.rejected errors document) + limit + 84 := by
  have hwords : "Your previous JSON document did not pass validation.\n\nErrors:\n".length = 62 :=
    rfl
  have hheading : "\nYour submission:\n".length = 18 := rfl
  have hitems := length_items errors
  have hshown := Text.length_excerpt_le limit document.pretty
  rw [describe_rejected, toldLength]
  generalize String.join (errors.map fun e => "  - " ++ e ++ "\n") = items at hitems ⊢
  generalize Text.excerpt limit document.pretty = shown at hshown ⊢
  simp only [String.length_append, hwords, hheading, length_lineFeed]
  omega

/-- Where a document is shown, no response is. -/
theorem length_segment_le (limit : Nat) (failure : Attempt.Failure) (raw : Option String) :
    (describe limit failure ++ quote limit failure raw).length ≤
      toldLength failure + limit + (toString limit).length + 104 := by
  rw [String.length_append]
  by_cases hkind : failure.kind = .rejected
  · cases failure with
    | rejected errors document =>
      have hdescribe := length_describe_rejected_le limit errors document
      rw [quote_rejected, String.length_empty]
      omega
    | _ => cases hkind
  · have hdescribe := length_describe_le hkind limit
    have hquote := length_quote_le limit failure raw
    omega

theorem length_corrective_le (initial : String) (failure : Attempt.Failure) (raw : Option String)
    (number attempts limit : Nat) :
    (corrective initial failure raw number attempts limit).length ≤
      initial.length + toldLength failure + limit + (toString number).length +
        (toString attempts).length + (toString limit).length + 192 := by
  have hgap : "\n\n".length = 2 := rfl
  have hattempt : "Attempt ".length = 8 := rfl
  have hslash : "/".length = 1 := rfl
  have hcolon : ": ".length = 2 := rfl
  have hclosing : closing.length = 75 := rfl
  have hsegment := length_segment_le limit failure raw
  rw [corrective_eq]
  generalize describe limit failure ++ quote limit failure raw = segment at hsegment ⊢
  generalize toString number = a
  generalize toString attempts = m
  generalize toString limit = digits at hsegment ⊢
  simp only [String.length_append, hgap, hattempt, hslash, hcolon, hclosing]
  omega

/-- Of the response before it a corrective prompt shows an excerpt, or nothing. Responses that agree
within the limit and both go beyond it make no difference, and neither do documents whose indented
texts agree there. All else is the initial prompt, the failure's own text with one line for each
error, three numbers, and wording of bounded length. -/
theorem corrective_shows_excerpts (initial : String) (number attempts limit : Nat) :
    (∀ failure raw, ∃ shown, corrective initial failure raw number attempts limit =
        initial ++ "\n\n" ++
          ("Attempt " ++ toString number ++ "/" ++ toString attempts ++ ": ") ++
          (describe limit failure ++ shown) ++
          "\nPlease respond with a single valid JSON document only, without commentary." ∧
      (shown = "" ∨ ∃ response, raw = some response ∧
        shown = quotation limit (Text.excerpt limit response))) ∧
    (∀ failure raw raw', limit < raw.length → limit < raw'.length →
      raw.toList.take limit = raw'.toList.take limit →
      corrective initial failure (some raw) number attempts limit =
        corrective initial failure (some raw') number attempts limit) ∧
    (∀ errors document document' raw raw',
      document.pretty.toList.take limit = document'.pretty.toList.take limit →
      (limit < document.pretty.length ↔ limit < document'.pretty.length) →
      corrective initial (.rejected errors document) raw number attempts limit =
        corrective initial (.rejected errors document') raw' number attempts limit) ∧
    (∀ document raw, ∃ after, ∀ errors,
      corrective initial (.rejected errors document) raw number attempts limit =
        initial ++ "\n\n" ++
          ("Attempt " ++ toString number ++ "/" ++ toString attempts ++ ": ") ++
          "Your previous JSON document did not pass validation.\n\nErrors:\n" ++
          String.join (errors.map fun e => "  - " ++ e ++ "\n") ++ after) ∧
    (∀ failure raw, (corrective initial failure raw number attempts limit).length ≤
      initial.length + toldLength failure + limit + (toString number).length +
        (toString attempts).length + (toString limit).length + 192) := by
  refine ⟨?order, ?responses, ?documents, ?errors, ?length⟩
  case order =>
    intro failure raw
    exact ⟨_, corrective_eq .., quote_cases limit failure raw⟩
  case responses =>
    intro failure raw raw' hraw hraw' hsame
    have hexcerpt : Text.excerpt limit raw = Text.excerpt limit raw' :=
      Text.excerpt_eq_excerpt_iff.mpr ⟨hsame, iff_of_true hraw hraw'⟩
    rw [corrective_eq, corrective_eq, quote_congr hexcerpt]
  case documents =>
    intro errors document document' raw raw' hsame hlonger
    have hexcerpt : Text.excerpt limit document.pretty = Text.excerpt limit document'.pretty :=
      Text.excerpt_eq_excerpt_iff.mpr ⟨hsame, hlonger⟩
    rw [corrective_eq, corrective_eq, describe_rejected, describe_rejected, hexcerpt,
      quote_rejected, quote_rejected]
  case errors =>
    intro document raw
    refine ⟨"\nYour submission:\n" ++ Text.excerpt limit document.pretty ++ "\n" ++ closing, ?_⟩
    intro errors
    rw [corrective_eq, quote_rejected, String.append_empty, describe_rejected]
    simp only [String.append_assoc]
  case length =>
    intro failure raw
    exact length_corrective_le ..

theorem corrective_shows_excerpts_samples :
    2 < "na\u00efve".length ∧ 2 < "nay".length ∧
    corrective "Base" (.generator "busy") (some "na\u00efve") 1 3 2 =
      corrective "Base" (.generator "busy") (some "nay") 1 3 2 ∧
    3 < (Json.string "abc").pretty.length ∧ 3 < (Json.string "abd").pretty.length ∧
    corrective "Base" (.rejected ["too short"] (.string "abc")) (some "x") 1 3 3 =
      corrective "Base" (.rejected ["too short"] (.string "abd")) none 1 3 3 := by
  obtain ⟨-, hresponses, -⟩ := corrective_shows_excerpts "Base" 1 3 2
  obtain ⟨-, -, hdocuments, -⟩ := corrective_shows_excerpts "Base" 1 3 3
  have habc : 3 < (Json.string "abc").pretty.length := by decide
  have habd : 3 < (Json.string "abd").pretty.length := by decide
  exact ⟨by decide, by decide, hresponses _ _ _ (by decide) (by decide) (by decide), habc, habd,
    hdocuments _ _ _ _ _ (by decide) (iff_of_true habc habd)⟩

end Elicit.Prompt
