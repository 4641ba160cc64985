import Elicit.Proofs.Console.Session
import Mathlib.Data.List.TakeWhile
import Mathlib.Tactic.SplitIfs

/-! What an accepted command line is like: where its prompt and its schema come from, and that the
words after the divider go to the generator command and nowhere else. -/
namespace Elicit.Console

/-- The word after which the generator command stands. -/
def divider : String := "--"

/-- The words of the program's own options: those before the first divider. -/
def ownWords (line : List String) : List String := line.takeWhile (· ≠ divider)

/-- The words of the generator command: those after the first divider. -/
def commandWords (line : List String) : List String := (line.dropWhile (· ≠ divider)).drop 1

theorem ownWords_cons {w : String} (h : w ≠ divider) (ws : List String) :
    ownWords (w :: ws) = w :: ownWords ws :=
  List.takeWhile_cons_of_pos (decide_eq_true h)

theorem commandWords_cons {w : String} (h : w ≠ divider) (ws : List String) :
    commandWords (w :: ws) = commandWords ws := by
  have hdrop : (w :: ws).dropWhile (· ≠ divider) = ws.dropWhile (· ≠ divider) :=
    List.dropWhile_cons_of_pos (decide_eq_true h)
  rw [commandWords, hdrop, commandWords]

theorem bind_eq_ok {ε α β : Type} {x : Except ε α} {f : α → Except ε β} {b : β}
    (h : x >>= f = .ok b) : ∃ a, x = .ok a ∧ f a = .ok b := by
  cases x with
  | error e => cases h
  | ok a => exact ⟨a, rfl, h⟩

theorem bind_eq_error {ε α β : Type} {x : Except ε α} {f : α → Except ε β} {e : ε}
    (h : x >>= f = .error e) : x = .error e ∨ ∃ a, x = .ok a ∧ f a = .error e := by
  cases x with
  | error e' =>
    cases h
    exact .inl rfl
  | ok a => exact .inr ⟨a, rfl, h⟩

theorem eq_divider_of_word {w : String} (h : Word.of w = .divider) : w = divider := by
  unfold Word.of splitValue at h
  split at h
  next hw => exact String.toList_inj.mp hw
  all_goals (try split at h) <;> cases h

namespace Reading

/-- The words after the divider are taken as they are, and those before it are read as if there
were none. -/
theorem words_eq (r : Reading) (line : List String) : r.words line =
    (r.words (ownWords line)).map fun read => (read.1, commandWords line) := by
  induction line generalizing r with
  | nil => rfl
  | cons w ws ih =>
    by_cases hw : w = divider
    · rw [hw]
      rfl
    · have hnext : ∀ next : Except ArgumentError Reading, (next >>= fun r' => r'.words ws) =
          (next >>= fun r' => r'.words (ownWords ws)).map fun read =>
            (read.1, commandWords ws) := fun next => by
        cases next with
        | error e => rfl
        | ok r' => exact ih r'
      rw [ownWords_cons hw, commandWords_cons hw, words, words]
      cases h : Word.of w with
      | divider => exact absurd (eq_divider_of_word h) hw
      | long name value => exact hnext _
      | short letters => exact hnext _
      | plain => exact hnext _

end Reading

theorem foldl_set_command (settled : List Setting) (o : Options) (command : List String) :
    settled.foldl Options.set { o with command } = { settled.foldl Options.set o with command } := by
  induction settled generalizing o with
  | nil => rfl
  | cons s settled ih =>
    have hset : ({ o with command } : Options).set s = { o.set s with command } := by
      cases s <;> rfl
    rw [List.foldl_cons, List.foldl_cons, hset, ih]

/-- The options that are given, once all the words have been read, and the variables too. -/
def Reading.finish (lookup : String → Option String) (r : Reading) :
    Except ArgumentError (List Setting) := do
  let settled ← addVariables lookup (← r.settle)
  checkTogether settled
  return settled

theorem read_eq (lookup : String → Option String) (line : List String) :
    Options.read lookup line = do
      let (r, _) ← Reading.start.words (ownWords line)
      return (← r.finish lookup).foldl Options.set (.unset (commandWords line)) := by
  unfold Options.read Reading.finish
  rw [Reading.words_eq]
  cases Reading.start.words (ownWords line) with
  | error e => rfl
  | ok read =>
    simp only [bind_assoc, pure_bind]
    rfl

/-- What a command line says of the run is said before the divider. -/
theorem read_eq_map (lookup : String → Option String) (line : List String) :
    Options.read lookup line = (Options.read lookup (ownWords line)).map fun o =>
      { o with command := commandWords line } := by
  have hown : ownWords (ownWords line) = ownWords line := List.takeWhile_idem
  rw [read_eq, read_eq, hown]
  cases Reading.start.words (ownWords line) with
  | error e => rfl
  | ok read =>
    cases h : read.1.finish lookup with
    | error e => simp [bind, Except.bind, h, Except.map]
    | ok settled =>
      simp only [bind, Except.bind, pure, Except.pure, h, Except.map]
      rw [← foldl_set_command]
      rfl

/-- The text that one of the four options for an input gives. -/
def Options.input? (o : Options) : Argument → Option String
  | .prompt => o.prompt
  | .promptFile => o.promptFile
  | .schema => o.schema
  | .schemaFile => o.schemaFile
  | _ => none

theorem isSome_input?_set (o : Options) (s : Setting) {a : Argument} (ha : a.opponent?.isSome) :
    ((o.set s).input? a).isSome = ((o.input? a).isSome || decide (s.argument = a)) := by
  cases a with
  | prompt => cases s <;> simp [Options.set, Options.input?, Setting.argument]
  | promptFile => cases s <;> simp [Options.set, Options.input?, Setting.argument]
  | schema => cases s <;> simp [Options.set, Options.input?, Setting.argument]
  | schemaFile => cases s <;> simp [Options.set, Options.input?, Setting.argument]
  | _ => cases ha

theorem isSome_input?_foldl (settled : List Setting) (o : Options) {a : Argument}
    (ha : a.opponent?.isSome) : ((settled.foldl Options.set o).input? a).isSome =
      ((o.input? a).isSome || Reading.has settled a) := by
  induction settled generalizing o with
  | nil => simp [Reading.has]
  | cons s settled ih =>
    rw [List.foldl_cons, ih, isSome_input?_set o s ha, Reading.has, Reading.has, List.any_cons,
      Bool.or_assoc]

theorem not_has_opponent {settled : List Setting} (h : conflict? settled = none) {a b : Argument}
    (hab : a.opponent? = some b) (ha : Reading.has settled a) : ¬ Reading.has settled b := by
  obtain ⟨s, hs, hsa⟩ := List.any_eq_true.mp ha
  obtain rfl : s.argument = a := of_decide_eq_true hsa
  have hnone := List.findSome?_eq_none_iff.mp h s hs
  rw [hab] at hnone
  intro hb
  simp [Option.filter, hb] at hnone

/-- Options that go together: a prompt, as it is or in a file, and at most one schema. -/
theorem checkTogether_eq_ok {settled : List Setting} (h : checkTogether settled = .ok ()) :
    conflict? settled = none ∧
      (Reading.has settled .prompt ∨ Reading.has settled .promptFile) := by
  unfold checkTogether at h
  cases hc : conflict? settled with
  | some ab => rw [hc] at h; cases h
  | none =>
    rw [hc] at h
    dsimp only at h
    split_ifs at h with hp
    exact ⟨rfl, by simpa using hp⟩

/-- The options that are accepted are those that are given, and these go together. -/
theorem exists_settled_of_read {lookup : String → Option String} {line : List String} {o : Options}
    (h : Options.read lookup line = .ok o) : ∃ settled, checkTogether settled = .ok () ∧
      o = settled.foldl Options.set (.unset (commandWords line)) := by
  rw [read_eq] at h
  obtain ⟨⟨r, _⟩, -, h⟩ := bind_eq_ok h
  obtain ⟨settled, hfinish, ho⟩ := bind_eq_ok h
  obtain ⟨_, -, hfinish⟩ := bind_eq_ok hfinish
  obtain ⟨settled', -, hfinish⟩ := bind_eq_ok hfinish
  obtain ⟨_, htogether, hsame⟩ := bind_eq_ok hfinish
  cases hsame
  cases ho
  exact ⟨settled, htogether, rfl⟩

theorem isSome_input?_of_settled (settled : List Setting) (command : List String) {a : Argument}
    (ha : a.opponent?.isSome) :
    ((settled.foldl Options.set (.unset command)).input? a).isSome = Reading.has settled a := by
  have hunset : ((Options.unset command).input? a).isSome = false := by
    cases a <;> rfl
  rw [isSome_input?_foldl _ _ ha, hunset, Bool.false_or]

/-- Just one of the options for a prompt is given, and at most one of those for a schema. -/
theorem inputs_of_read {lookup : String → Option String} {line : List String} {o : Options}
    (h : Options.read lookup line = .ok o) : o.prompt.isSome = !o.promptFile.isSome ∧
      ¬ (o.schema.isSome ∧ o.schemaFile.isSome) := by
  obtain ⟨settled, htogether, rfl⟩ := exists_settled_of_read h
  obtain ⟨hconflict, hprompt⟩ := checkTogether_eq_ok htogether
  have hnot : ∀ {a b : Argument}, a.opponent? = some b → Reading.has settled a →
      ¬ Reading.has settled b := not_has_opponent hconflict
  have hgiven := fun a ha => isSome_input?_of_settled settled (commandWords line) (a := a) ha
  have hprompt? : Option.isSome _ = Reading.has settled .prompt := hgiven .prompt rfl
  have hpromptFile? : Option.isSome _ = Reading.has settled .promptFile := hgiven .promptFile rfl
  have hschema? : Option.isSome _ = Reading.has settled .schema := hgiven .schema rfl
  have hschemaFile? : Option.isSome _ = Reading.has settled .schemaFile := hgiven .schemaFile rfl
  dsimp only [Options.input?] at hprompt? hpromptFile? hschema? hschemaFile?
  rw [hprompt?, hpromptFile?, hschema?, hschemaFile?]
  refine ⟨?_, fun h => hnot rfl h.1 h.2⟩
  rcases hprompt with hp | hp
  · rw [hp, Bool.eq_false_of_not_eq_true (hnot rfl hp)]
    rfl
  · rw [hp, Bool.eq_false_of_not_eq_true (hnot rfl hp)]
    rfl

/-- The settings that the options come to hold what was read for them. -/
theorem inputs_of_settings {w : Surroundings} {o : Options} {σ : Type} {generate : Generator σ}
    {s : Settings σ} (h : o.settings w generate = .ok s) : ∃ schema,
      readInput w .prompt o.prompt o.promptFile = .ok (some s.request) ∧
      readInput w .schema o.schema o.schemaFile = .ok schema ∧
      match schema with
      | none => s.schema = none
      | some text => if o.jsonSchema then
          ∃ source, Json.read text.toList = .ok source ∧ s.schema = some source.pretty
        else s.schema = some text := by
  unfold Options.settings at h
  obtain ⟨prompt?, hprompt, h⟩ := bind_eq_ok h
  cases prompt? with
  | none => cases h
  | some prompt =>
    obtain ⟨schema, hschema, h⟩ := bind_eq_ok h
    obtain ⟨delayed, hdelayed, h⟩ := bind_eq_ok h
    rw [amend_delayChange] at hdelayed
    cases hdelayed
    cases schema with
    | none =>
      cases hjson : o.jsonSchema with
      | true => rw [hjson] at h; cases h
      | false =>
        rw [hjson] at h
        cases h
        exact ⟨none, hprompt, hschema, rfl⟩
    | some text =>
      cases hjson : o.jsonSchema with
      | false =>
        rw [hjson] at h
        cases h
        exact ⟨some text, hprompt, hschema, rfl⟩
      | true =>
        rw [hjson] at h
        dsimp only at h
        cases hsource : Json.read text.toList with
        | error fault => rw [hsource] at h; cases h
        | ok source =>
          rw [hsource] at h
          dsimp only [amend, Settings.change] at h
          cases hk : Validator.read source with
          | error fault => rw [hk] at h; cases h
          | ok k =>
            rw [hk] at h
            cases h
            exact ⟨some text, hprompt, hschema, source, hsource, rfl⟩

theorem readInput_eq_none {w : Surroundings} {input : Input} {text path : Option String}
    (h : readInput w input text path = .ok none) : text = none ∧ path = none := by
  unfold readInput at h
  split at h
  · cases h
  · exact ⟨rfl, rfl⟩
  · split at h <;> cases h

theorem readInput_eq_error {w : Surroundings} {input : Input} {text path : Option String}
    {failure : Failure} (h : readInput w input text path = .error failure) :
    ∃ file fault, failure = .input (.unreadable input file fault) := by
  unfold readInput at h
  split at h
  · cases h
  · cases h
  · split at h
    · cases h
    · cases h
      exact ⟨_, _, rfl⟩

/-- Where an option gives a prompt, the lack of one is not what the settings fail for. -/
theorem settings_ne_noPrompt {w : Surroundings} {o : Options} {σ : Type} (generate : Generator σ)
    (ho : o.prompt.isSome ∨ o.promptFile.isSome) :
    o.settings w generate ≠ .error (.input .noPrompt) := by
  intro h
  unfold Options.settings at h
  rcases bind_eq_error h with h | ⟨prompt?, hprompt, h⟩
  · obtain ⟨_, _, he⟩ := readInput_eq_error h
    cases he
  cases prompt? with
  | none =>
    obtain ⟨htext, hfile⟩ := readInput_eq_none hprompt
    simp [htext, hfile] at ho
  | some prompt =>
  rcases bind_eq_error h with h | ⟨schema, -, h⟩
  · obtain ⟨_, _, he⟩ := readInput_eq_error h
    cases he
  rcases bind_eq_error h with h | ⟨delayed, -, h⟩
  · rw [amend_delayChange] at h
    cases h
  cases schema with
  | none => cases hjson : o.jsonSchema <;> rw [hjson] at h <;> cases h
  | some text =>
  cases hjson : o.jsonSchema with
  | false => rw [hjson] at h; cases h
  | true =>
    rw [hjson] at h
    dsimp only at h
    cases hsource : Json.read text.toList with
    | error fault => rw [hsource] at h; cases h
    | ok source =>
      rw [hsource] at h
      dsimp only [amend, Settings.change] at h
      cases hk : Validator.read source <;> rw [hk] at h <;> cases h

/-- A command line is read up to the first divider, as if nothing followed; what follows is the
generator command, word for word. If it is accepted, there is just one of a prompt and a file with a
prompt, and not both a schema and a file with one. So the settings never fail for want of a prompt,
and a file that is given is the one that is read. -/
theorem read_inputs_and_command (lookup : String → Option String) (line : List String) :
    Options.read lookup line = (Options.read lookup (ownWords line)).map (fun o =>
      { o with command := commandWords line }) ∧
    ∀ o, Options.read lookup line = .ok o →
      o.prompt.isSome = !o.promptFile.isSome ∧ ¬ (o.schema.isSome ∧ o.schemaFile.isSome) ∧
      o.command = commandWords line ∧
      ∀ {σ : Type} (w : Surroundings) (generate : Generator σ),
        o.settings w generate ≠ .error (.input .noPrompt) ∧
        (∀ path, o.promptFile = some path →
          (∀ fault, w.read path = .error fault →
            o.settings w generate = .error (.input (.unreadable .prompt path fault))) ∧
          ∀ s, o.settings w generate = .ok s → w.read path = .ok s.request) ∧
        ∀ path, o.schemaFile = some path → ∀ s, o.settings w generate = .ok s →
          ∃ text, w.read path = .ok text ∧ if o.jsonSchema then
            ∃ source, Json.read text.toList = .ok source ∧ s.schema = some source.pretty
          else s.schema = some text := by
  refine ⟨read_eq_map lookup line, fun o h => ?_⟩
  obtain ⟨hprompt, hschema⟩ := inputs_of_read h
  have hcommand : o.command = commandWords line := by
    rw [read_eq_map] at h
    cases hown : Options.read lookup (ownWords line) with
    | error e => rw [hown] at h; cases h
    | ok own => rw [hown] at h; cases h; rfl
  refine ⟨hprompt, hschema, hcommand, fun w generate => ⟨?_, ?_, ?_⟩⟩
  · refine settings_ne_noPrompt generate ?_
    rw [hprompt]
    cases o.promptFile.isSome <;> simp
  · intro path hpath
    have htext : o.prompt = none := by simpa [hpath] using hprompt
    refine ⟨fun fault hfault => ?_, fun s hs => ?_⟩
    · have hread : readInput w .prompt o.prompt o.promptFile =
          .error (.input (.unreadable .prompt path fault)) := by
        rw [htext, hpath, readInput, hfault]
      rw [Options.settings, hread]
      rfl
    · obtain ⟨_, hread, -⟩ := inputs_of_settings hs
      rw [htext, hpath, readInput] at hread
      cases hfile : w.read path with
      | error fault => rw [hfile] at hread; cases hread
      | ok text => rw [hfile] at hread; cases hread; rfl
  · intro path hpath s hs
    have htext : o.schema = none := by simpa [hpath] using hschema
    obtain ⟨schema, -, hread, hdescribed⟩ := inputs_of_settings hs
    rw [htext, hpath, readInput] at hread
    cases hfile : w.read path with
    | error fault => rw [hfile] at hread; cases hread
    | ok text =>
      rw [hfile] at hread
      cases hread
      exact ⟨text, rfl, hdescribed⟩

theorem read_inputs_and_command_samples :
    let line := ["--prompt-file=p.txt", "--schema", "s", "-v", "--", "llm", "--prompt", "x", "--"]
    let w : Surroundings :=
      ⟨fun _ => none, fun path => if path = "p.txt" then .ok "Ask." else .error .notUtf8,
        fun _ => true, some⟩
    let silent : Generator Unit := fun _ st => (.error "", st)
    ∃ o, Options.read w.environment line = .ok o ∧ o.command = ["llm", "--prompt", "x", "--"] ∧
      o.prompt = none ∧ ∃ s, o.settings w silent = .ok s ∧ s.request = "Ask." := by
  intro line w silent
  let o : Options := { Options.unset ["llm", "--prompt", "x", "--"] with
    promptFile := some "p.txt", schema := some "s", verbose := true }
  have ho : Options.read w.environment line = .ok o := rfl
  obtain ⟨-, hread⟩ := read_inputs_and_command w.environment line
  obtain ⟨-, -, hcommand, hsettings⟩ := hread o ho
  obtain ⟨-, hprompt, -⟩ := hsettings w silent
  obtain ⟨s, hs⟩ : ∃ s, o.settings w silent = .ok s := ⟨_, rfl⟩
  have hrequest : w.read "p.txt" = .ok s.request := (hprompt "p.txt" rfl).2 s hs
  exact ⟨o, ho, hcommand, rfl, s, hs, (Except.ok.inj hrequest).symm⟩

end Elicit.Console
