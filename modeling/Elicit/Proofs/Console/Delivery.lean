import Elicit.Proofs.Command.Placeholder
import Elicit.Proofs.Console.Session

/-! How the prompts of a session get to the generator command. -/
namespace Elicit.Console

open Command (Execution Machine Splits placeholder)

variable {σ : Type}

theorem findGenerator_cons {w : Surroundings} {name program : String}
    {rest arguments : List String}
    (h : w.findGenerator (name :: rest) = .ok (program, arguments)) :
    w.program? name = some program ∧ arguments = rest := by
  unfold Surroundings.findGenerator at h
  dsimp only at h
  split at h
  · rename_i hpath
    obtain ⟨rfl, rfl⟩ := Prod.mk.inj (Except.ok.inj h)
    exact ⟨hpath, rfl⟩
  · cases h

theorem Proceeds.invocations_eq {w : Surroundings} {o : Options} {es : List Execution}
    {prompts : List String} {result : Except Failure String} {program : String}
    {arguments : List String} (h : Proceeds w o es prompts result)
    (hfound : w.findGenerator o.command = .ok (program, arguments)) :
    es.map (·.invocation) = prompts.map (o.commandAt program arguments).invocation := by
  cases h with
  | unprepared => rfl
  | ran hcommand hes =>
    obtain ⟨rfl, rfl⟩ := Prod.mk.inj (Except.ok.inj (hfound.symm.trans hcommand))
    exact hes

/-- Each argument is filled where its placeholders are. -/
theorem forall₂_argumentsFor (c : Command) (prompt : String) :
    List.Forall₂ (fun a b => (∃! ps, Splits a.toList ps) ∧
      ∀ ps, Splits a.toList ps → b.toList = prompt.toList.intercalate ps)
    c.arguments (c.argumentsFor prompt) := by
  unfold Command.argumentsFor
  rw [List.forall₂_map_right_iff, List.forall₂_same]
  intro a _
  refine ⟨⟨Command.pieces a.toList, Command.splits_pieces _, fun ps hps => hps.eq_pieces⟩, ?_⟩
  intro ps hps
  rw [String.toList_ofList, Command.fill_eq_intercalate, hps.eq_pieces]

/-- Every prompt of a session is what one execution of the generator command is started with. It
takes the place of each placeholder in the arguments; what is between those stays as it is. The
prompt goes to standard input if no argument has a placeholder, which is to say if the arguments
are the same for every prompt, and to the arguments otherwise. -/
theorem prompt_delivered (w : Surroundings) (machine : Machine σ) (o : Options) (st : σ)
    {program : String} {arguments : List String}
    (h : w.findGenerator o.command = .ok (program, arguments)) :
    let command := o.commandAt program arguments
    (∀ name rest, o.command = name :: rest →
      w.program? name = some program ∧ arguments = rest) ∧
    (o.executions w machine st).map (·.invocation) =
      (o.run w machine st).prompts.map command.invocation ∧
    ∀ prompt,
      let i := command.invocation prompt
      i.program = program ∧
      List.Forall₂ (fun a b => (∃! ps, Splits a.toList ps) ∧
        ∀ ps, Splits a.toList ps → b.toList = prompt.toList.intercalate ps)
      arguments i.arguments ∧
      (i.input = some prompt ↔ ∀ a ∈ arguments, ¬ placeholder <:+: a.toList) ∧
      (i.input = none ↔ ∃ a ∈ arguments, placeholder <:+: a.toList) ∧
      ((∀ a ∈ arguments, ¬ placeholder <:+: a.toList) ↔
        ∀ other, (command.invocation other).arguments = arguments) := by
  intro command
  refine ⟨?_, (proceeds w machine o st).invocations_eq h, ?_⟩
  · intro name rest hname
    rw [hname] at h
    exact findGenerator_cons h
  · intro prompt i
    have hinput : i.input = if command.promptsByArgument then none else some prompt := rfl
    have hiff : command.promptsByArgument = true ↔ ∃ a ∈ arguments, placeholder <:+: a.toList :=
      Command.promptsByArgument_iff command
    refine ⟨rfl, forall₂_argumentsFor command prompt, ?_, ?_,
      (Command.forall_argumentsFor_eq_self_iff command).symm⟩
    · rw [hinput]
      by_cases hp : command.promptsByArgument
      · have hno : ¬ ∀ a ∈ arguments, ¬ placeholder <:+: a.toList := by
          obtain ⟨a, ha, hi⟩ := hiff.mp hp
          exact fun hall => hall a ha hi
        rw [if_pos hp]
        exact iff_of_false nofun hno
      · rw [if_neg hp]
        exact iff_of_true rfl fun a ha hi => hp (hiff.mpr ⟨a, ha, hi⟩)
    · rw [hinput, ← hiff]
      by_cases hp : command.promptsByArgument
      · simp [hp]
      · simp [hp]

theorem prompt_delivered_samples :
    let w : Surroundings := ⟨fun _ => none, fun _ => .error .notUtf8, fun _ => false, some⟩
    let o := { Options.unset ["ask", "<\x7bprompt\x7d>", "-"] with prompt := some "\x7bprompt" }
    let command := o.commandAt "ask" ["<\x7bprompt\x7d>", "-"]
    let machine : Machine Unit := fun _ st => (.ended (.exited 0) "[1]".toUTF8.toList [], st)
    (o.executions w machine ()).map (·.invocation) = [command.invocation "\x7bprompt"] ∧
      (command.invocation "\x7bprompt").input = none ∧
      (command.invocation "\x7bprompt").arguments = ["<\x7bprompt>", "-"] := by
  intro w o command machine
  have h : w.findGenerator o.command = .ok ("ask", ["<\x7bprompt\x7d>", "-"]) := rfl
  obtain ⟨-, hinvocations, hdelivered⟩ := prompt_delivered w machine o () h
  have hprompts : (o.run w machine ()).prompts = ["\x7bprompt"] := by decide +kernel
  rw [hprompts] at hinvocations
  obtain ⟨-, -, -, hinput, -⟩ := hdelivered "\x7bprompt"
  exact ⟨hinvocations, hinput.mpr ⟨_, List.mem_cons_self, by decide +kernel⟩, by decide +kernel⟩

end Elicit.Console
