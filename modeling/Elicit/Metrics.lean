/-! What a run has cost: attempts, and tokens by a rough estimate. The sums have no bound here; a
word of 64 bits holds them for all texts that have fewer characters together than it can count. The
time that a run takes is left out, since nothing is decided by it. -/
namespace Elicit

/-- Tokens in a text, at four characters each, a part counting as a whole. -/
def estimateTokens (s : String) : Nat := (s.length + 3) / 4

/-- Counts over the attempts of a run. -/
structure Metrics where
  attempts : Nat
  inputTokens : Nat
  outputTokens : Nat
  deriving DecidableEq, Repr

namespace Metrics

def zero : Metrics := ⟨0, 0, 0⟩

def addPrompt (m : Metrics) (prompt : String) : Metrics :=
  { m with inputTokens := m.inputTokens + estimateTokens prompt }

def addResponse (m : Metrics) (response : String) : Metrics :=
  { m with outputTokens := m.outputTokens + estimateTokens response }

end Metrics

end Elicit
