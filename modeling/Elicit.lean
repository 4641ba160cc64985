import Elicit.Main
import Elicit.Proofs.Extraction.Exact
import Elicit.Proofs.Run.Lifecycle
import Elicit.Proofs.Run.Outcome
import Elicit.Memory
import Elicit.Proofs.Extraction.Fragment
import Elicit.Proofs.Run.Course
import Elicit.Proofs.Run.Prompts
import Elicit.Proofs.Json.Members
import Elicit.Proofs.Run.Account
import Elicit.Proofs.Run.Typed
import Elicit.Proofs.Json.Trimming
import Elicit.Proofs.Extraction.Fence
import Elicit.Proofs.Extraction.Wrapped
import Elicit.Proofs.Run.Instrumentation
import Elicit.Proofs.Command.Execution
import Elicit.Proofs.Command.Placeholder
import Elicit.Proofs.Command.Course
import Elicit.Proofs.Console.Session
import Elicit.Proofs.Console.Delivery
import Elicit.Proofs.Console.ExitCode
import Elicit.Proofs.Backoff
import Elicit.Proofs.Text.Excerpt
import Elicit.Proofs.Prompt.Correction
import Elicit.Proofs.Extraction.Prose
import Elicit.Proofs.Run.Tally
import Elicit.Proofs.Settings.Changes
import Elicit.Proofs.Console.CommandLine
import Elicit.Proofs.Text.Size
import Elicit.Proofs.Json.Place
import Elicit.Proofs.Extraction.Reason
import Elicit.Proofs.Extraction.Grammar
import Elicit.Proofs.Extraction.Pairing
