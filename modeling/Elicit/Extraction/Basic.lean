import Elicit.Extraction.Fence
import Elicit.Extraction.Region
import Elicit.Json.Reader
import Elicit.Text.Excerpt

/-! Finding the JSON document in a free-form response. -/
namespace Elicit

/-- Where in a response a document was found. -/
inductive Stage where
  | fenced
  /-- In a balanced region amid other text. -/
  | scanned
  /-- The response as a whole. -/
  | verbatim
  deriving Repr, DecidableEq

def Stage.text : Stage → String
  | .fenced => "fenced block"
  | .scanned => "bracket scan"
  | .verbatim => "verbatim"

structure Extraction where
  document : Json
  stage : Stage

namespace Extraction

/-- Why a scan finds no document: the fault of the first balanced region, if there is one. -/
abbrev ScanFault := Option Json.Fault

def ScanFault.message : ScanFault → String
  | none => "no balanced JSON object or array found"
  | some f => f.message

/-- Why no stage finds a document: the fault of each fenced block, that of the scan, that of the
response as a whole, and the response itself. -/
structure Unparsed where
  fenced : List Json.Fault
  scanned : ScanFault
  verbatim : Json.Fault
  response : List Char

inductive Failure where
  | empty
  | unparsed (u : Unparsed)

def quotedLimit : Nat := 200

def Unparsed.stages (u : Unparsed) : String :=
  let entry (s : Stage) (m : String) := s.text ++ ": " ++ m
  String.intercalate "; " <|
    u.fenced.map (fun f => entry .fenced f.message) ++
      [entry .scanned u.scanned.message, entry .verbatim u.verbatim.message]

/-- The fault of each stage and the beginning of the response, in words. -/
def Unparsed.reason (u : Unparsed) : String :=
  "Could not extract JSON (" ++ u.stages ++ "). Response preview: \"" ++
    Text.excerpt quotedLimit (String.ofList u.response) ++ "\""

def Failure.message : Failure → String
  | .empty => "Generator returned an empty response"
  | .unparsed u => u.reason

/-- The first block that is a JSON text, or the fault of each. -/
def firstFenced : List (List Char) → Except (List Json.Fault) Json
  | [] => .error []
  | block :: blocks =>
    match Json.read (Text.trim block) with
    | .ok v => .ok v
    | .error f => (firstFenced blocks).mapError (f :: ·)

/-- The first balanced region that is a JSON text, or the fault of the first region. -/
def scan : List Char → Except ScanFault Json
  | [] => .error none
  | c :: cs =>
    match if Region.isOpener c then Region.balanced? (c :: cs) else none with
    | none => scan cs
    | some region =>
      match Json.read region with
      | .ok v => .ok v
      | .error f => (scan cs).mapError fun _ => some f

/-- Extracts from a response without blanks around it. -/
def ofTrimmed (cs : List Char) : Except Failure Extraction :=
  if cs.isEmpty then .error .empty else
  match firstFenced (Fence.blocks cs) with
  | .ok v => .ok ⟨v, .fenced⟩
  | .error fenced =>
    match scan cs with
    | .ok v => .ok ⟨v, .scanned⟩
    | .error scanned =>
      match Json.read cs with
      | .ok v => .ok ⟨v, .verbatim⟩
      | .error verbatim => .error (.unparsed ⟨fenced, scanned, verbatim, cs⟩)

end Extraction

/-- Extracts the first JSON document from a response: from its fenced blocks, else from its
balanced regions, else from the response as a whole. -/
def extract (response : String) : Except Extraction.Failure Extraction :=
  Extraction.ofTrimmed (Text.trim response.toList)

end Elicit
