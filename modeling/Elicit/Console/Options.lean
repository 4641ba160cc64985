import Elicit.Settings

/-! The options of the command line program: their names and their values. -/
namespace Elicit.Console

inductive Backoff where
  | fixed
  | exponential
  deriving DecidableEq, Repr

namespace Backoff

def all : List Backoff := [.fixed, .exponential]

def word : Backoff → String
  | .fixed => "fixed"
  | .exponential => "exponential"

def ofWord? (s : String) : Option Backoff := all.find? fun b => b.word = s

end Backoff

inductive Argument where
  | target
  | prompt
  | promptFile
  | schema
  | schemaFile
  | jsonSchema
  | maxRetries
  | delayMs
  | backoff
  | maxDelayMs
  | timeoutSecs
  | pretty
  | verbose
  | help
  | version
  deriving DecidableEq, Repr

namespace Argument

def all : List Argument :=
  [.target, .prompt, .promptFile, .schema, .schemaFile, .jsonSchema, .maxRetries, .delayMs,
    .backoff, .maxDelayMs, .timeoutSecs, .pretty, .verbose, .help, .version]

/-- An option's name, which follows two hyphens. -/
def long : Argument → String
  | .target => "target"
  | .prompt => "prompt"
  | .promptFile => "prompt-file"
  | .schema => "schema"
  | .schemaFile => "schema-file"
  | .jsonSchema => "json-schema"
  | .maxRetries => "max-retries"
  | .delayMs => "delay-ms"
  | .backoff => "backoff"
  | .maxDelayMs => "max-delay-ms"
  | .timeoutSecs => "timeout-secs"
  | .pretty => "pretty"
  | .verbose => "verbose"
  | .help => "help"
  | .version => "version"

/-- The letter, after one hyphen, that an option has as well. -/
def short? : Argument → Option Char
  | .verbose => some 'v'
  | .help => some 'h'
  | .version => some 'V'
  | _ => none

def takesValue : Argument → Bool
  | .jsonSchema | .pretty | .verbose | .help | .version => false
  | _ => true

/-- The environment variable that gives an option its value when the command line does not. -/
def environmentName? : Argument → Option String
  | .maxRetries => some "CONSTRUCT_MAX_RETRIES"
  | .delayMs => some "CONSTRUCT_DELAY_MS"
  | .timeoutSecs => some "CONSTRUCT_TIMEOUT_SECS"
  | _ => none

/-- The option that excludes another one. -/
def opponent? : Argument → Option Argument
  | .prompt => some .promptFile
  | .promptFile => some .prompt
  | .schema => some .schemaFile
  | .schemaFile => some .schema
  | _ => none

/-- The words that an option's value is one of, where it has to be one of a few. -/
def choices : Argument → List String
  | .backoff => Backoff.all.map Backoff.word
  | _ => []

def ofLong? (name : String) : Option Argument := all.find? fun a => a.long = name

def ofShort? (c : Char) : Option Argument := all.find? fun a => a.short? = some c

/-- An option and, for its value, its name in capitals. -/
def usage (a : Argument) : String :=
  let capital (c : Char) := if c = '-' then '_' else c.toUpper
  "--" ++ a.long ++ if a.takesValue then " <" ++ a.long.map capital ++ ">" else ""

end Argument

inductive Setting where
  | target (s : String)
  | prompt (s : String)
  | promptFile (path : String)
  | schema (s : String)
  | schemaFile (path : String)
  | jsonSchema
  | maxRetries (n : Nat)
  | delayMs (n : Nat)
  | backoff (b : Backoff)
  | maxDelayMs (n : Nat)
  | timeoutSecs (n : Nat)
  | pretty
  | verbose
  deriving DecidableEq, Repr

def Setting.argument : Setting → Argument
  | .target _ => .target
  | .prompt _ => .prompt
  | .promptFile _ => .promptFile
  | .schema _ => .schema
  | .schemaFile _ => .schemaFile
  | .jsonSchema => .jsonSchema
  | .maxRetries _ => .maxRetries
  | .delayMs _ => .delayMs
  | .backoff _ => .backoff
  | .maxDelayMs _ => .maxDelayMs
  | .timeoutSecs _ => .timeoutSecs
  | .pretty => .pretty
  | .verbose => .verbose

structure Options where
  target : String
  prompt : Option String
  promptFile : Option String
  schema : Option String
  schemaFile : Option String
  jsonSchema : Bool
  maxRetries : Nat
  delayMs : Nat
  backoff : Backoff
  maxDelayMs : Nat
  timeoutSecs : Nat
  pretty : Bool
  verbose : Bool
  command : List String
  deriving DecidableEq, Repr

namespace Options

def unset (command : List String) : Options where
  target := "document"
  prompt := none
  promptFile := none
  schema := none
  schemaFile := none
  jsonSchema := false
  maxRetries := 2
  delayMs := 0
  backoff := .fixed
  maxDelayMs := 30000
  timeoutSecs := 300
  pretty := false
  verbose := false
  command := command

def set (o : Options) : Setting → Options
  | .target s => { o with target := s }
  | .prompt s => { o with prompt := some s }
  | .promptFile path => { o with promptFile := some path }
  | .schema s => { o with schema := some s }
  | .schemaFile path => { o with schemaFile := some path }
  | .jsonSchema => { o with jsonSchema := true }
  | .maxRetries n => { o with maxRetries := n }
  | .delayMs n => { o with delayMs := n }
  | .backoff b => { o with backoff := b }
  | .maxDelayMs n => { o with maxDelayMs := n }
  | .timeoutSecs n => { o with timeoutSecs := n }
  | .pretty => { o with pretty := true }
  | .verbose => { o with verbose := true }

end Options

end Elicit.Console
