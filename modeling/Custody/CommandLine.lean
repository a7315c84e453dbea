import Custody.Config.File
import Custody.Document.Json
import Custody.Session.Run

/-!
# The command line

The program loads a configuration, runs the audit against a fresh host and prints the report.
Options override the mode and the timing of the configuration. Arguments are read from left to
right, and the first one that cannot be used or asks for help decides. Nothing here touches the
world: the files that can be read are given, and the outcome is a value.
-/

set_option autoImplicit false

namespace Custody.CommandLine

structure Options where
  config : Option String := none
  mode : Option Mode := none
  timing : Option Timing := none
  json : Bool := false

inductive Request where
  | help
  | audit (options : Options)

inductive UsageError where
  | unexpectedArgument (argument : String)
  | missingValue (option : String)
  | invalidValue (option value : String)
  | unexpectedValue (option value : String)
  | repeatedOption (option : String)

def UsageError.message : UsageError → String
  | .unexpectedArgument argument => "unexpected argument '" ++ argument ++ "' found"
  | .missingValue option => "a value is required for '" ++ option ++ "' but none was supplied"
  | .invalidValue option value => "invalid value '" ++ value ++ "' for '" ++ option ++ "'"
  | .unexpectedValue option value =>
      "unexpected value '" ++ value ++ "' for '" ++ option ++ "' found; no more were expected"
  | .repeatedOption option => "the argument '" ++ option ++ "' cannot be used multiple times"

inductive Valued where
  | config
  | mode
  | timing

def Valued.spelling : Valued → String
  | .config => "--config"
  | .mode => "--mode"
  | .timing => "--timing"

def jsonSpelling : String := "--json"

def Valued.ofSpelling? (s : String) : Option Valued :=
  [Valued.config, .mode, .timing].find? (·.spelling == s)

/-- The meaning of an option's value, which may be given once and must not be empty. -/
def choose {α : Type} (option : Valued) (chosen : Option α) (meaning : String → Option α)
    (value : String) : Except UsageError (Option α) :=
  if chosen.isSome then .error (.repeatedOption option.spelling)
  else
    match meaning value with
    | some meant => .ok (some meant)
    | none => .error (.invalidValue option.spelling value)

def Options.add (options : Options) (option : Valued) (value : String) :
    Except UsageError Options := do
  if value.isEmpty then throw (.missingValue option.spelling)
  match option with
  | .config => return { options with config := ← choose option options.config some value }
  | .mode =>
      return { options with mode := ← choose option options.mode (List.lookup · Mode.variants) value }
  | .timing =>
      return { options with
        timing := ← choose option options.timing (List.lookup · Timing.variants) value }

def Options.addJson (options : Options) : Except UsageError Options :=
  if options.json then .error (.repeatedOption jsonSpelling)
  else .ok { options with json := true }

/-- Whether an argument can be the value of the option before it. -/
def isValue (argument : String) : Bool :=
  argument == "-" || argument.toList.head? != some '-'

def asksHelp (argument : String) : Bool :=
  argument == "--help" || argument.toList.take 2 == ['-', 'h']

def splitAtEquals (argument : String) : Option (String × String) :=
  let cs := argument.toList
  if cs.contains '=' then
    some (String.ofList (cs.takeWhile (· != '=')),
      String.ofList ((cs.dropWhile (· != '=')).drop 1))
  else none

def parseFrom : Options → List String → Except UsageError Request
  | options, [] => .ok (.audit options)
  | options, "--" :: rest =>
      match rest with
      | [] => .ok (.audit options)
      | argument :: _ => .error (.unexpectedArgument argument)
  | options, argument :: rest =>
      if asksHelp argument then .ok .help
      else if argument == jsonSpelling then do parseFrom (← options.addJson) rest
      else
        match Valued.ofSpelling? argument, rest with
        | some option, value :: rest =>
            if isValue value then do parseFrom (← options.add option value) rest
            else .error (.missingValue option.spelling)
        | some option, [] => .error (.missingValue option.spelling)
        | none, rest =>
            match splitAtEquals argument with
            | none => .error (.unexpectedArgument argument)
            | some (spelling, value) =>
                match Valued.ofSpelling? spelling with
                | some option => do parseFrom (← options.add option value) rest
                | none =>
                    if spelling == jsonSpelling then .error (.unexpectedValue spelling value)
                    else .error (.unexpectedArgument argument)

/-- Reads a command line. Without a configuration file among the arguments, the environment may name
one. -/
def parse (environment : Option String) (arguments : List String) :
    Except UsageError Request := do
  match ← parseFrom {} arguments with
  | .help => return .help
  | .audit options =>
      match options.config, environment with
      | none, some path => return .audit (← options.add .config path)
      | _, _ => return .audit options

def helpText (environment : Option String) : String :=
  String.join <|
    [ "Audit guest-side canonical ABI ownership against an in-process host",
      "",
      "Usage: wit-guest [OPTIONS]",
      "",
      "Options:",
      "      --config <CONFIG>  TOML configuration file [env: WIT_GUEST_CONFIG=" ++
        environment.getD "" ++ "]",
      "      --mode <MODE>      Override the handle representation " ++
        "[possible values: integer, pointer]",
      "      --timing <TIMING>  Override when destructors run " ++
        "[possible values: immediate, deferred]",
      "      --json             Print the report as JSON",
      "  -h, --help             Print help" ].map (· ++ "\n")

inductive Outcome where
  | usage (error : UsageError)
  | helped (text : String)
  | passed (report : String)
  /-- Some checks failed, or there is no configuration; the report, if any, is printed first. -/
  | failed (report message : String)
  | panicked (message : String)
  | aborted (message : String)

namespace Outcome

def code : Outcome → UInt32
  | .helped _ | .passed _ => 0
  | .failed _ _ => 1
  | .usage _ => 2
  | .panicked _ => 101
  | .aborted _ => 134

def output : Outcome → String
  | .helped text => text
  | .passed report | .failed report _ => report
  | .usage _ | .panicked _ | .aborted _ => ""

def errorText : Outcome → String
  | .helped _ | .passed _ => ""
  | .failed _ message => "Error: " ++ message ++ "\n"
  | .usage error => "error: " ++ error.message ++ "\n"
  | .panicked message | .aborted message => message ++ "\n"

end Outcome

/-- A message whose lines are moved to the right, with a text of the same width in front of the first
one. -/
def hung (first others message : String) : String :=
  first ++ String.intercalate ("\n" ++ others) (message.splitOn "\n")

/-- A message with its causes below, which are numbered when there are several. -/
def withCauses (message : String) (causes : List String) : String :=
  let lines :=
    match causes with
    | [cause] => [hung "    " "    " cause]
    | causes =>
        causes.zipIdx.map fun (cause, index) =>
          let number := toString index
          let width := String.ofList (List.replicate (5 - number.length) ' ')
          hung (width ++ number ++ ": ") "       " cause
  message ++ "\n\nCaused by:\n" ++ String.intercalate "\n" lines

def configOf (files : Files) (options : Options) : Except String Config := do
  let config ←
    match options.config with
    | none => pure {}
    | some path =>
        match Config.load files path with
        | .ok config => pure config
        | .error error =>
            throw (withCauses ("Failed to load config from " ++ path) error.chain)
  let host := config.host
  return { config with
    host := { host with
      mode := options.mode.getD host.mode
      timing := options.timing.getD host.timing } }

def reportText (json : Bool) (report : Audit.Report) : String :=
  if json then report.toDocument.toPrettyJson ++ "\n" else report.text

def run (files : Files) (environment : Option String) (arguments : List String) : Outcome :=
  match parse environment arguments with
  | .error error => .usage error
  | .ok .help => .helped (helpText environment)
  | .ok (.audit options) =>
      match configOf files options with
      | .error message => .failed "" message
      | .ok config =>
          match (Session.audit config).1 with
          | .error (.panic message) => .panicked message
          | .error (.abort message) => .aborted message
          | .error .misuse | .error .exhausted => .aborted "the audit did not come to its end"
          | .ok report =>
              let text := reportText options.json report
              let failures := report.failures.length
              if failures = 0 then .passed text
              else
                .failed text
                  (toString failures ++ " of " ++ toString report.checks.length ++
                    " checks failed")

end Custody.CommandLine
