import Custody.CommandLine

/-!
# The program

Reads the arguments, the environment and the one file they name, and prints the outcome.
-/

set_option autoImplicit false

namespace Custody.CommandLine

/-- What the system's error number says about reading a file. Some calls report the number with its
sign changed. -/
def readFailureOfCode (code : UInt32) : ReadFailure :=
  match code.toInt32.toInt.natAbs with
  | 5 => .deviceFailed
  | 6 => .noDevice
  | 13 => .permissionDenied
  | 20 => .notADirectory
  | 21 => .isADirectory
  | 36 => .nameTooLong
  | 40 => .tooManyLinks
  | _ => .notFound

def readFailureOf : IO.Error → ReadFailure
  | .hardwareFault code _ => readFailureOfCode code
  | .permissionDenied _ code _ | .noSuchThing _ code _ | .inappropriateType _ code _
  | .invalidArgument _ code _ | .resourceExhausted _ code _ => readFailureOfCode code
  | _ => .notFound

def readFile (path : String) : IO (Except ReadFailure (List UInt8)) := do
  if path.contains '\x00' then return .error .invalidName
  try
    return .ok (← IO.FS.readBinFile path).toList
  catch error => return .error (readFailureOf error)

end Custody.CommandLine

open Custody CommandLine

def main (arguments : List String) : IO UInt32 := do
  let environment ← IO.getEnv "WIT_GUEST_CONFIG"
  let content ←
    match parse environment arguments with
    | .ok (.audit { config := some path, .. }) => readFile path
    | _ => pure (.error .notFound)
  let outcome := run (fun _ => content) environment arguments
  IO.print outcome.output
  IO.eprint outcome.errorText
  return outcome.code
