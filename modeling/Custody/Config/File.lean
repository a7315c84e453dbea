import Custody.Config.Document
import Custody.Text.Utf8
import Custody.Toml.Document

/-!
# Configuration files

A configuration file is a TOML text. Three things can be wrong with it: it cannot be read, it is not
a configuration, or its values cannot be used. `Config.ofToml` reads a text and `Config.load` a file.
-/

set_option autoImplicit false

namespace Custody

open Document (ReadError)

inductive ReadFailure where
  | notFound
  | notADirectory
  | isADirectory
  | nameTooLong
  | tooManyLinks
  | permissionDenied
  | noDevice
  | deviceFailed
  | invalidName
  | notText
deriving DecidableEq

def ReadFailure.text : ReadFailure → String
  | .notFound => "No such file or directory (os error 2)"
  | .deviceFailed => "Input/output error (os error 5)"
  | .noDevice => "No such device or address (os error 6)"
  | .permissionDenied => "Permission denied (os error 13)"
  | .notADirectory => "Not a directory (os error 20)"
  | .isADirectory => "Is a directory (os error 21)"
  | .nameTooLong => "File name too long (os error 36)"
  | .tooManyLinks => "Too many levels of symbolic links (os error 40)"
  | .invalidName => "file name contained an unexpected NUL byte"
  | .notText => "stream did not contain valid UTF-8"

abbrev Files := String → Except ReadFailure (List UInt8)

inductive ConfigError where
  | unreadable (path : String) (failure : ReadFailure)
  | malformed
  | mistyped (error : ReadError)
  | invalid (reason : String)

namespace ConfigError

def message : ConfigError → String
  | .unreadable path failure => "Failed to read config file '" ++ path ++ "': " ++ failure.text
  | .malformed => "Failed to parse config file: the text is not well formed"
  | .mistyped error => "Failed to parse config file: " ++ error.message .toml
  | .invalid reason => "Invalid config file: " ++ reason

def chain (error : ConfigError) : List String :=
  match error with
  | .unreadable _ failure => [error.message, failure.text]
  | _ => [error.message]

end ConfigError

namespace Config

/-- Refuses a host without capacity, and imports without a name. -/
def validate (config : Config) : Except ConfigError Unit :=
  if config.host.maxHandles = 0 then
    .error (.invalid "host.max_handles must be at least 1")
  else
    match config.imports.find? (·.name.isEmpty) with
    | some entry =>
        let shown : Text.Shown := .record "ImportEntry" [("name", .quoted entry.name)]
        .error (.invalid ("import entry has an empty name: " ++ shown.inline))
    | none => .ok ()

def ofToml (text : String) : Except ConfigError Config :=
  match Document.ofToml? text with
  | none => .error .malformed
  | some document =>
      match Config.read .toml document with
      | .error error => .error (.mistyped error)
      | .ok config =>
          match config.validate with
          | .error error => .error error
          | .ok () => .ok config

def load (files : Files) (path : String) : Except ConfigError Config :=
  match files path with
  | .error failure => .error (.unreadable path failure)
  | .ok bytes =>
      match Text.ofUtf8 bytes with
      | .error _ => .error (.unreadable path .notText)
      | .ok text => ofToml text

end Config

end Custody
