/-
Settings out of a file.

A file can be missing, be a directory, have a name that no file can have, or hold
bytes that are no text; a text can be no document; a document can hold a value of
the wrong kind; and settings can be wrong in themselves.  What goes wrong first is
what is reported, and of the last sort everything is.
-/
import Tripwire.Settings.Problem
import Tripwire.Settings.Reading
import Tripwire.Text.Utf8
import Tripwire.Toml.Document

namespace Tripwire

/-- What is found under the name of a file. -/
inductive File where
  | missing
  | directory
  /-- The name is longer than names can be. -/
  | unnameable
  | bytes (content : List UInt8)

/-- Why a file gives no text. -/
inductive FileError where
  | missing
  | directory
  | nameTooLong
  | notText
  deriving DecidableEq, Repr

namespace FileError

/-- The kind of error. -/
def kind : FileError → String
  | missing => "NotFound"
  | directory => "IsADirectory"
  | nameTooLong => "InvalidFilename"
  | notText => "InvalidData"

/-- The error in words, without its number. -/
def words : FileError → String
  | missing => "No such file or directory"
  | directory => "Is a directory"
  | nameTooLong => "File name too long"
  | notText => "stream did not contain valid UTF-8"

/-- The number the system gives the error, if it is one of the system's. -/
def code? : FileError → Option Nat
  | missing => some 2
  | directory => some 21
  | nameTooLong => some 36
  | notText => none

/-- The error in words. -/
def message (e : FileError) : String :=
  match e.code? with
  | some code => e.words ++ " (os error " ++ toString code ++ ")"
  | none => e.words

/-- The error with all its parts. -/
def text (e : FileError) : String :=
  match e.code? with
  | some code => Text.recordLine "Os"
      [("code", toString code), ("kind", e.kind), ("message", Text.quote e.words)]
  | none => Text.recordLine "Error" [("kind", e.kind), ("message", Text.quote e.words)]

end FileError

/-- Why there are no settings. -/
inductive SettingsError where
  | file (e : FileError)
  | notDocument
  | mismatch (m : Mismatch)
  | problems (ps : List Problem)

/-- The text in a file. -/
def File.text? : File → Except FileError String
  | .missing => .error .missing
  | .directory => .error .directory
  | .unnameable => .error .nameTooLong
  | .bytes content =>
      match Text.Utf8.decode? content with
      | some s => .ok s
      | none => .error .notText

namespace Settings

/-- The settings, if nothing is wrong with them. -/
def checked (s : Settings) : Except SettingsError Settings :=
  if s.problems = [] then .ok s else .error (.problems s.problems)

/-- The settings that a text describes, whether or not something is wrong with them. -/
def ofText (text : String) : Except SettingsError Settings :=
  match Toml.document? text with
  | none => .error .notDocument
  | some entries => (ofEntries entries).mapError .mismatch

/-- The settings that a text describes. -/
def parse (text : String) : Except SettingsError Settings := do
  (← ofText text).checked

/-- The settings that a file describes. -/
def load (file : File) : Except SettingsError Settings := do
  parse (← file.text?.mapError .file)

end Settings

/-- The error in words. -/
def SettingsError.message : SettingsError → String
  | .file e => "IO error: " ++ e.message
  | .notDocument => "Parse error"
  | .mismatch m => "Parse error: " ++ m.message
  | .problems ps => "Validation failed: " ++ Problem.joined ps

end Tripwire
