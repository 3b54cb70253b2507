/-
# SqlLex.Settings -- choosing a dialect by configuration

Settings name the dialect to read with.  They come from a name, from an
environment variable, from a TOML document or file, or from a JSON document; what
names no dialect is an error and leaves no settings.

`merge` lays one configuration over another.  The generic dialect is what settings
hold when nothing was chosen, so it gives way to any other choice.
-/
import SqlLex.Dialect.Preset
import SqlLex.Error
import SqlLex.Json.Reader
import SqlLex.Source.Utf8
import SqlLex.Toml.Reader

namespace SqlLex

set_option autoImplicit false

namespace Preset

/-- Reads the name of a preset as a person would type it. -/
def parse (s : String) : Except Error Preset :=
  match ofName? s with
  | some preset => .ok preset
  | none => .error (.configuration ("Unsupported dialect: " ++ s))

/-- Reads the name of a preset in a document: the exact name, or an object whose one field has that
name and is null. -/
def ofJson? : Json → Option Preset
  | .string (some name) => ofExactName? name
  | .object [(some name, .null)] => ofExactName? name
  | _ => none

/-- Reads the name of a preset in a TOML document: the exact name, or a table whose one entry has
that name and holds nothing. -/
def ofToml? : Toml → Option Preset
  | .string name => ofExactName? name
  | .table _ [(name, .table _ [])] => ofExactName? name
  | .table _ [(name, .array [])] => ofExactName? name
  | _ => none

end Preset

/-- What was chosen. -/
structure Settings where
  preset : Preset := .generic
deriving DecidableEq, Repr

/-- What reading a file gave. -/
inductive FileRead where
  | bytes (bs : List UInt8)
  | missing
  | directory
deriving DecidableEq, Repr

namespace Settings

instance : Inhabited Settings := ⟨{}⟩

/-- The environment variable that names a dialect. -/
def environmentVariable : String := "SQLTOKEN_DIALECT"

/-- The dialect that was chosen. -/
def dialect (x : Settings) : Dialect := x.preset.dialect

/-- Lays `top` over `base`: its choice counts unless it chose nothing. -/
def merge (base top : Settings) : Settings :=
  if top.preset = .generic then base else top

/-! ## Environment -/

/-- Settings from the bytes of the environment variable, if it is set.  Bytes that are no text count
as unset. -/
def ofEnvironment (value : Option (List UInt8)) : Except Error Settings :=
  match value.bind Utf8.text? with
  | some name => (Preset.parse name).map (⟨·⟩)
  | none => .ok {}

/-! ## TOML -/

/-- Settings from the entries of a table; a dialect that is left out is the generic one. -/
def ofEntries? (entries : Toml.Entries) : Option Settings :=
  match entries.lookup "dialect" with
  | none => some {}
  | some dialect => (Preset.ofToml? dialect).map (⟨·⟩)

/-- Settings from a TOML document.  The message of the error is cut to `Invalid TOML`: the parser's
own words, which follow it behind a colon, are left out. -/
def ofToml (document : String) : Except Error Settings :=
  match (Toml.parse? document).bind ofEntries? with
  | some settings => .ok settings
  | none => .error (.configuration "Invalid TOML")

/-- Settings from a file with a TOML document. -/
def ofFile : FileRead → Except Error Settings
  | .bytes bs =>
      match Utf8.text? bs with
      | some document => ofToml document
      | none => .error (.io "stream did not contain valid UTF-8")
  | .missing => .error (.io "No such file or directory (os error 2)")
  | .directory => .error (.io "Is a directory (os error 21)")

/-- The TOML document that holds settings. -/
def toToml (x : Settings) : String :=
  "dialect = \"" ++ x.preset.name ++ "\"\n"

/-- What is written to a file in a directory that may be missing. -/
def toFile (directoryExists : Bool) (x : Settings) : Except Error String :=
  if directoryExists then .ok x.toToml
  else .error (.io "No such file or directory (os error 2)")

/-! ## JSON -/

/-- Settings as a JSON value. -/
def toJson (x : Settings) : Json :=
  .ofFields [("dialect", .ofString x.preset.name)]

/-- Reads settings from a JSON value; a dialect that is left out is the generic one. -/
def ofJson? (v : Json) : Option Settings :=
  match v.record? ["dialect"] 0 with
  | some [some preset] => (Preset.ofJson? preset).map (⟨·⟩)
  | some _ => some {}
  | none => none

/-- Settings from a JSON document.  Here too the words of the reader are left out of the error. -/
def ofJson (document : String) : Except Error Settings :=
  match (Json.parse? document).bind ofJson? with
  | some settings => .ok settings
  | none => .error (.configuration "bad JSON")

end Settings

/-- The version of the library. -/
def version : String := "0.1.0"

end SqlLex
