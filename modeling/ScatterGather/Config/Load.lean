import ScatterGather.Config.EnvironmentFile
import ScatterGather.SystemFault
import ScatterGather.Toml.Reader

/-!
# Finding the configuration

`Config.load` reads the configuration file, which may be named, and the file `.env` beside it. The
environment overrides the file, and `.env` never overrides the environment; what comes out must be
valid. How the two files are read is up to the `Formats`; the standard ones are the settings of
`Toml.read?` and the variables of `EnvironmentFile.addTo`.
-/

namespace ScatterGather

/-- What is found under a path. -/
inductive Source where
  | absent
  /-- There is something, but it cannot be read. -/
  | unreadable (reason : String)
  | file (content : ByteArray)
deriving Inhabited

/-- A file of a text. -/
def Source.ofText (text : String) : Source := .file text.toUTF8

/-- Finds what there is under a path. -/
abbrev Disk := String → Source

/-! ### A disk of a few files -/

/-- The texts of files, by their paths from the working directory. -/
abbrev Files := List (String × String)

namespace Files

/-- The names on the path of a file that there is. -/
def names (path : String) : List String := (path.splitOn "/").filter fun n => n ≠ "" ∧ n ≠ "."

/-- The text of a file. -/
def text? (files : Files) (place : List String) : Option String :=
  (files.find? fun f => names f.1 == place).map (·.2)

/-- There is a directory. -/
def isDirectory (files : Files) (place : List String) : Bool :=
  place.isEmpty || files.any fun f =>
    place.isPrefixOf (names f.1) && place.length < (names f.1).length

/-- One more name on a path, which leads on from a directory alone. -/
def enter (files : Files) (done : List String) (name : String) : Option (List String) :=
  if !files.isDirectory done then none
  else if name = "" ∨ name = "." then some done
  else if name = ".." then if done.isEmpty then none else some done.dropLast
  else some (done ++ [name])

/-- What there is under a path; nothing under one that leads out of the working directory. -/
def disk (files : Files) : Disk := fun path =>
  if path = "" ∨ path.startsWith "/" then .absent
  else
    match (path.splitOn "/").foldlM files.enter [] with
    | none => .absent
    | some done =>
      match files.text? done with
      | some text => .ofText text
      | none =>
        if files.isDirectory done then .unreadable SystemFault.isDirectory.text else .absent

end Files

/-! ### Formats -/

/-- How the two files are read. -/
structure Formats where
  /-- The entries of the table that a text of settings holds; none if it is not well-formed. -/
  settings : String → Option (List (String × Document))
  /-- The environment with what a file of variables adds to it; none where one of them cannot be
  set. -/
  environment : Environment → ByteArray → Option Environment

/-- The formats of the program. -/
def Formats.standard : Formats := ⟨Toml.read?, EnvironmentFile.addTo⟩

/-! ### Faults -/

/-- Why there is no configuration. -/
inductive LoadFault where
  /-- The file that was named does not exist. -/
  | notFound (path : String)
  /-- A variable cannot be set: the program breaks off. -/
  | unsettable
  | unreadable (reason : String)
  /-- The file is not well-formed, or holds something else than a configuration. -/
  | malformed
  | invalid (fault : ConfigFault)
deriving DecidableEq, Repr

/-- The wording of a fault. -/
def LoadFault.message : LoadFault → String
  | .notFound path => "Configuration file not found: " ++ path
  | .unsettable => "failed to set environment variable"
  | .unreadable reason => reason
  | .malformed => "TOML parse error"
  | .invalid fault => fault.message

namespace Config

/-- The file that is looked for where none is named. -/
def defaultFile : String := "shardline.toml"

/-- The file that adds variables to the environment. -/
def environmentFile : String := ".env"

/-- The path of the file of variables beside a configuration file. -/
def environmentFileBeside (path : String) : String :=
  (if path.startsWith "/" then "/" else "")
    ++ "/".intercalate ((Files.names path).dropLast ++ [environmentFile])

/-- Reads a configuration from the text of a file. -/
def ofText (text : String) (formats : Formats := .standard) : Except Fault Config :=
  match formats.settings text with
  | some entries => ofDocument Toml.reading (.record entries)
  | none => .error .malformed

/-- What the configuration file holds before anything overrides it. -/
def ofSource (formats : Formats) : Source → Except LoadFault Config
  | .absent => .ok {}
  | .unreadable reason => .error (.unreadable reason)
  | .file content =>
    match String.fromUTF8? content with
    | some text => (ofText text formats).mapError fun _ => .malformed
    | none => .error (.unreadable "stream did not contain valid UTF-8")

/-- The environment with what the file of variables beside the configuration file adds. -/
def environmentBeside (formats : Formats) (disk : Disk) (env : Environment) (path : String) :
    Option Environment :=
  match disk (environmentFileBeside path) with
  | .file content => formats.environment env content
  | _ => some env

/-- Overrides by the environment, and the check of what comes out; with the warnings on the way. -/
def resolve (c : Config) (env : Environment) : List LogLine × Except ConfigFault Config :=
  let c := c.applyEnvironment env
  (environmentWarnings env, c.validate.map fun _ => c)

/-- The path of the configuration file. -/
def pathOf (named : Option String) : String := named.getD defaultFile

/-- Finds the configuration, with the warnings on the way. -/
def load (disk : Disk) (env : Environment) (named : Option String)
    (formats : Formats := .standard) : List LogLine × Except LoadFault Config :=
  let path := pathOf named
  match named, disk path with
  | some path, .absent => ([], .error (.notFound path))
  | _, source =>
    match environmentBeside formats disk env path with
    | none => ([], .error .unsettable)
    | some env =>
      match ofSource formats source with
      | .error fault => ([], .error fault)
      | .ok c =>
        let (warnings, result) := c.resolve env
        (warnings, result.mapError .invalid)

end Config

end ScatterGather
