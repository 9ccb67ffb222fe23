import RoundRobin.Files.Tree
import RoundRobin.Settings.Notation

namespace RoundRobin

/-!
# Settings in files

Settings are read from the file that is asked for. If none is, the environment
names one, or there may be one in the place for settings that the environment
tells; where there is nothing, the defaults hold.
-/

/-- The variables of the environment that tell where settings are. -/
structure Environment where
  /-- The file of settings itself. -/
  settingsFile : Option String := none
  /-- The directory for all settings of a user. -/
  settingsHome : Option String := none
  /-- The home directory of a user. -/
  home : Option String := none
  /-- The directory for the data of applications. -/
  applicationData : Option String := none
  deriving DecidableEq, Repr

namespace Environment

/-- Look the variables up by their names. -/
def ofVariables [Monad m]
    (value? : String → m (Option String)) :
    m Environment := do
  let settingsFile ← value? "COOPSCHED_CONFIG"
  let settingsHome ← value? "XDG_CONFIG_HOME"
  let home ← value? "HOME"
  let applicationData ← value? "APPDATA"
  pure
    { settingsFile := settingsFile
      settingsHome := settingsHome
      home := home
      applicationData := applicationData }

/-- The directory for settings: of the variables that are set, the first one decides. -/
def directory? (environment : Environment) : Option String :=
  match environment.settingsHome, environment.home, environment.applicationData with
  | some base, _, _ => some (Path.join base "coopsched")
  | none, some base, _ => some (Path.join (Path.join base ".config") "coopsched")
  | none, none, some base => some (Path.join base "coopsched")
  | none, none, none => none

/-- The file of settings that the environment tells. -/
def settingsPath? (environment : Environment) : Option String :=
  environment.settingsFile.orElse fun _ =>
    environment.directory?.map fun directory => Path.join directory "config.ron"

end Environment

/-- Why settings could not be loaded or saved. -/
inductive SettingsError where
  /-- The file or the directory at a path cannot be used. -/
  | inaccessible (path : String)
  /-- The text is no document of settings. -/
  | malformed
  deriving DecidableEq, Repr

/-- What was found when a file was to be read. -/
inductive Fetched where
  | missing
  /-- There is something, but no file of text. -/
  | unreadable
  | text (content : String)
  deriving DecidableEq, Repr

/-- What reading the file at a path gives. -/
def FileTree.fetch
    (tree : FileTree)
    (path : String) :
    Fetched :=
  match tree.find? path with
  | none => .missing
  | some .directory => .unreadable
  | some (.file content) =>
      match String.fromUTF8? content with
      | some content => .text content
      | none => .unreadable

/-- Where settings are read from. -/
inductive SettingsOrigin where
  /-- A file that must be there. -/
  | required (path : String)
  /-- A file that may be missing. -/
  | optional (path : String)
  | nowhere
  deriving DecidableEq, Repr

/-- Where settings are read from when a path is asked for, or none. -/
def Environment.origin
    (environment : Environment)
    (path? : Option String) :
    SettingsOrigin :=
  match path?, environment.settingsPath? with
  | some path, _ => .required path
  | none, some path => .optional path
  | none, none => .nowhere

namespace Settings

/-- Read settings from a text, or say that it is malformed. -/
def parse (text : String) : Except SettingsError Settings :=
  match parse? text with
  | some settings => .ok settings
  | none => .error .malformed

/-- The settings of an origin, files being read by `fetch`. -/
def load
    (fetch : String → Fetched) :
    SettingsOrigin →
    Except SettingsError Settings
  | .nowhere => .ok {}
  | .required path =>
      match fetch path with
      | .text content => parse content
      | _ => .error (.inaccessible path)
  | .optional path =>
      match fetch path with
      | .missing => .ok {}
      | .unreadable => .error (.inaccessible path)
      | .text content => parse content

/-- Make the directory of a path; a path without a parent needs none. -/
def prepare
    (path : String)
    (tree : FileTree) :
    Except SettingsError FileTree :=
  match Path.parent? path with
  | none => .ok tree
  | some parent =>
      match tree.makeDirectories? parent with
      | some tree => .ok tree
      | none => .error (.inaccessible parent)

/-- Write settings to a file; the directories on the way are made. -/
def save
    (settings : Settings)
    (path : String)
    (tree : FileTree) :
    Except SettingsError FileTree := do
  let tree ← prepare path tree
  match tree.write? path settings.text.toUTF8 with
  | some tree => .ok tree
  | none => .error (.inaccessible path)

end Settings

end RoundRobin
