/-
# The environment of a launch

A launch is given arguments and variables as bytes, which need not be text.  A variable whose value
is no text counts as unset wherever text is wanted.

The environment also tells where the program keeps its files: under the folders that two variables
name, if they do so from the top, and otherwise under the home folder.  These are paths, and so any
bytes.  Without a home folder there is no place for files at all.

Before anything is logged a launch loads its settings and applies the override, since the settings
say where the log goes.  Settings that cannot be loaded are replaced by the defaults, to which the
override applies just the same.
-/
import LaunchGuard.Files.Path
import LaunchGuard.Settings.Store
import LaunchGuard.Text.Classes
import LaunchGuard.Text.Utf8

namespace LaunchGuard

/-- What a launch is given. -/
structure Environment where
  /-- The arguments after the name of the program. -/
  args : List (List UInt8) := []
  vars : List (String × List UInt8) := []
  /-- The home folder of the account, if the system knows it, for want of a variable that names it. -/
  accountHome : Option Path := some ⟨"/root"⟩
deriving Repr

namespace Environment

/-- The value of a variable, if it is set and is text. -/
def text? (e : Environment) (name : String) : Option String :=
  ((e.vars.lookup name).bind Text.Utf8.decode?).map String.ofList

/-- The path that a variable holds, if it is set. -/
def path? (e : Environment) (name : String) : Option Path :=
  (e.vars.lookup name).map fun bytes => ⟨⟨bytes⟩⟩

/-- The arguments, if all of them are text. -/
def argTexts? (e : Environment) : Option (List String) :=
  e.args.mapM fun bytes => (Text.Utf8.decode? bytes).map String.ofList

/-- The variables that may name the user, in the order in which they are consulted. -/
def userVariables : List String := ["USERNAME", "USER", "LOGNAME"]

/-- The user that the variables name: the first value that is text and not blank, trimmed. -/
def user? (e : Environment) : Option String :=
  userVariables.findSome? fun name =>
    (e.text? name).bind fun v =>
      let v := Text.trim v.toList
      if v = [] then none else some (String.ofList v)

/-- The home folder: the one that the variable names, or else that of the account. -/
def home? (e : Environment) : Option Path :=
  match (e.path? "HOME").filter (·.bytes ≠ []) with
  | some p => some p
  | none => e.accountHome

/-- The folder that a variable names, or else one under the home folder. -/
def baseFolder (e : Environment) (home : Path) (name : String) (underHome : String) : Path :=
  match (e.path? name).filter Path.isAbsolute with
  | some p => p
  | none => home.join underHome

/-- The name of the program's own folders. -/
def programFolder : String := "backupdatabase"

/-- The folder of the settings file, if there is a home folder. -/
def settingsFolder? (e : Environment) : Option Path :=
  e.home?.map fun home => (e.baseFolder home "XDG_CONFIG_HOME" ".config").join programFolder

/-- The folder of the log files, if there is a home folder. -/
def logFolder? (e : Environment) : Option Path :=
  e.home?.map fun home =>
    ((e.baseFolder home "XDG_DATA_HOME" ".local/share").join programFolder).join "logs"

/-- The folder of the settings file; the empty path stands for a missing one. -/
def settingsFolder (e : Environment) : Path := e.settingsFolder?.getD ⟨""⟩

/-- The folder of the log files; the empty path stands for a missing one. -/
def logFolder (e : Environment) : Path := e.logFolder?.getD ⟨""⟩

end Environment

/-! ### What is known when logging starts -/

/-- Why the settings of a launch cannot be loaded. -/
inductive SettingsFault where
  /-- There is no folder for them. -/
  | noFolder
  | store (f : StoreFault)
deriving DecidableEq, Repr

/-- The text of the fault. -/
def SettingsFault.message : SettingsFault → String
  | noFolder => "No config directory found"
  | store f => f.message

/-- What a launch knows when logging starts. -/
structure Preparation where
  settings : Settings
  /-- Why the settings could not be loaded. -/
  fault : Option SettingsFault
  /-- Whether the override changed the settings. -/
  overridden : Bool
deriving Repr

namespace Preparation

/-- Loads the settings of a launch. -/
def load (t : Tree) (e : Environment) : Except SettingsFault Settings :=
  match e.settingsFolder? with
  | none => .error .noFolder
  | some folder => (Settings.load t folder).mapError .store

/-- The settings that were loaded, or else the defaults, and then the fault. -/
def loaded (t : Tree) (e : Environment) : Settings × Option SettingsFault :=
  match load t e with
  | .ok s => (s, none)
  | .error f => ({}, some f)

/-- Prepares a launch. -/
def of (t : Tree) (e : Environment) : Preparation :=
  let (s, fault) := loaded t e
  let (overridden, s) := s.override (e.text? overrideVariable)
  ⟨s, fault, overridden⟩

end Preparation

end LaunchGuard
