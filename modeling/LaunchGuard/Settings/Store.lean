/-
# The settings file

Settings are written one key a line: the three plain settings, then a section for each policy.  The
format has integers of 64 bits with a sign, so a longer time cannot be written.

The settings are kept in one file of a folder.  If there is no such file the defaults hold; a file
that cannot be read, or does not hold settings, is an error.  Saving makes the folders on the way
first and touches the file only when the text to be written is ready.
-/
import LaunchGuard.Files.Tree
import LaunchGuard.Log.Entry
import LaunchGuard.Settings.Basic
import LaunchGuard.Settings.Schema
import LaunchGuard.Text.Utf8

namespace LaunchGuard

/-! ### Settings as text -/

/-- The longest time that can be written. -/
def longestTime : Nat := 0x7fffffffffffffff

/-- A time is too long to be written. -/
inductive WriteFault where
  | timeOutOfRange
deriving DecidableEq, Repr

/-- The text of the fault. -/
def WriteFault.message : WriteFault → String
  | timeOutOfRange => "out-of-range value for u64 type"

/-- A key and its value on a line. -/
def writtenLine (key value : String) : String := key ++ " = " ++ value ++ "\n"

/-- The text of a switch. -/
def writtenFlag (b : Bool) : String := if b then "true" else "false"

/-- The text of a whole number. -/
def writtenNat (n : Nat) : String := String.ofList (Nat.toDigits 10 n)

namespace RetryPolicy

/-- Whether both times can be written. -/
def isWritable (p : RetryPolicy) : Bool :=
  p.timeout.toNat ≤ longestTime && p.delay.toNat ≤ longestTime

/-- The section of a policy. -/
def written (key : String) (p : RetryPolicy) : String :=
  "\n[" ++ key ++ "]\n"
    ++ writtenLine "max_attempts" (writtenNat p.maxAttempts.toNat)
    ++ writtenLine "timeout_ms" (writtenNat p.timeout.toNat)
    ++ writtenLine "delay_ms" (writtenNat p.delay.toNat)

end RetryPolicy

namespace Settings

/-- The text of the settings, whatever their times. -/
def written (s : Settings) : String :=
  writtenLine "port" (writtenNat s.port.toNat)
    ++ writtenLine "single_instance_enabled" (writtenFlag s.singleInstance)
    ++ writtenLine "log_to_file" (writtenFlag s.logToFile)
    ++ s.notifyRetry.written "notify_retry"
    ++ s.queryRetry.written "query_retry"

/-- The text of the settings, if their times can be written. -/
def write (s : Settings) : Except WriteFault String :=
  if s.notifyRetry.isWritable && s.queryRetry.isWritable then .ok s.written
  else .error .timeOutOfRange

end Settings

/-! ### The file -/

/-- Why settings cannot be loaded or saved. -/
inductive StoreFault where
  | files (f : Fault)
  | read (f : ReadFault)
  | write (f : WriteFault)
deriving DecidableEq, Repr

/-- The text of a fault. -/
def StoreFault.message : StoreFault → String
  | files f => "IO error: " ++ f.message
  | read f => "TOML parse error: " ++ f.message
  | write f => "TOML serialize error: " ++ f.message

namespace Settings

/-- The name of the settings file. -/
def fileName : String := "runner.toml"

/-- The path of the settings file in a folder. -/
def pathIn (folder : Path) : Path := folder.join fileName

/-- Loads the settings of a folder. -/
def load (t : Tree) (folder : Path) : Except StoreFault Settings :=
  if t.contains (pathIn folder) then
    match t.read (pathIn folder) with
    | .error f => .error (.files f)
    | .ok bytes =>
      match Text.Utf8.decode? bytes with
      | none => .error (.files .notText)
      | some cs => (Settings.read (String.ofList cs)).mapError .read
  else .ok {}

/-- Saves settings in a folder; the tree afterwards, and whether that worked. -/
def save (t : Tree) (folder : Path) (s : Settings) : Logged (Tree × Except StoreFault Unit) :=
  match t.ensureFolders folder with
  | (t, .error f) => return (t, .error (.files f))
  | (t, .ok ()) =>
    match s.write with
    | .error f => return (t, .error (.write f))
    | .ok text =>
      match t.write (pathIn folder) (Text.Utf8.bytesOf text) with
      | .error f => return (t, .error (.files f))
      | .ok t => do
        Logged.write .debug .settings
          ("Saved runner config to " ++ (pathIn folder).quoted)
        return (t, .ok ())

end Settings

end LaunchGuard
