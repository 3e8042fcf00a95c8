/-
# The command line

The program takes its arguments and variables from the system, reads its settings file and tries the
launch lock, and hands all of them to the machine, which decides and logs.  This layer opens no
sockets, so the loopback link counts as down.  A launch that waits does so until its standard input
ends.
-/
import LaunchGuard.Startup.Machine

namespace LaunchGuard.Main

/-- The variables that a launch looks at. -/
def variableNames : List String :=
  Environment.userVariables ++
    ["HOME", "XDG_CONFIG_HOME", "XDG_DATA_HOME", serviceVariable, overrideVariable, filterVariable]

/-- The environment of this process. -/
def environment (args : List String) : IO Environment := do
  let found ← variableNames.filterMapM fun name => do
    return (← IO.getEnv name).map fun value => (name, Text.Utf8.bytesOf value)
  return { args := args.map Text.Utf8.bytesOf, vars := found }

/-- The files of this process as far as a launch looks at them: the shared folder of the lock, and
the settings file if there is one. -/
def files (e : Environment) : IO Tree := do
  let (tree, _) := ({} : Tree).ensureFolders Machine.lockFolder
  let some folder := e.settingsFolder? | return tree
  let path := Settings.pathIn folder
  try
    let bytes ← IO.FS.readBinFile path.text
    let (tree, _) := tree.ensureFolders folder
    return (tree.write path bytes.toList).toOption.getD tree
  catch _ => return tree

/-- The file of the launch lock, opened and locked, unless another process has it locked. -/
def takeLock : IO (Option IO.FS.Handle) := do
  let lock : Lock := { name := sharedLockName, folder := Machine.lockFolder }
  let handle ← IO.FS.Handle.mk lock.path.text .append
  return if ← handle.tryLock then some handle else none

/-- The machine around this process, where another process may have the launch lock. -/
def machine (e : Environment) (lockIsFree : Bool) : IO Machine := do
  let registry : Registry := { tree := ← files e }
  let other := "another process"
  let registry :=
    if lockIsFree then registry
    else
      let made := (registry.create other sharedLockName Machine.lockFolder).value
      (made.acquire other).value.2
  return { registry, link := .down, account := none }

/-- Whether a launch keeps the launch lock. -/
def keepsLock (l : Launch) : Bool := l.window?.any Running.guarded

/-- Writes the entries of a launch after the first `n`, to the log file as well if it has one. -/
def writeAfter (e : Environment) (n : Nat) (l : Launch) : IO Unit := do
  let lines := (l.log.drop n).map fun entry => entry.full ++ "\n"
  IO.eprint (String.join lines)
  if let (true, some folder, some path) := (l.toFile, e.logFolder?, Machine.logPath? e) then
    IO.FS.createDirAll folder.text
    let file ← IO.FS.Handle.mk path.text .append
    file.putStr (String.join lines)

/-- Waits until the standard input ends. -/
partial def waitForEnd (input : IO.FS.Stream) : IO Unit := do
  let line ← input.getLine
  if line ≠ "" then waitForEnd input

/-- Runs a launch until it ends, and tells its exit code. -/
def runLaunch (e : Environment) (lock : Option IO.FS.Handle) : IO Nat := do
  let id := "this process"
  let m := (← machine e lock.isSome).start id e
  let some l := m.launch? id | return 1
  writeAfter e 0 l
  if !keepsLock l then lock.forM (·.unlock)
  if let some code := l.exitCode then return code
  waitForEnd (← IO.getStdin)
  let some ended := (m.interrupt id).launch? id | return 1
  writeAfter e l.log.length ended
  if keepsLock l then lock.forM (·.unlock)
  return ended.exitCode.getD 0

end LaunchGuard.Main

/-- Launches the program and exits with its code. -/
def main (args : List String) : IO UInt32 := do
  let e ← LaunchGuard.Main.environment args
  let code ← LaunchGuard.Main.runLaunch e (← LaunchGuard.Main.takeLock)
  return code.toUInt32
