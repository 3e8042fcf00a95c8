/-
# Runs of store steps

The settings file lives in a folder below a root, among other files.  Settings are loaded and saved,
and other programs may write the file, remove it, or make folders and files around it.
-/
import LaunchGuard.Settings.Store

namespace LaunchGuard

/-- What may happen to the settings file and around it. -/
inductive StoreStep where
  | load
  | save (s : Settings)
  /-- The bytes of the settings file, if it can be read. -/
  | read
  /-- Another program writes the settings file, and makes the folders on the way. -/
  | write (bytes : List UInt8)
  | remove
  /-- A folder below the root, with the folders on the way. -/
  | makeFolder (path : String)
  /-- An empty file below the root. -/
  | makeFile (path : String)
deriving DecidableEq, Repr

/-- The answer to a store step. -/
inductive StoreAnswer where
  | loaded (s : Except StoreFault Settings)
  | saved (s : Except StoreFault Unit)
  | content (bytes : Option (List UInt8))
  /-- Whether it worked. -/
  | done (worked : Bool)
deriving Repr

/-- A folder for the settings below a root, and all files. -/
structure SettingsStore where
  root : Path
  folder : Path
  tree : Tree
deriving Repr

namespace SettingsStore

/-- The store in a folder below an empty root. -/
def empty (root : Path) (folder : String) : SettingsStore :=
  ⟨root, root.join folder, (({} : Tree).ensureFolders root).1⟩

/-- The store after an attempt to change the files, and whether it worked. -/
def attempt (st : SettingsStore) (changed : Except Fault Tree) :
    Logged (StoreAnswer × SettingsStore) :=
  match changed with
  | .ok tree => return (.done true, { st with tree })
  | .error _ => return (.done false, st)

/-- Takes one step. -/
def perform (st : SettingsStore) : StoreStep → Logged (StoreAnswer × SettingsStore)
  | .load => return (.loaded (Settings.load st.tree st.folder), st)
  | .save s => do
    let (tree, result) ← Settings.save st.tree st.folder s
    return (.saved result, { st with tree })
  | .read => return (.content (st.tree.read (Settings.pathIn st.folder)).toOption, st)
  | .write bytes =>
    match st.tree.ensureWay (Settings.pathIn st.folder) with
    | (tree, .ok ()) => { st with tree }.attempt (tree.write (Settings.pathIn st.folder) bytes)
    | (tree, .error _) => return (.done false, { st with tree })
  | .remove => st.attempt (st.tree.remove (Settings.pathIn st.folder))
  | .makeFolder path =>
    match st.tree.ensureFolders (st.root.join path) with
    | (tree, .ok ()) => return (.done true, { st with tree })
    | (tree, .error _) => return (.done false, { st with tree })
  | .makeFile path => st.attempt (st.tree.write (st.root.join path) [])

/-- Takes steps one after the other. -/
def performAll (st : SettingsStore) : List StoreStep → Logged (List StoreAnswer × SettingsStore)
  | [] => return ([], st)
  | s :: rest => do
    let (a, st) ← st.perform s
    let (as, st) ← st.performAll rest
    return (a :: as, st)

end SettingsStore

end LaunchGuard
