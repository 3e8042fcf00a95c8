/-
# A tree of files

The file system as a launch sees it: folders, and files with their bytes.  Every file has a number
of its own, given when it is made, so that a file that is removed and made again is another file.

A path is followed step by step.  Each step needs a folder to start from, and the last step may
lead to a name that nothing has yet.  A path that is too long or contains a NUL byte is not followed at
all.  Who may read or write a file plays no part.
-/
import LaunchGuard.Fault
import LaunchGuard.Files.Path

namespace LaunchGuard

/-- The names that lead from the top to a place in the tree. -/
abbrev Place := List Spelling

/-- What is at a place. -/
inductive Node where
  | folder
  /-- A file with its number and its bytes. -/
  | file (number : Nat) (content : List UInt8)
deriving DecidableEq, Repr

/-- The tree of files. -/
structure Tree where
  /-- What is at each place below the top, in the order in which it was made. -/
  nodes : List (Place × Node) := []
  /-- The number of the next file. -/
  next : Nat := 0
deriving DecidableEq, Repr

namespace Tree

/-- The longest name that a file may have, in bytes. -/
def nameLimit : Nat := 255

/-- The longest spelling that a path may have, in bytes. -/
def pathLimit : Nat := 4095

/-- What is at a place; the top is a folder. -/
def find? (t : Tree) (place : Place) : Option Node :=
  if place = [] then some .folder else t.nodes.lookup place

/-- Follows the steps from a place. -/
def walk (t : Tree) (place : Place) : List PathStep → Except Fault Place
  | [] => .ok place
  | s :: rest =>
    match t.find? place with
    | none => .error .notFound
    | some (.file ..) => .error .notDirectory
    | some .folder =>
      match s with
      | .stay => t.walk place rest
      | .up => t.walk place.dropLast rest
      | .down name =>
        if name.bytes.length > nameLimit then .error .nameTooLong
        else t.walk (place ++ [name]) rest

/-- The steps of a path, if the system takes it at all. -/
def stepsTo (p : Path) : Except Fault (List PathStep) :=
  if 0 ∈ p.bytes then .error .nulInPath
  else if p.bytes.length > pathLimit then .error .nameTooLong
  else .ok p.steps

/-- The place that a path leads to, and what is there. -/
def reach (t : Tree) (p : Path) : Except Fault (Place × Option Node) := do
  let place ← t.walk [] (← stepsTo p)
  return (place, t.find? place)

/-- The place of something that is to be used as it is; a slash at the end asks for a folder. -/
def look (t : Tree) (p : Path) : Except Fault (Place × Option Node) :=
  match t.reach p with
  | .ok (place, some (.file number content)) =>
    if p.endsInSlash then .error .notDirectory else .ok (place, some (.file number content))
  | found => found

/-- The place of a file that is opened, or made if it is missing; its path has no slash at the
end. -/
def lookForFile (t : Tree) (p : Path) : Except Fault (Place × Option Node) :=
  match t.reach p with
  | .ok found => if p.endsInSlash then .error .isDirectory else .ok found
  | .error f => .error f

/-- Whether the path leads to a folder or a file. -/
def contains (t : Tree) (p : Path) : Bool :=
  match t.look p with
  | .ok (_, some _) => true
  | _ => false

/-- Whether the path leads to a folder. -/
def isFolder (t : Tree) (p : Path) : Bool :=
  match t.look p with
  | .ok (_, some .folder) => true
  | _ => false

/-- The bytes of a file. -/
def read (t : Tree) (p : Path) : Except Fault (List UInt8) :=
  match t.look p with
  | .error f => .error f
  | .ok (_, none) => .error .notFound
  | .ok (_, some .folder) => .error .isDirectory
  | .ok (_, some (.file _ content)) => .ok content

/-- Replaces what is at a place that is already taken. -/
def replace (t : Tree) (place : Place) (n : Node) : Tree :=
  { t with nodes := t.nodes.map fun e => if e.1 = place then (place, n) else e }

/-- Adds a new file at a free place. -/
def addFile (t : Tree) (place : Place) (content : List UInt8) : Tree :=
  ⟨t.nodes ++ [(place, .file t.next content)], t.next + 1⟩

/-- Writes the bytes of a file, which is made if it is missing. -/
def write (t : Tree) (p : Path) (content : List UInt8) : Except Fault Tree :=
  match t.lookForFile p with
  | .error f => .error f
  | .ok (place, none) => .ok (t.addFile place content)
  | .ok (_, some .folder) => .error .isDirectory
  | .ok (place, some (.file number _)) => .ok (t.replace place (.file number content))

/-- Opens a file, which is made if it is missing: its number and the tree with it. -/
def openOrMake (t : Tree) (p : Path) : Except Fault (Nat × Tree) :=
  match t.lookForFile p with
  | .error f => .error f
  | .ok (place, none) => .ok (t.next, t.addFile place [])
  | .ok (_, some .folder) => .error .isDirectory
  | .ok (_, some (.file number _)) => .ok (number, t)

/-- Removes a file. -/
def remove (t : Tree) (p : Path) : Except Fault Tree :=
  match t.look p with
  | .error f => .error f
  | .ok (_, none) => .error .notFound
  | .ok (_, some .folder) => .error .isDirectory
  | .ok (place, some (.file ..)) => .ok { t with nodes := t.nodes.filter (·.1 ≠ place) }

/-- Makes one folder, in a folder that is there already. -/
def makeFolder (t : Tree) (p : Path) : Except Fault Tree :=
  match t.reach p with
  | .error f => .error f
  | .ok (place, none) => .ok { t with nodes := t.nodes ++ [(place, .folder)] }
  | .ok (_, some _) => .error .alreadyExists

/-- Makes a folder unless it is there already. -/
def ensureFolder (t : Tree) (p : Path) : Tree × Except Fault Unit :=
  match t.makeFolder p with
  | .ok t' => (t', .ok ())
  | .error f => if t.isFolder p then (t, .ok ()) else (t, .error f)

/-- Makes the first of some folders, and for want of the folder that it lies in those after it
first; what was made stays even if one further along cannot be made. -/
def ensureChain (t : Tree) : List Path → Tree × Except Fault Unit
  | [] => (t, .ok ())
  | p :: above =>
    match t.ensureFolder p with
    | (t', .error .notFound) =>
      match t'.ensureChain above with
      | (t'', .ok ()) => t''.ensureFolder p
      | failed => failed
    | done => done

/-- Makes a folder and the folders on the way to it. -/
def ensureFolders (t : Tree) (p : Path) : Tree × Except Fault Unit :=
  t.ensureChain (p :: p.ancestors)

/-- Makes the folders on the way to a file. -/
def ensureWay (t : Tree) (p : Path) : Tree × Except Fault Unit := t.ensureChain p.ancestors

/-- The names in a folder as text, in order. -/
def names (t : Tree) (p : Path) : List String :=
  match t.look p with
  | .ok (place, some .folder) =>
    let inside := t.nodes.filterMap fun e =>
      if e.1 ≠ [] ∧ e.1.dropLast = place then e.1.getLast?.map Spelling.text else none
    inside.mergeSort (fun a b => a ≤ b)
  | _ => []

end Tree

end LaunchGuard
