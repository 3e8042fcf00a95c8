/-
# The depth of a pattern

How deep the parts of a pattern lie inside one another is limited.  A repetition, a group and a set
lie one deeper than what they are made of, and so does each row of two parts or more, whether they
follow one another or are set apart by bars.

A group and a set are measured while they are read, so that no tree of the pattern is built.
-/
import LaunchGuard.Log.Pattern.Flags

namespace LaunchGuard.Pattern

/-- The greatest depth of a pattern. -/
def greatestDepth : Nat := 250

/-- The depth of parts that follow one another, from theirs. -/
def rowDepth : List Nat → Nat
  | [] => 0
  | [d] => d
  | ds => 1 + ds.foldl max 0

/-- A part of a branch of a group. -/
inductive Item where
  /-- Flags for the rest of the group, which nothing can repeat. -/
  | flags
  /-- Any other part, by its depth. -/
  | part (depth : Nat)
deriving DecidableEq, Repr

namespace Item

/-- The depth of an item. -/
def depth : Item → Nat
  | flags => 0
  | part d => d

/-- The repetition of an item. -/
def repeated? : Item → Option Item
  | flags => none
  | part d => some (part (d + 1))

end Item

/-- A group whose end is not read yet; the pattern as a whole is one, too. -/
structure Group where
  /-- The flags that hold where it is read. -/
  flags : Flags := {}
  /-- The depth of its deepest branch that a bar has ended, if one has. -/
  ended : Option Nat := none
  /-- The items of the branch that is read, the last one first. -/
  items : List Item := []
deriving DecidableEq, Repr

namespace Group

/-- The depth of the branch that is read. -/
def branchDepth (g : Group) : Nat := rowDepth (g.items.map Item.depth)

/-- The depth of what the group is made of. -/
def depth (g : Group) : Nat :=
  match g.ended with
  | none => g.branchDepth
  | some d => 1 + max d g.branchDepth

/-- Adds an item to the branch. -/
def add (g : Group) (item : Item) : Group := { g with items := item :: g.items }

/-- Ends the branch by a bar. -/
def bar (g : Group) : Group :=
  { g with ended := some (max (g.ended.getD 0) g.branchDepth), items := [] }

/-- Repeats the last item. -/
def repeat? (g : Group) : Option Group :=
  match g.items with
  | [] => none
  | item :: items => item.repeated?.map fun item => { g with items := item :: items }

end Group

/-- A set whose end is not read yet. -/
structure OpenSet where
  /-- Whether nothing but minus signs is read of it. -/
  fresh : Bool := true
  /-- The depth of what stands before the last operation on sets, if there is one. -/
  operand : Option Nat := none
  /-- The depths of the items behind it. -/
  items : List Nat := []
deriving DecidableEq, Repr

namespace OpenSet

/-- The depth of what the set is made of. -/
def depth (s : OpenSet) : Nat :=
  match s.operand with
  | none => rowDepth s.items
  | some d => 1 + max d (rowDepth s.items)

/-- Adds an item. -/
def add (s : OpenSet) (depth : Nat) : OpenSet := { s with items := depth :: s.items }

/-- Joins what is read to what follows by an operation. -/
def operate (s : OpenSet) : OpenSet := { s with operand := some s.depth, items := [] }

end OpenSet

/-- The greatest of a row of numbers is at least each of them, and the one that it starts from. -/
theorem le_foldl_max (l : List Nat) (a : Nat) :
    a ≤ l.foldl max a ∧ ∀ x ∈ l, x ≤ l.foldl max a := by
  induction l generalizing a with
  | nil => simp
  | cons y l ih =>
    obtain ⟨base, rest⟩ := ih (max a y)
    refine ⟨Nat.le_trans (Nat.le_max_left a y) base, fun x hx => ?_⟩
    rcases List.mem_cons.mp hx with rfl | hx
    · exact Nat.le_trans (Nat.le_max_right a x) base
    · exact rest x hx

end LaunchGuard.Pattern
