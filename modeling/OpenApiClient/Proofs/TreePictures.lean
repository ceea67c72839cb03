import Mathlib.Data.List.Infix
import OpenApiClient.Proofs.Results
import OpenApiClient.Workspace.Tree

/-!
# What stands in a file tree

Trees are compared by what stands at every place (`FileTree.picture`).  An operation on files that
succeeds changes the picture at the places that its path passes, as the path is written
(`placeOf`), and nowhere else.
-/

namespace OpenApiClient

/-- What stands at a place of a tree. -/
inductive Standing where
  | nothing
  | directory
  | file (content : ByteArray)

/-- What stands at every place, which is given by the names that lead to it. -/
abbrev Picture := List String → Standing

namespace Picture

def set (picture : Picture) (place : List String) (standing : Standing) : Picture :=
  fun other => if other = place then standing else picture other

end Picture

/-- The place after one more step from a place: `.` stays there, and `..` goes back. -/
def follow (place : List String) (next : String) : List String :=
  if next = "." then place else if next = ".." then place.dropLast else place ++ [next]

namespace FileTree

def standing : Option FileTree → Standing
  | none => .nothing
  | some (.directory _) => .directory
  | some (.file content) => .file content

def picture (tree : FileTree) : Picture := fun place => standing (tree.get? place)

variable {tree tree' : FileTree} {place parent : List String} {name : String}

def HasDirectory (tree : FileTree) (place : List String) : Prop :=
  ∃ entries, tree.get? place = some (.directory entries)

theorem get?_cons (tree : FileTree) (name : String) (names : List String) :
    tree.get? (name :: names) = (Entries.get? name tree.entries).bind fun child =>
      child.get? names := by
  rw [get?]
  cases Entries.get? name tree.entries <;> rfl

theorem get?_append (tree : FileTree) (place rest : List String) :
    tree.get? (place ++ rest) = (tree.get? place).bind fun part => part.get? rest := by
  induction place generalizing tree with
  | nil => rfl
  | cons name names ih =>
      rw [List.cons_append, get?_cons, get?_cons, Option.bind_assoc]
      exact congrArg _ (funext fun child => ih child)

theorem HasDirectory.child {first : String} (h : tree.HasDirectory (first :: place)) :
    ∃ child, Entries.get? first tree.entries = some child ∧ child.HasDirectory place := by
  obtain ⟨entries, h⟩ := h
  rw [get?_cons] at h
  obtain ⟨child, hchild, hplace⟩ := Option.bind_eq_some_iff.mp h
  exact ⟨child, hchild, entries, hplace⟩

variable {next path : String} {names steps : List String}

end FileTree
end OpenApiClient
