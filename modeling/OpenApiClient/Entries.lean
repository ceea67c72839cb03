/-!
# Entries in order

A mapping from keys to values that keeps the order in which its keys first came: a list of
entries.  Writing to a key that is there replaces its value and keeps its place.
-/

namespace OpenApiClient

/-- A mapping that keeps the order of its keys. -/
abbrev Entries (α : Type _) := List (String × α)

namespace Entries

variable {α : Type _} {β : Type _}

/-- Writes a value under a key: in the place of the old value, or else at the end. -/
def put (key : String) (value : α) : Entries α → Entries α
  | [] => [(key, value)]
  | (k, v) :: rest => if k = key then (k, value) :: rest else (k, v) :: put key value rest

def get? (key : String) : Entries α → Option α
  | [] => none
  | (k, v) :: rest => if k = key then some v else get? key rest

def keys (entries : Entries α) : List String := entries.map Prod.fst

/-- The mapping that results from writing all the pairs in turn. -/
def ofPairs (pairs : List (String × α)) : Entries α :=
  pairs.foldl (fun entries pair => put pair.1 pair.2 entries) []

@[simp] theorem get?_nil (key : String) : get? key ([] : Entries α) = none := rfl

theorem get?_put (key other : String) (value : α) (entries : Entries α) :
    get? other (put key value entries) =
      if key = other then some value else get? other entries := by
  induction entries with
  | nil => rfl
  | cons entry rest ih =>
    obtain ⟨k, v⟩ := entry
    by_cases hk : k = key
    · subst hk
      by_cases ho : k = other <;> simp [put, get?, ho]
    · by_cases ho : k = other
      · subst ho
        have : ¬ key = k := fun h => hk h.symm
        simp [put, get?, hk, this]
      · simp [put, get?, hk, ho, ih]

end Entries
end OpenApiClient
