import OpenApiClient.Text.Folding

/-!
# The order of names

Names are listed by their lower case; of two names with the same lower case the one with the
greater text comes first, so that small letters go before capitals.  No name goes before all.
-/

namespace OpenApiClient

def compareNames (a b : String) : Ordering :=
  (compare (Text.lowercase a) (Text.lowercase b)).then (compare b a)

def compareOptionalNames : Option String → Option String → Ordering
  | none, none => .eq
  | none, some _ => .lt
  | some _, none => .gt
  | some a, some b => compareNames a b

/-- Items sorted by their names; items of one name keep their order. -/
def sortByName {α : Type} (name : α → Option String) (items : List α) : List α :=
  items.mergeSort fun a b => compareOptionalNames (name a) (name b) != .gt

end OpenApiClient
