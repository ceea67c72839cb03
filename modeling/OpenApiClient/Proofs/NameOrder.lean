import OpenApiClient.Api.NameOrder

/-!
# The order of names is total

Names are compared by their lower case and then the other way round by themselves.  Both are total
orders, and the second tells all names apart, so that only a name is equal to itself.  Hence items
of different names are sorted in strictly ascending order.
-/

namespace OpenApiClient

open Std

instance : TransCmp compareNames :=
  inferInstanceAs (TransCmp (compareLex (compareOn Text.lowercase) fun a b => compare b a))

instance : LawfulEqCmp compareNames where
  eq_of_compare {a b} h := by
    have hsame : compare b a = .eq := (Ordering.then_eq_eq.mp h).2
    exact (LawfulEqCmp.eq_of_compare hsame).symm

@[simp] theorem compareOptionalNames_some (a b : String) :
    compareOptionalNames (some a) (some b) = compareNames a b := rfl

instance : TransCmp compareOptionalNames where
  eq_swap {a b} := by
    match a, b with
    | none, none => rfl
    | none, some _ => rfl
    | some _, none => rfl
    | some a, some b =>
        rw [compareOptionalNames_some, compareOptionalNames_some]
        exact OrientedCmp.eq_swap
  isLE_trans {a b c} hab hbc := by
    match a, b, c with
    | none, _, none => rfl
    | none, _, some _ => rfl
    | some a, some b, some c =>
        rw [compareOptionalNames_some] at hab hbc ⊢
        exact TransCmp.isLE_trans hab hbc

instance : LawfulEqCmp compareOptionalNames where
  compare_self {a} := by
    match a with
    | none => rfl
    | some a =>
        rw [compareOptionalNames_some]
        exact ReflCmp.compare_self
  eq_of_compare {a b} h := by
    match a, b with
    | none, none => rfl
    | some a, some b =>
        rw [compareOptionalNames_some] at h
        rw [LawfulEqCmp.eq_of_compare h]

variable {α : Type} {name : α → Option String} {items : List α}

theorem mem_sortByName {item : α} : item ∈ sortByName name items ↔ item ∈ items :=
  List.mem_mergeSort

theorem pairwise_sortByName :
    (sortByName name items).Pairwise fun a b =>
      (compareOptionalNames (name a) (name b)).isLE = true := by
  have hle : ∀ a b : Option String,
      (compareOptionalNames a b != .gt) = (compareOptionalNames a b).isLE := by
    intro a b
    cases compareOptionalNames a b <;> rfl
  simp only [sortByName, hle]
  apply List.pairwise_mergeSort
  · intro a b c hab hbc
    exact TransCmp.isLE_trans hab hbc
  · intro a b
    have hswap : compareOptionalNames (name a) (name b) =
      (compareOptionalNames (name b) (name a)).swap := OrientedCmp.eq_swap
    rw [hswap]
    cases compareOptionalNames (name b) (name a) <;> rfl

/-- Items of different names are sorted in strictly ascending order. -/
theorem pairwise_lt_sortByName (h : (items.map name).Nodup) :
    (sortByName name items).Pairwise fun a b =>
      compareOptionalNames (name a) (name b) = .lt := by
  have hnodup : ((sortByName name items).map name).Nodup :=
    ((List.mergeSort_perm items _).map name).nodup_iff.mpr h
  have hne : (sortByName name items).Pairwise fun a b => name a ≠ name b :=
    List.pairwise_map.mp hnodup
  refine (pairwise_sortByName.and hne).imp fun {a b} hab => ?_
  obtain ⟨hle, hne⟩ := hab
  cases hcompare : compareOptionalNames (name a) (name b) with
  | lt => rfl
  | eq => exact absurd (LawfulEqCmp.eq_of_compare hcompare) hne
  | gt => simp [hcompare] at hle

end OpenApiClient
