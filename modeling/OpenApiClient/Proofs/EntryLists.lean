import Mathlib.Data.List.Nodup
import OpenApiClient.Entries

/-!
# Mappings as lists of entries

Which entries a mapping holds after a write, and which keys.  Writing keeps keys apart.
-/

namespace OpenApiClient

namespace Entries

variable {α : Type} {entries : Entries α} {key name : String} {value kept : α}

theorem mem_of_get? (h : get? key entries = some value) : (key, value) ∈ entries := by
  induction entries with
  | nil => simp at h
  | cons entry rest ih =>
      obtain ⟨k, v⟩ := entry
      by_cases hk : k = key
      · obtain rfl : v = value := by simpa [get?, hk] using h
        simp [hk]
      · exact List.mem_cons_of_mem _ (ih (by simpa [get?, hk] using h))

theorem mem_put (h : (name, kept) ∈ put key value entries) :
    (name, kept) = (key, value) ∨ (name, kept) ∈ entries := by
  induction entries with
  | nil => simpa [put] using h
  | cons entry rest ih =>
      obtain ⟨k, v⟩ := entry
      by_cases hk : k = key
      · rw [put, if_pos hk, List.mem_cons] at h
        rcases h with hnew | hold
        · left
          rw [hnew, hk]
        · exact Or.inr (List.mem_cons_of_mem _ hold)
      · rw [put, if_neg hk, List.mem_cons] at h
        rcases h with hfirst | hrest
        · right
          rw [hfirst]
          exact List.mem_cons_self
        · rcases ih hrest with hnew | hold
          · exact Or.inl hnew
          · exact Or.inr (List.mem_cons_of_mem _ hold)

theorem get?_eq_some_of_mem (hnodup : (keys entries).Nodup) (h : (key, value) ∈ entries) :
    get? key entries = some value := by
  induction entries with
  | nil => simp at h
  | cons entry rest ih =>
      obtain ⟨k, v⟩ := entry
      obtain ⟨hk, hnodup⟩ := List.nodup_cons.mp hnodup
      rcases List.mem_cons.mp h with heq | hmem
      · obtain ⟨rfl, rfl⟩ := Prod.mk.inj heq
        simp [get?]
      · have hne : k ≠ key := by
          rintro rfl
          exact hk (List.mem_map.mpr ⟨_, hmem, rfl⟩)
        simpa [get?, hne] using ih hnodup hmem

theorem mem_keys_put : name ∈ keys (put key value entries) ↔ name = key ∨ name ∈ keys entries := by
  induction entries with
  | nil => simp [put, keys]
  | cons entry rest ih =>
      obtain ⟨k, v⟩ := entry
      by_cases hk : k = key
      · simp [put, hk, keys]
      · rw [put, if_neg hk]
        simp only [keys, List.map_cons, List.mem_cons] at ih ⊢
        rw [ih]
        tauto

theorem nodup_keys_put (h : (keys entries).Nodup) : (keys (put key value entries)).Nodup := by
  induction entries with
  | nil => simp [put, keys]
  | cons entry rest ih =>
      obtain ⟨k, v⟩ := entry
      by_cases hk : k = key
      · rwa [put, if_pos hk]
      · obtain ⟨hnew, hrest⟩ := List.nodup_cons.mp h
        rw [put, if_neg hk]
        refine List.nodup_cons.mpr ⟨?_, ih hrest⟩
        intro hmem
        rcases mem_keys_put.mp hmem with rfl | hmem
        · exact hk rfl
        · exact hnew hmem

/-- What every write keeps holds of the mapping of some pairs. -/
theorem ofPairs_induction {motive : Entries α → Prop} {pairs : List (String × α)}
    (hnil : motive []) (hput : ∀ pair ∈ pairs, ∀ entries, motive entries →
      motive (put pair.1 pair.2 entries)) : motive (ofPairs pairs) :=
  List.foldlRecOn pairs _ hnil fun entries hentries pair hpair => hput pair hpair entries hentries

end Entries
end OpenApiClient
