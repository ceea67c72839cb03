import OpenApiClient.Document.Loading
import OpenApiClient.Proofs.Aggregation
import OpenApiClient.Proofs.KeyedTrees

/-!
# Loaded documents

In a document that is loaded from a text no two paths are the same, and no path has two operations
for one verb (`Spec.WellKeyed`).  So what a document binds to a path and a verb is what it says
there (`Document.binds_of_operates`).
-/

namespace OpenApiClient

/-- All paths differ, and so do the verbs of each path. -/
structure Spec.WellKeyed (spec : Spec) : Prop where
  paths : (Entries.keys spec.paths).Nodup
  verbs : ∀ entry ∈ spec.paths, (entry.2.operations.map Prod.fst).Nodup

variable {verb : Verb} {operation : Operation}

theorem mem_verbs_bindVerb {operations : List (Verb × Operation)} {other : Verb} :
    other ∈ (bindVerb verb operation operations).map Prod.fst ↔
      other = verb ∨ other ∈ operations.map Prod.fst := by
  induction operations with
  | nil => simp [bindVerb]
  | cons entry rest ih =>
      obtain ⟨v, o⟩ := entry
      by_cases hv : v = verb
      · simp [bindVerb, hv]
      · rw [bindVerb, if_neg hv, List.map_cons, List.mem_cons, ih, List.map_cons, List.mem_cons]
        tauto

theorem nodup_verbs_bindVerb {operations : List (Verb × Operation)}
    (h : (operations.map Prod.fst).Nodup) :
    ((bindVerb verb operation operations).map Prod.fst).Nodup := by
  induction operations with
  | nil => simp [bindVerb]
  | cons entry rest ih =>
      obtain ⟨v, o⟩ := entry
      by_cases hv : v = verb
      · rwa [bindVerb, if_pos hv]
      · obtain ⟨hnew, hrest⟩ := List.nodup_cons.mp h
        rw [bindVerb, if_neg hv]
        refine List.nodup_cons.mpr ⟨?_, ih hrest⟩
        intro hmem
        rcases mem_verbs_bindVerb.mp hmem with rfl | hmem
        · exact hv rfl
        · exact hnew hmem

theorem lookup_eq_some_of_mem {operations : List (Verb × Operation)}
    (hnodup : (operations.map Prod.fst).Nodup) (h : (verb, operation) ∈ operations) :
    operations.lookup verb = some operation := by
  induction operations with
  | nil => simp at h
  | cons entry rest ih =>
      obtain ⟨v, o⟩ := entry
      obtain ⟨hv, hnodup⟩ := List.nodup_cons.mp hnodup
      rcases List.mem_cons.mp h with heq | hmem
      · obtain ⟨rfl, rfl⟩ := Prod.mk.inj heq
        exact List.lookup_cons_self
      · have hne : (verb == v) = false := by
          rw [beq_eq_false_iff_ne]
          rintro rfl
          exact hv (List.mem_map.mpr ⟨_, hmem, rfl⟩)
        rw [List.lookup_cons, hne]
        exact ih hnodup hmem

namespace PathItem

theorem operations_readEntry {item item' : PathItem} {key : String} {value : Json}
    (h : item.readEntry key value = .ok item') : item'.operations = item.operations := by
  unfold readEntry at h
  split at h
  case h_4 => exact Except.ok.inj h ▸ rfl
  all_goals
    obtain ⟨_, -, h⟩ := Except.bind_eq_ok.mp h
    exact Except.ok.inj h ▸ rfl

theorem nodup_verbs_readOperation {item item' : PathItem} {key : String} {value : Json}
    (h : item.readOperation key value = .ok item') (hitem : (item.operations.map Prod.fst).Nodup) :
    (item'.operations.map Prod.fst).Nodup := by
  unfold readOperation at h
  split at h
  · exact Except.ok.inj h ▸ hitem
  · obtain ⟨_, -, h⟩ := Except.bind_eq_ok.mp h
    exact Except.ok.inj h ▸ nodup_verbs_bindVerb hitem

/-- The fields, which are read before the operations, leave a path item without any. -/
theorem operations_of_readEntries {entries : Entries Json} {item : PathItem}
    (h : entries.foldlM (fun item (key, value) => readEntry item key value)
      ⟨none, none, [], []⟩ = .ok item) : item.operations = [] := by
  apply Except.foldlM_invariant (motive := fun item : PathItem => item.operations = []) ?_ rfl h
  intro item entry _ item' hitem hstep
  rw [operations_readEntry hstep, hitem]

theorem nodup_verbs_of_ofJson {value : Json} {item : PathItem} (h : ofJson value = .ok item) :
    (item.operations.map Prod.fst).Nodup := by
  cases value with
  | object entries =>
      obtain ⟨bare, hbare, h⟩ := Except.bind_eq_ok.mp h
      apply Except.foldlM_invariant
        (motive := fun item : PathItem => (item.operations.map Prod.fst).Nodup) ?_ ?_ h
      · intro item entry _ item' hitem hstep
        exact nodup_verbs_readOperation hstep hitem
      · simp [operations_of_readEntries hbare]
  | _ => cases h

end PathItem

/-- The entries of a mapping that is read belong one by one to those of an object. -/
theorem mapping_eq_ok {α : Type} {read : Shape α} {value : Json} {items : Entries α}
    (h : Shape.mapping read value = .ok items) : ∃ entries, value = .object entries ∧
      List.Forall₂ (fun entry item => item.1 = entry.1 ∧ read entry.2 = .ok item.2)
        entries items := by
  cases value with
  | object entries =>
      refine ⟨entries, rfl, (Except.mapM_eq_ok.mp h).imp fun entry item hitem => ?_⟩
      dsimp only at hitem
      cases hread : read entry.2 with
      | error error => simp [hread, Except.map] at hitem
      | ok value =>
          rw [hread] at hitem
          obtain rfl := Except.ok.inj hitem
          exact ⟨rfl, rfl⟩
  | _ => cases h

theorem wellKeyed_of_mapping {value : Json} (hvalue : value.WellKeyed) {paths : Entries PathItem}
    (h : Shape.mapping PathItem.ofJson value = .ok paths) {spec : Spec}
    (hspec : spec.paths = paths) : spec.WellKeyed := by
  obtain ⟨entries, rfl, hpaths⟩ := mapping_eq_ok h
  obtain ⟨hnodup, -⟩ | _ := hvalue
  constructor
  · rw [hspec]
    have hkeys : List.Forall₂ Eq (Entries.keys paths) (Entries.keys entries) :=
      List.forall₂_map_left_iff.mpr (List.forall₂_map_right_iff.mpr
        (hpaths.flip.imp fun _ _ hitem => hitem.1))
    rw [List.forall₂_eq_eq_eq] at hkeys
    rwa [hkeys]
  · intro entry hentry
    obtain ⟨source, -, -, hitem⟩ := exists_left_of_forall₂ hpaths (hspec ▸ hentry)
    exact PathItem.nodup_verbs_of_ofJson hitem

theorem SpecDraft.wellKeyed_readEntry {draft draft' : SpecDraft} {key : String} {value : Json}
    (h : draft.readEntry key value = .ok draft') (hvalue : value.WellKeyed)
    (hdraft : draft.2.WellKeyed) : draft'.2.WellKeyed := by
  unfold readEntry at h
  dsimp only at h
  -- Only one of the keys holds paths.
  split at h
  case h_3 =>
    obtain ⟨paths, hpaths, h⟩ := Except.bind_eq_ok.mp h
    obtain rfl := Except.ok.inj h
    exact wellKeyed_of_mapping hvalue hpaths rfl
  case h_6 => exact Except.ok.inj h ▸ hdraft
  all_goals
    obtain ⟨_, -, h⟩ := Except.bind_eq_ok.mp h
    obtain rfl := Except.ok.inj h
    exact ⟨hdraft.paths, hdraft.verbs⟩

theorem wellKeyed_of_ofJson {entries : List (String × Json)}
    (hentries : ∀ entry ∈ entries, entry.2.WellKeyed) {spec : Spec}
    (h : Spec.ofJson (.object entries) = .ok spec) : spec.WellKeyed := by
  obtain ⟨⟨version, draft⟩, hdraft, h⟩ := Except.bind_eq_ok.mp h
  have hempty : Spec.WellKeyed ⟨"", ⟨"", none, ""⟩, [], none, []⟩ := by
    constructor <;> simp [Entries.keys]
  have hkeyed : draft.WellKeyed := by
    apply Except.foldlM_invariant (motive := fun draft : SpecDraft => draft.2.WellKeyed)
      ?_ hempty hdraft
    intro draft entry hentry draft' hkeyed hstep
    exact SpecDraft.wellKeyed_readEntry hstep (hentries entry hentry) hkeyed
  dsimp only at h
  split at h
  · obtain rfl := Except.ok.inj h
    exact ⟨hkeyed.paths, hkeyed.verbs⟩
  · cases h

/-- In the tree of a text the keys differ. -/
theorem wellKeyed_of_treeOfText {format : TextFormat} {text : String} {tree : Json}
    (h : treeOfText format text = .ok tree) : tree.WellKeyed := by
  have hyaml : yamlTree text = .ok tree → tree.WellKeyed := fun h =>
    Yaml.wellKeyed_of_read (Except.mapError_eq_ok.mp h)
  unfold treeOfText at h
  -- The formats are YAML, JSON, and JSON or else YAML.
  split at h
  · exact hyaml h
  · split at h
    · next hread => exact Json.wellKeyed_of_read? (Except.ok.inj h ▸ hread)
    · cases h
  · split at h
    · next hread => exact Json.wellKeyed_of_read? (Except.ok.inj h ▸ hread)
    · exact hyaml h

namespace Document

variable {doc : Document} {path : String} {item : PathItem}

theorem wellKeyed_of_ofTree {tree : Json} (htree : tree.WellKeyed)
    (h : ofTree tree = .ok doc) : doc.spec.WellKeyed := by
  unfold ofTree at h
  split at h
  · cases h
  · next version hversion =>
      split_ifs at h
      split at h
      · next spec hspec =>
          obtain rfl := Except.ok.inj h
          cases htree with
          | object _ hentries => exact wellKeyed_of_ofJson hentries hspec
          | _ => cases hversion
      · cases h

/-- In a loaded document the keys differ. -/
theorem wellKeyed_of_ofText {format : TextFormat} {text : String}
    (h : ofText format text = .ok doc) : doc.spec.WellKeyed := by
  obtain ⟨tree, htree, h⟩ := Except.bind_eq_ok.mp h
  exact wellKeyed_of_ofTree (wellKeyed_of_treeOfText htree) h

def Operates (doc : Document) (path : String) (item : PathItem) (verb : Verb)
    (operation : Operation) : Prop :=
  (path, item) ∈ doc.spec.paths ∧ (verb, operation) ∈ item.operations

theorem operates_of_binds (h : doc.Binds path item verb operation) :
    doc.Operates path item verb operation := by
  obtain ⟨_, _, hoperations, -⟩ := List.lookup_eq_some_iff.mp h.verb
  exact ⟨Entries.mem_of_get? h.path, by simp [hoperations]⟩

/-- A document whose keys differ binds each of its operations. -/
theorem binds_of_operates (hkeyed : doc.spec.WellKeyed)
    (h : doc.Operates path item verb operation) : doc.Binds path item verb operation :=
  ⟨Entries.get?_eq_some_of_mem hkeyed.paths h.1,
    lookup_eq_some_of_mem (hkeyed.verbs _ h.1) h.2⟩

theorem exists_operates {binding : String × Verb} (h : binding ∈ doc.spec.operations) :
    ∃ item operation, doc.Operates binding.1 item binding.2 operation := by
  obtain ⟨⟨path, item⟩, hitem, h⟩ := List.mem_flatMap.mp h
  obtain ⟨⟨verb, operation⟩, hoperation, rfl⟩ := List.mem_map.mp h
  exact ⟨item, operation, hitem, hoperation⟩

theorem mem_operations (h : doc.Operates path item verb operation) :
    (path, verb) ∈ doc.spec.operations :=
  List.mem_flatMap.mpr ⟨_, h.1, List.mem_map.mpr ⟨_, h.2, rfl⟩⟩

/-- Every bound operation has a method.  A method is built for each path and verb, and these lead
back to the operation. -/
theorem Aggregates.exists_method {endpoints : List Endpoint} {methods : List Method}
    (h : doc.Aggregates endpoints methods) (hbinds : doc.Binds path item verb operation) :
    ∃ method ∈ methods, doc.BuiltFrom path item verb operation method := by
  obtain ⟨method, hmethod, item', operation', hbinds', hbuilt⟩ :=
    exists_right_of_forall₂ h.methods (mem_operations (operates_of_binds hbinds))
  obtain rfl := Option.some.inj (hbinds.path.symm.trans hbinds'.path)
  obtain rfl := Option.some.inj (hbinds.verb.symm.trans hbinds'.verb)
  exact ⟨method, hmethod, hbuilt⟩

end Document
end OpenApiClient
