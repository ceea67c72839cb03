import Mathlib.Tactic.SplitIfs
import OpenApiClient.Json.Reader
import OpenApiClient.Proofs.EntryLists
import OpenApiClient.Proofs.Results
import OpenApiClient.Yaml.Tree

/-!
# Trees whose keys differ

Both readers write the entries of an object one after the other, the later over the earlier of the
same key.  So in every object of a tree that is read all keys differ (`Json.WellKeyed`).
-/

namespace OpenApiClient

/-- In every object of a tree all keys differ. -/
inductive Json.WellKeyed : Json → Prop
  | null : WellKeyed .null
  | bool (value : Bool) : WellKeyed (.bool value)
  | number (value : JsonNumber) : WellKeyed (.number value)
  | string (value : String) : WellKeyed (.string value)
  | array {items : List Json} : (∀ item ∈ items, WellKeyed item) → WellKeyed (.array items)
  | object {entries : Entries Json} : (Entries.keys entries).Nodup →
      (∀ entry ∈ entries, WellKeyed entry.2) → WellKeyed (.object entries)

namespace Json

theorem WellKeyed.put {key : String} {value : Json} {entries : Entries Json}
    (h : WellKeyed (.object entries)) (hvalue : value.WellKeyed) :
    WellKeyed (.object (Entries.put key value entries)) := by
  cases h with
  | object hnodup hentries =>
      refine .object (Entries.nodup_keys_put hnodup) fun entry hentry => ?_
      rcases Entries.mem_put hentry with heq | hentry
      · rw [(Prod.mk.inj heq).2]
        exact hvalue
      · exact hentries entry hentry

theorem wellKeyed_empty : WellKeyed (.object []) := .object (by simp [Entries.keys]) (by simp)

structure ReadsKeyed (fuel : Nat) : Prop where
  value : ∀ depth text value rest, readValue? fuel depth text = some (value, rest) →
    value.WellKeyed
  items : ∀ depth text items rest, readItems? fuel depth text = some (items, rest) →
    ∀ item ∈ items, item.WellKeyed
  entries : ∀ depth before text entries rest, WellKeyed (.object before) →
    readEntries? fuel depth before text = some (entries, rest) → WellKeyed (.object entries)

namespace ReadsKeyed

variable {fuel depth : Nat} {text rest : List Char}

theorem value_succ (h : ReadsKeyed fuel) {value : Json}
    (hrun : readValue? (fuel + 1) depth text = some (value, rest)) : value.WellKeyed := by
  unfold readValue? at hrun
  -- The first character decides: a literal, a text, an array, an object or a number.
  split at hrun
  case h_1 =>
    obtain ⟨_, -, heq⟩ := Option.map_eq_some_iff.mp hrun
    exact (Prod.mk.inj heq).1 ▸ .null
  case h_2 | h_3 =>
    obtain ⟨_, -, heq⟩ := Option.map_eq_some_iff.mp hrun
    exact (Prod.mk.inj heq).1 ▸ .bool _
  case h_4 =>
    obtain ⟨_, -, heq⟩ := Option.map_eq_some_iff.mp hrun
    exact (Prod.mk.inj heq).1 ▸ .string _
  case h_5 =>
    split at hrun
    · cases hrun
    · split at hrun
      · obtain rfl := (Prod.mk.inj (Option.some.inj hrun)).1
        exact .array (by simp)
      · obtain ⟨⟨items, _⟩, hitems, heq⟩ := Option.map_eq_some_iff.mp hrun
        obtain rfl := (Prod.mk.inj heq).1
        exact .array (h.items _ _ _ _ hitems)
  case h_6 =>
    split at hrun
    · cases hrun
    · split at hrun
      · obtain rfl := (Prod.mk.inj (Option.some.inj hrun)).1
        exact wellKeyed_empty
      · obtain ⟨⟨entries, _⟩, hentries, heq⟩ := Option.map_eq_some_iff.mp hrun
        obtain rfl := (Prod.mk.inj heq).1
        exact h.entries _ _ _ _ _ wellKeyed_empty hentries
  case h_7 | h_8 =>
    obtain ⟨_, -, heq⟩ := Option.map_eq_some_iff.mp hrun
    exact (Prod.mk.inj heq).1 ▸ .number _

theorem items_succ (h : ReadsKeyed fuel) {items : List Json}
    (hrun : readItems? (fuel + 1) depth text = some (items, rest)) :
    ∀ item ∈ items, item.WellKeyed := by
  unfold readItems? at hrun
  obtain ⟨⟨first, _⟩, hfirst, hrun⟩ := Option.bind_eq_some_iff.mp hrun
  have hkeyed := h.value _ _ _ _ hfirst
  dsimp only at hrun
  split at hrun
  · obtain ⟨⟨others, _⟩, hothers, heq⟩ := Option.bind_eq_some_iff.mp hrun
    obtain rfl := (Prod.mk.inj (Option.some.inj heq)).1
    exact List.forall_mem_cons.mpr ⟨hkeyed, h.items _ _ _ _ hothers⟩
  · obtain rfl := (Prod.mk.inj (Option.some.inj hrun)).1
    simpa using hkeyed
  · cases hrun

theorem entries_succ (h : ReadsKeyed fuel) {before entries : Entries Json}
    (hbefore : WellKeyed (.object before))
    (hrun : readEntries? (fuel + 1) depth before text = some (entries, rest)) :
    WellKeyed (.object entries) := by
  unfold readEntries? at hrun
  split at hrun
  · obtain ⟨⟨key, _⟩, -, hrun⟩ := Option.bind_eq_some_iff.mp hrun
    dsimp only at hrun
    split at hrun
    · obtain ⟨⟨value, _⟩, hvalue, hrun⟩ := Option.bind_eq_some_iff.mp hrun
      have hkeyed : WellKeyed (.object (Entries.put key value before)) :=
        hbefore.put (h.value _ _ _ _ hvalue)
      dsimp only at hrun
      split at hrun
      · exact h.entries _ _ _ _ _ hkeyed hrun
      · obtain rfl := (Prod.mk.inj (Option.some.inj hrun)).1
        exact hkeyed
      · cases hrun
    · cases hrun
  · cases hrun

end ReadsKeyed

theorem readsKeyed (fuel : Nat) : ReadsKeyed fuel := by
  -- The three readers call each other with one step less, so they are taken together.
  induction fuel with
  | zero =>
      refine ⟨fun _ _ _ _ hrun => ?_, fun _ _ _ _ hrun => ?_, fun _ _ _ _ _ _ hrun => ?_⟩
      · simp [readValue?] at hrun
      · simp [readItems?] at hrun
      · simp [readEntries?] at hrun
  | succ fuel ih =>
      exact ⟨fun _ _ _ _ => ih.value_succ, fun _ _ _ _ => ih.items_succ,
        fun _ _ _ _ _ => ih.entries_succ⟩

/-- In a tree that is read from a JSON text the keys differ. -/
theorem wellKeyed_of_read? {text : String} {json : Json} (h : read? text = some json) :
    json.WellKeyed := by
  unfold read? at h
  dsimp only at h
  split at h
  · next hread =>
      split at h
      · exact Option.some.inj h ▸ (readsKeyed _).value _ _ _ _ hread
      · cases h
  · cases h

end Json

namespace Yaml

open Json (WellKeyed)

variable {α β : Type}

/-- Whatever a reader of nodes gives has a property. -/
def Gives (x : Following α) (post : α → Prop) : Prop :=
  ∀ count a count', x count = .ok (a, count') → post a

theorem gives_true (x : Following α) : Gives x fun _ => True := fun _ _ _ _ => trivial

theorem gives_pure {a : α} {post : α → Prop} (h : post a) : Gives (pure a) post := by
  intro count b count' hrun
  obtain rfl := (Prod.mk.inj (Except.ok.inj hrun)).1
  exact h

theorem gives_throw {error : Error} {post : α → Prop} : Gives (throw error) post :=
  fun _ _ _ hrun => nomatch hrun

theorem gives_lift {x : Except Error α} {post : α → Prop} (h : ∀ a, x = .ok a → post a) :
    Gives (liftM x) post := by
  intro count a count' hrun
  obtain ⟨b, hb, heq⟩ := Except.bind_eq_ok.mp hrun
  obtain rfl := (Prod.mk.inj (Except.ok.inj heq)).1
  exact h b hb

theorem gives_bind {x : Following α} {f : α → Following β} {post : α → Prop} {next : β → Prop}
    (hx : Gives x post) (hf : ∀ a, post a → Gives (f a) next) : Gives (x >>= f) next := by
  intro count b count' hrun
  obtain ⟨⟨a, between⟩, ha, hrun⟩ := Except.bind_eq_ok.mp hrun
  exact hf a (hx _ _ _ ha) _ _ _ hrun

theorem gives_unless {condition : Prop} [Decidable condition] {error : Error} {x : Following α}
    {post : α → Prop} (h : Gives x post) :
    Gives (if condition then (do throw error; x) else x) post := by
  split
  · exact gives_bind (gives_true _) fun _ _ => h
  · exact h

theorem gives_mapM {f : α → Following β} {post : β → Prop} {items : List α}
    (h : ∀ a, Gives (f a) post) : Gives (items.mapM f) fun results => ∀ b ∈ results, post b := by
  induction items with
  | nil => exact gives_pure (by simp)
  | cons a items ih =>
      rw [List.mapM_cons]
      refine gives_bind (h a) fun b hb => gives_bind ih fun bs hbs => gives_pure ?_
      exact List.forall_mem_cons.mpr ⟨hb, hbs⟩

theorem wellKeyed_realValue (value : RealValue) : value.toJson.WellKeyed := by
  cases value with
  | special => exact .null
  | finite value => exact .number _

theorem wellKeyed_of_integerValue? {text : List Char} {json : Json}
    (h : integerValue? text = some (.ok json)) : json.WellKeyed := by
  obtain ⟨value, -, h⟩ := Option.bind_eq_some_iff.mp h
  dsimp only at h
  split_ifs at h
  · exact Except.ok.inj (Option.some.inj h) ▸ .number _
  · exact nomatch Option.some.inj h

theorem wellKeyed_of_plainValue {text : String} {json : Json} (h : plainValue text = .ok json) :
    json.WellKeyed := by
  unfold plainValue at h
  split_ifs at h
  · exact Except.ok.inj h ▸ .null
  split at h
  · exact Except.ok.inj h ▸ .bool _
  dsimp only at h
  split at h
  · next hvalue => exact wellKeyed_of_integerValue? (h ▸ hvalue)
  split at h
  · exact Except.ok.inj h ▸ wellKeyed_realValue _
  · exact Except.ok.inj h ▸ .string _

theorem wellKeyed_of_scalarValue {text : String} {style : ScalarStyle} {tag : Option String}
    {json : Json} (h : scalarValue text style tag = .ok json) : json.WellKeyed := by
  unfold scalarValue at h
  split at h
  · split_ifs at h
    · exact wellKeyed_of_plainValue h
    · exact Except.ok.inj h ▸ .string _
  split_ifs at h
  · split at h
    · exact Except.ok.inj h ▸ .bool _
    · cases h
  · cases hvalue : integerValue? text.toList with
    | none => simp [hvalue] at h
    | some value =>
        rw [hvalue, Option.getD_some] at h
        exact wellKeyed_of_integerValue? (h ▸ hvalue)
  · split at h
    · exact Except.ok.inj h ▸ wellKeyed_realValue _
    · cases h
  · exact Except.ok.inj h ▸ .null
  · exact Except.ok.inj h ▸ .string _

/-- The value of a node is a tree whose keys differ. -/
theorem gives_value (doc : Document) (depth fuel : Nat) (node : Node) :
    Gives (doc.value depth fuel node) WellKeyed := by
  -- An alias leads out of the node, so the induction is on the steps.
  induction fuel generalizing depth node with
  | zero => exact gives_throw
  | succ fuel ih =>
      unfold Document.value
      match node with
      | .alias slot => exact gives_bind (gives_true _) fun node _ => ih depth node
      | .scalar text style tag =>
          exact gives_unless (gives_lift fun _ => wellKeyed_of_scalarValue)
      | .sequence tag items =>
          refine gives_unless (gives_unless ?_)
          refine gives_bind (gives_mapM (ih _)) fun values hvalues => ?_
          exact gives_pure (.array hvalues)
      | .mapping tag entries =>
          have hpair : ∀ entry : Node × Node, Gives (do
              let key ← doc.keyText entry.1
              return (key, ← doc.value (depth - 1) fuel entry.2))
              fun pair => pair.2.WellKeyed := by
            intro entry
            refine gives_bind (gives_true _) fun key _ => ?_
            exact gives_bind (ih _ entry.2) fun value hvalue => gives_pure hvalue
          refine gives_unless (gives_unless ?_)
          refine gives_bind (gives_mapM hpair) fun pairs hpairs => gives_pure ?_
          -- Later pairs are written over earlier ones, and each write keeps keys apart.
          apply Entries.ofPairs_induction (motive := fun entries => WellKeyed (.object entries))
          · exact Json.wellKeyed_empty
          · intro pair hpair entries hentries
            exact hentries.put (hpairs pair hpair)

/-- In a tree that is read from a YAML text the keys differ. -/
theorem wellKeyed_of_read {text : String} {json : Json} (h : read text = .ok json) :
    json.WellKeyed := by
  obtain ⟨doc, -, h⟩ := Except.bind_eq_ok.mp h
  unfold Document.toJson at h
  split at h
  · exact Except.ok.inj h ▸ .null
  · rw [StateT.run'_eq, map_eq_pure_bind] at h
    obtain ⟨⟨value, count⟩, hvalue, heq⟩ := Except.bind_eq_ok.mp h
    obtain rfl : value = json := Except.ok.inj heq
    exact gives_value _ _ _ _ _ _ _ hvalue

end Yaml
end OpenApiClient
