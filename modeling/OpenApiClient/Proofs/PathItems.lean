import Mathlib.Data.List.Induction
import OpenApiClient.Proofs.LoadedDocuments
import OpenApiClient.Proofs.ModelReferences

/-!
# Reading path items

A path item is one object for its own fields, for the operations of its verbs and for whatever else
a document puts there.  What is read of the operations follows from the entries alone
(`PathItem.BindsVerbs`): the verbs in the order in which they are first named, each with the value
that is last given for it.  Reading fails only over a misshapen field or operation
(`PathItem.Misshapen`), and other entries make no difference (`PathItem.reads_entries`).
-/

namespace OpenApiClient

/-! ## Keys that name verbs -/

theorem toNat_toUpper (c : Char) :
    c.toUpper.toNat = if 97 ≤ c.toNat ∧ c.toNat ≤ 122 then c.toNat - 32 else c.toNat := by
  have hsmall : ('a'.val ≤ c.val ∧ c.val ≤ 'z'.val) ↔ 97 ≤ c.toNat ∧ c.toNat ≤ 122 := Iff.rfl
  unfold Char.toUpper
  by_cases h : 97 ≤ c.toNat ∧ c.toNat ≤ 122
  · rw [dif_pos (hsmall.mpr h), if_pos h]
    change (c.val + ('A'.val - 'a'.val)).toNat = c.val.toNat - 32
    have hrange : 97 ≤ c.val.toNat ∧ c.val.toNat ≤ 122 := h
    have hshift : ('A'.val - 'a'.val).toNat = 4294967264 := rfl
    rw [UInt32.toNat_add, hshift]
    omega
  · rw [dif_neg (hsmall.not.mpr h), if_neg h]

/-- A small letter and its capital have one capital, and no other character has it. -/
theorem toUpper_eq_toUpper_iff {c small : Char} (h : 97 ≤ small.toNat ∧ small.toNat ≤ 122) :
    c.toUpper = small.toUpper ↔ c = small ∨ c = small.toUpper := by
  rw [← Char.toNat_inj, ← Char.toNat_inj, ← Char.toNat_inj, toNat_toUpper, toNat_toUpper, if_pos h]
  split_ifs <;> omega

namespace Verb

/-- A key names a verb: letter by letter it has the small letter or the capital. -/
def NamedBy (verb : Verb) (key : String) : Prop :=
  List.Forall₂ (fun c small => c = small ∨ c = small.toUpper) key.toList verb.key.toList

instance (verb : Verb) (key : String) : Decidable (verb.NamedBy key) :=
  inferInstanceAs (Decidable (List.Forall₂ _ _ _))

variable {verb : Verb} {key : String}

theorem namedBy_iff : verb.NamedBy key ↔ key.toList.map Char.toUpper = verb.text.toList := by
  have htext : verb.text.toList = verb.key.toList.map Char.toUpper := by cases verb <;> decide
  have hsmall : ∀ small ∈ verb.key.toList, 97 ≤ small.toNat ∧ small.toNat ≤ 122 := by
    cases verb <;> simp [Verb.key]
  rw [htext, ← List.forall₂_eq_eq_eq, List.forall₂_map_left_iff, List.forall₂_map_right_iff]
  constructor
  · intro h
    exact forall₂_imp_of_mem h fun c _ small hmem =>
      (toUpper_eq_toUpper_iff (hsmall small hmem)).mpr
  · intro h
    exact forall₂_imp_of_mem h fun c _ small hmem =>
      (toUpper_eq_toUpper_iff (hsmall small hmem)).mp

theorem ofText?_eq_some_iff : ofText? key = some verb ↔ verb.NamedBy key := by
  rw [namedBy_iff]
  constructor
  · intro h
    simpa [eq_comm] using List.find?_some h
  · intro h
    rw [ofText?, h]
    cases verb <;> decide

theorem ofText?_eq_none_iff : ofText? key = none ↔ ∀ verb : Verb, ¬ verb.NamedBy key := by
  rw [Option.eq_none_iff_forall_ne_some]
  exact forall_congr' fun verb => not_congr ofText?_eq_some_iff

/-- A key names one verb at most. -/
theorem filter_namedBy (key : String) :
    all.filter (fun verb => verb.NamedBy key) = (ofText? key).toList := by
  cases hkey : ofText? key with
  | none =>
      rw [Option.toList_none, List.filter_eq_nil_iff]
      simpa using fun verb _ => ofText?_eq_none_iff.mp hkey verb
  | some verb =>
      simp only [namedBy_iff, namedBy_iff.mp (ofText?_eq_some_iff.mp hkey)]
      cases verb <;> decide

end Verb

/-! ## Operations -/

/-- The verbs that the keys of some entries name, in order. -/
def verbsOf (entries : Entries Json) : List Verb :=
  entries.flatMap fun entry => Verb.all.filter fun verb => verb.NamedBy entry.1

/-- The last of the entries that name a verb has a value. -/
def LastFor (verb : Verb) (value : Json) (entries : Entries Json) : Prop :=
  ∃ before key after, entries = before ++ (key, value) :: after ∧ verb.NamedBy key ∧
    ∀ entry ∈ after, ¬ verb.NamedBy entry.1

section Operations

variable {verb : Verb} {operation : Operation} {entries : Entries Json} {key : String}
  {value : Json}

theorem LastFor.append_of_not_namedBy (h : LastFor verb value entries) {added : Json}
    (hkey : ¬ verb.NamedBy key) : LastFor verb value (entries ++ [(key, added)]) := by
  obtain ⟨before, named, after, rfl, hnamed, hafter⟩ := h
  refine ⟨before, named, after ++ [(key, added)], by simp, hnamed, fun entry hentry => ?_⟩
  rcases List.mem_append.mp hentry with hentry | hentry
  · exact hafter entry hentry
  · rwa [List.mem_singleton.mp hentry]

theorem lastFor_append_of_namedBy (entries : Entries Json) (h : verb.NamedBy key) :
    LastFor verb value (entries ++ [(key, value)]) :=
  ⟨entries, key, [], rfl, h, by simp⟩

theorem verbs_bindVerb (verb : Verb) (operation : Operation)
    (operations : List (Verb × Operation)) :
    (bindVerb verb operation operations).map Prod.fst =
      insertNew (operations.map Prod.fst) verb := by
  induction operations with
  | nil => rfl
  | cons entry rest ih =>
      obtain ⟨v, o⟩ := entry
      by_cases hv : v = verb
      · simp [bindVerb, insertNew, hv]
      · rw [bindVerb, if_neg hv, List.map_cons, ih]
        unfold insertNew
        by_cases hrest : verb ∈ rest.map Prod.fst
        · rw [if_pos hrest, if_pos (by simp [hrest]), List.map_cons]
        · rw [if_neg hrest, if_neg (by simpa [Ne.symm hv] using hrest), List.map_cons,
            List.cons_append]

/-- Where every verb is bound once, binding one replaces what it was bound to. -/
theorem eq_or_ne_of_mem_bindVerb {operations : List (Verb × Operation)} {entry : Verb × Operation}
    (hnodup : (operations.map Prod.fst).Nodup)
    (h : entry ∈ bindVerb verb operation operations) :
    entry = (verb, operation) ∨ entry.1 ≠ verb ∧ entry ∈ operations := by
  induction operations with
  | nil => exact Or.inl (List.mem_singleton.mp h)
  | cons first rest ih =>
      obtain ⟨v, o⟩ := first
      obtain ⟨hfirst, hrest⟩ := List.nodup_cons.mp hnodup
      by_cases hv : v = verb
      · rw [bindVerb, if_pos hv, List.mem_cons] at h
        refine h.imp (fun heq => heq.trans (by rw [hv])) fun hmem => ⟨?_, by simp [hmem]⟩
        rintro heq
        exact hfirst (List.mem_map.mpr ⟨entry, hmem, heq.trans hv.symm⟩)
      · rw [bindVerb, if_neg hv, List.mem_cons] at h
        rcases h with rfl | hmem
        · exact Or.inr ⟨hv, List.mem_cons_self⟩
        · exact (ih hrest hmem).imp_right fun hold => ⟨hold.1, List.mem_cons_of_mem _ hold.2⟩

end Operations

namespace PathItem

variable {item item' : PathItem} {entries : Entries Json} {key : String} {value : Json}

/-- The operations of a path item are those of its entries: the verbs stand in the order in which
they are first named, and each is bound to what its last entry holds. -/
structure BindsVerbs (item : PathItem) (entries : Entries Json) : Prop where
  verbs : item.operations.map Prod.fst = distinct (verbsOf entries)
  operation : ∀ verb operation, (verb, operation) ∈ item.operations →
    ∃ value, LastFor verb value entries ∧ Operation.ofJson value = .ok operation

/-- One more entry is read into the operations. -/
theorem BindsVerbs.readOperation (h : item.BindsVerbs entries)
    (hread : item.readOperation key value = .ok item') :
    item'.BindsVerbs (entries ++ [(key, value)]) := by
  have hverbs : verbsOf (entries ++ [(key, value)]) =
      verbsOf entries ++ (Verb.ofText? key).toList := by
    rw [verbsOf, List.flatMap_append, ← verbsOf, List.flatMap_singleton, Verb.filter_namedBy]
  have hnodup : (item.operations.map Prod.fst).Nodup := h.verbs ▸ nodup_distinct _
  unfold PathItem.readOperation at hread
  split at hread
  next hkey =>
      obtain rfl := Except.ok.inj hread
      refine ⟨by rw [hverbs, hkey, h.verbs]; simp, fun verb operation hmem => ?_⟩
      obtain ⟨found, hlast, hfound⟩ := h.operation verb operation hmem
      exact ⟨found, hlast.append_of_not_namedBy (Verb.ofText?_eq_none_iff.mp hkey verb), hfound⟩
  next named hkey =>
      obtain ⟨added, hadded, hread⟩ := Except.bind_eq_ok.mp hread
      obtain rfl := Except.ok.inj hread
      have hnamed : named.NamedBy key := Verb.ofText?_eq_some_iff.mp hkey
      -- A verb that is bound already keeps its place, and only its operation is replaced.
      refine ⟨?_, fun verb operation hmem => ?_⟩
      · rw [hverbs, hkey, verbs_bindVerb, h.verbs]
        simp [distinct]
      · rcases eq_or_ne_of_mem_bindVerb hnodup hmem with heq | ⟨hne, hold⟩
        · obtain ⟨rfl, rfl⟩ := Prod.mk.inj heq
          exact ⟨value, lastFor_append_of_namedBy entries hnamed, hadded⟩
        · obtain ⟨found, hlast, hfound⟩ := h.operation verb operation hold
          have hother : ¬ verb.NamedBy key := by
            intro hkey'
            rw [Verb.ofText?_eq_some_iff.mpr hkey'] at hkey
            exact hne (Option.some.inj hkey)
          exact ⟨found, hlast.append_of_not_namedBy hother, hfound⟩

/-- The invariant of the pass over the operations holds at its end. -/
theorem bindsVerbs_of_foldlM (hitem : item.operations = [])
    (h : entries.foldlM (fun item (key, value) => PathItem.readOperation item key value) item =
      .ok item') : item'.BindsVerbs entries := by
  -- From the end, as the entry that is read last decides what its verb is bound to.
  induction entries using List.reverseRecOn generalizing item' with
  | nil =>
      obtain rfl := Except.ok.inj h
      exact ⟨by rw [hitem]; rfl, by simp [hitem]⟩
  | append_singleton entries entry ih =>
      rw [List.foldlM_append] at h
      obtain ⟨middle, hmiddle, h⟩ := Except.bind_eq_ok.mp h
      rw [List.foldlM_cons] at h
      obtain ⟨last, hlast, h⟩ := Except.bind_eq_ok.mp h
      obtain rfl := Except.ok.inj h
      exact (ih hmiddle).readOperation hlast

/-! ## Misshapen entries -/

/-- An entry has not the shape that its key asks for. -/
inductive Misshapen : String → Json → Prop
  | summary {value : Json} : (Shape.optional Shape.text value).isOk = false →
    Misshapen "summary" value
  | description {value : Json} : (Shape.optional Shape.text value).isOk = false →
    Misshapen "description" value
  | parameters {value : Json} : (Shape.list Shape.parameter value).isOk = false →
    Misshapen "parameters" value
  | operation {verb : Verb} {key : String} {value : Json} : verb.NamedBy key →
    (Operation.ofJson value).isOk = false → Misshapen key value

def FitsField (key : String) (value : Json) : Prop :=
  (key = "summary" → (Shape.optional Shape.text value).isOk = true) ∧
  (key = "description" → (Shape.optional Shape.text value).isOk = true) ∧
  (key = "parameters" → (Shape.list Shape.parameter value).isOk = true)

theorem isOk_readEntry (item : PathItem) (key : String) (value : Json) :
    (item.readEntry key value).isOk = true ↔ FitsField key value := by
  unfold readEntry FitsField
  split
  case h_4 hsummary hdescription hparameters =>
      exact iff_of_true rfl ⟨fun h => (hsummary h).elim, fun h => (hdescription h).elim,
        fun h => (hparameters h).elim⟩
  all_goals simp [Except.isOk_map]

theorem isOk_readOperation (item : PathItem) (key : String) (value : Json) :
    (item.readOperation key value).isOk = true ↔
      ∀ verb : Verb, verb.NamedBy key → (Operation.ofJson value).isOk = true := by
  unfold PathItem.readOperation
  split
  next hkey =>
      have hnone := Verb.ofText?_eq_none_iff.mp hkey
      exact iff_of_true rfl fun verb hverb => (hnone verb hverb).elim
  next named hkey =>
      have hnamed := Verb.ofText?_eq_some_iff.mp hkey
      rw [bind_pure_comp, Except.isOk_map]
      exact ⟨fun h _ _ => h, fun h => h named hnamed⟩

theorem not_misshapen_iff : ¬ Misshapen key value ↔ FitsField key value ∧
    ∀ verb : Verb, verb.NamedBy key → (Operation.ofJson value).isOk = true := by
  constructor
  · intro h
    refine ⟨⟨?_, ?_, ?_⟩, fun verb hverb => ?_⟩
    · rintro rfl
      exact Bool.of_not_eq_false fun hbad => h (.summary hbad)
    · rintro rfl
      exact Bool.of_not_eq_false fun hbad => h (.description hbad)
    · rintro rfl
      exact Bool.of_not_eq_false fun hbad => h (.parameters hbad)
    · exact Bool.of_not_eq_false fun hbad => h (.operation hverb hbad)
  · rintro ⟨⟨hsummary, hdescription, hparameters⟩, hoperation⟩ hbad
    cases hbad with
    | summary hbad => exact Bool.false_ne_true (hbad.symm.trans (hsummary rfl))
    | description hbad => exact Bool.false_ne_true (hbad.symm.trans (hdescription rfl))
    | parameters hbad => exact Bool.false_ne_true (hbad.symm.trans (hparameters rfl))
    | operation hverb hbad => exact Bool.false_ne_true (hbad.symm.trans (hoperation _ hverb))

/-- A path item is read unless an entry of it is misshapen. -/
theorem isOk_ofJson_iff (entries : Entries Json) : (ofJson (.object entries)).isOk = true ↔
    ∀ entry ∈ entries, ¬ Misshapen entry.1 entry.2 := by
  have hfields (item : PathItem) := Except.isOk_foldlM_iff entries
    (fun item entry => isOk_readEntry item entry.1 entry.2) item
  have hoperations (item : PathItem) := Except.isOk_foldlM_iff entries
    (fun item entry => isOk_readOperation item entry.1 entry.2) item
  simp only [not_misshapen_iff]
  exact (Except.isOk_bind_iff hoperations).trans ((and_congr_left' (hfields _)).trans
    forall₂_and.symm)

/-! ## Other entries -/

/-- A key that says nothing to the reader of a path item. -/
def Ignores (key : String) : Prop :=
  key ∉ ["summary", "description", "parameters"] ∧ ∀ verb : Verb, ¬ verb.NamedBy key

theorem readEntry_of_ignores (h : Ignores key) (item : PathItem) (value : Json) :
    item.readEntry key value = .ok item := by
  obtain ⟨hfields, -⟩ := h
  unfold readEntry
  split
  case h_4 => rfl
  all_goals simp at hfields

theorem readOperation_of_ignores (h : Ignores key) (item : PathItem) (value : Json) :
    item.readOperation key value = .ok item := by
  rw [PathItem.readOperation, Verb.ofText?_eq_none_iff.mpr h.2]
  rfl

/-- What stands under such a key makes no difference, not even to an error. -/
theorem ofJson_of_ignores (h : Ignores key) (before after : Entries Json) (value : Json) :
    ofJson (.object (before ++ (key, value) :: after)) = ofJson (.object (before ++ after)) := by
  unfold ofJson
  dsimp only
  rw [Except.foldlM_append_cons (a := (key, value)) fun item => readEntry_of_ignores h item value]
  refine Except.bind_congr_of_ok fun item _ => ?_
  exact Except.foldlM_append_cons (a := (key, value))
    (fun item => readOperation_of_ignores h item value) _ _ _

/-- What is read of the operations of a path item. -/
theorem reads_entries (entries : Entries Json) :
    (∀ item, ofJson (.object entries) = .ok item → item.BindsVerbs entries) ∧
    ((∃ error, ofJson (.object entries) = .error error) ↔
      ∃ entry ∈ entries, Misshapen entry.1 entry.2) ∧
    ∀ before after key value, entries = before ++ after → Ignores key →
      ofJson (.object (before ++ (key, value) :: after)) = ofJson (.object entries) := by
  refine ⟨fun item h => ?_, ?_, ?_⟩
  · obtain ⟨bare, hbare, h⟩ := Except.bind_eq_ok.mp h
    exact bindsVerbs_of_foldlM (operations_of_readEntries hbare) h
  · rw [Except.exists_error_iff, isOk_ofJson_iff]
    push Not
    rfl
  · rintro before after key value rfl hkey
    exact ofJson_of_ignores hkey before after value

/-- The entries of a path item with two keys for one verb and a key of its own. -/
def petsEntries : Entries Json :=
  [("x-internal", .bool true),
    ("Post", .object [("operationId", .string "addPets")]),
    ("summary", .string "Pets"),
    ("get", .object [("operationId", .string "listPets")]),
    ("POST", .object [("operationId", .string "addPet")])]

theorem reads_entries_of_pets :
    (∃ item, ofJson (.object petsEntries) = .ok item ∧ item.BindsVerbs petsEntries ∧
      item.operations.map (fun entry => (entry.1, entry.2.id)) =
        [(.post, some "addPet"), (.get, some "listPets")]) ∧
    Ignores "servers" ∧
    ofJson (.object (("servers", .null) :: petsEntries)) = ofJson (.object petsEntries) := by
  have hok : (ofJson (.object petsEntries)).isOk = true := by decide +kernel
  have hids : (ofJson (.object petsEntries)).toOption.map (fun item =>
      item.operations.map fun entry => (entry.1, entry.2.id)) =
        some [(.post, some "addPet"), (.get, some "listPets")] := by
    decide +kernel
  have hservers : Ignores "servers" := ⟨by decide, by intro verb; cases verb <;> decide⟩
  obtain ⟨hbinds, -, hignores⟩ := reads_entries petsEntries
  obtain ⟨item, hitem⟩ := Except.exists_of_isOk hok
  rw [hitem] at hids
  exact ⟨⟨item, hitem, hbinds item hitem, Option.some.inj hids⟩, hservers,
    hignores [] petsEntries "servers" .null rfl hservers⟩

end PathItem

end OpenApiClient
