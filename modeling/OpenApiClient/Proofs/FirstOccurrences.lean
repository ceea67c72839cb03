import OpenApiClient.Proofs.Catalogue
import OpenApiClient.Proofs.NameOrder

/-!
# What a catalogue lists

A catalogue lists for every name that is reached the first full occurrence, or the first one if
all are pending (`firstNamed`), and lists the names in strictly ascending order.  The occurrence
that is kept for a name while models are entered is always that one.
-/

namespace OpenApiClient

/-- The first full model of a name, or its first model if all of them are pending. -/
def firstNamed (name : String) (models : List Model) : Option Model :=
  (models.find? fun model => model.name = some name ∧ model.isPending = false).or
    (models.find? fun model => model.name = some name)

variable {seen models : List Model} {model : Model} {name : String}

theorem firstNamed_append_of_ne (h : model.name ≠ some name) :
    firstNamed name (seen ++ [model]) = firstNamed name seen := by
  simp [firstNamed, List.find?_append, h]

/-- A further model of a name takes the place of the first one only if it is preferred. -/
theorem firstNamed_append_of_eq (h : model.name = some name) :
    firstNamed name (seen ++ [model]) =
      some (((firstNamed name seen).map fun kept => preferred kept model).getD model) := by
  unfold firstNamed
  rw [List.find?_append, List.find?_append]
  cases hfull : seen.find? fun model => model.name = some name ∧ model.isPending = false with
  | some full =>
      have hkept : full.isPending = false := by
        have := List.find?_some hfull
        simp_all
      simp [preferred, hkept]
  | none =>
      cases hany : seen.find? fun model => model.name = some name with
      | none => cases hpending : model.isPending <;> simp [h, hpending]
      | some kept =>
          -- No model seen so far is full, so the kept one is pending.
          have hname : kept.name = some name := by simpa using List.find?_some hany
          have hkept : kept.isPending = true := by
            have := List.find?_eq_none.mp hfull kept (List.mem_of_find?_eq_some hany)
            simp_all
          cases hpending : model.isPending <;> simp [h, hpending, hkept, preferred]

theorem mem_of_firstNamed (h : firstNamed name models = some model) :
    model ∈ models ∧ model.name = some name := by
  rcases Option.or_eq_some_iff.mp h with hfull | ⟨-, hany⟩
  · have hname := List.find?_some hfull
    simp only [decide_eq_true_eq] at hname
    exact ⟨List.mem_of_find?_eq_some hfull, hname.1⟩
  · exact ⟨List.mem_of_find?_eq_some hany, by simpa using List.find?_some hany⟩

theorem exists_firstNamed (hmodel : model ∈ models) (hname : model.name = some name) :
    ∃ first, firstNamed name models = some first := by
  unfold firstNamed
  cases hany : models.find? fun model => model.name = some name with
  | some first => cases models.find? _ <;> simp
  | none => exact absurd hname (by simpa using List.find?_eq_none.mp hany model hmodel)

/-- The models entered so far are, for each name, the first one among the models seen. -/
structure KeepsFirst (seen : List Model) (found : Entries Model) : Prop where
  keys : found.keys.Nodup
  get? : ∀ name, Entries.get? name found = firstNamed name seen

namespace KeepsFirst

variable {found found' : Entries Model}

theorem empty : KeepsFirst [] [] := ⟨List.nodup_nil, fun _ => rfl⟩

theorem put (h : KeepsFirst seen found) (hname : model.name = some name) {kept : Model}
    (hkept : firstNamed name (seen ++ [model]) = some kept) :
    KeepsFirst (seen ++ [model]) (Entries.put name kept found) where
  keys := Entries.nodup_keys_put h.keys
  get? := by
    intro other
    rw [Entries.get?_put]
    by_cases hother : name = other
    · rw [if_pos hother, ← hother, hkept]
    · have hne : model.name ≠ some other := by simpa [hname] using hother
      rw [if_neg hother, h.get?, firstNamed_append_of_ne hne]

theorem enter (h : KeepsFirst seen found) (hstep : enter found model = .ok found') :
    KeepsFirst (seen ++ [model]) found' := by
  rcases enter_cases found model with ⟨hname, hok⟩ | ⟨name, hname, hget, hok⟩ |
    ⟨name, kept, hname, hget, -, hok⟩ | ⟨name, kept, -, -, -, herror⟩
  · obtain rfl := Except.ok.inj (hok.symm.trans hstep)
    refine ⟨h.keys, fun name => ?_⟩
    rw [h.get?, firstNamed_append_of_ne (by simp [hname])]
  · obtain rfl := Except.ok.inj (hok.symm.trans hstep)
    apply h.put hname
    rw [firstNamed_append_of_eq hname, ← h.get?, hget]
    rfl
  · obtain rfl := Except.ok.inj (hok.symm.trans hstep)
    apply h.put hname
    rw [firstNamed_append_of_eq hname, ← h.get?, hget]
    rfl
  · cases herror.symm.trans hstep

theorem enterAll (h : KeepsFirst seen found)
    (hrun : models.foldlM OpenApiClient.enter found = .ok found') :
    KeepsFirst (seen ++ models) found' := by
  induction models generalizing seen found with
  | nil =>
      obtain rfl : found = found' := Except.ok.inj hrun
      simpa using h
  | cons model models ih =>
      rw [List.foldlM_cons] at hrun
      obtain ⟨next, hnext, hrun⟩ := Except.bind_eq_ok.mp hrun
      simpa using ih (h.enter hnext) hrun

theorem mem_iff (h : KeepsFirst seen found) :
    (name, model) ∈ found ↔ firstNamed name seen = some model := by
  rw [← h.get?]
  exact ⟨Entries.get?_eq_some_of_mem h.keys, Entries.mem_of_get?⟩

theorem name_of_mem (h : KeepsFirst seen found) {entry : String × Model} (hentry : entry ∈ found) :
    entry.2.name = some entry.1 :=
  (mem_of_firstNamed (h.mem_iff.mp hentry)).2

theorem nodup_names (h : KeepsFirst seen found) :
    ((found.map Prod.snd).map Model.name).Nodup := by
  have hnames : (found.map Prod.snd).map Model.name = found.keys.map some := by
    simp only [Entries.keys, List.map_map]
    exact List.map_congr_left fun entry hentry => h.name_of_mem hentry
  rw [hnames]
  exact h.keys.map fun _ _ => Option.some.inj

end KeepsFirst

variable {endpoints : List Endpoint} {methods : List Method}

theorem keepsFirst_of_catalogue (h : catalogue endpoints methods = .ok models) :
    ∃ found, KeepsFirst (reachableModels endpoints methods) found ∧
      sortByName Model.name (found.map Prod.snd) = models := by
  obtain ⟨found, hfound, hsorted⟩ := catalogue_eq_ok.mp h
  refine ⟨found, ?_, hsorted⟩
  simpa using KeepsFirst.empty.enterAll hfound

/-- The model that a catalogue lists for a name is the first of those that are reached. -/
theorem mem_catalogue_iff (h : catalogue endpoints methods = .ok models) :
    model ∈ models ∧ model.name = some name ↔
      firstNamed name (reachableModels endpoints methods) = some model := by
  obtain ⟨found, hfound, rfl⟩ := keepsFirst_of_catalogue h
  rw [mem_sortByName, ← hfound.mem_iff]
  constructor
  · rintro ⟨hmodel, hname⟩
    obtain ⟨⟨key, model⟩, hentry, rfl⟩ := List.mem_map.mp hmodel
    obtain rfl : key = name := Option.some.inj ((hfound.name_of_mem hentry).symm.trans hname)
    exact hentry
  · intro hentry
    exact ⟨List.mem_map_of_mem hentry, hfound.name_of_mem hentry⟩

theorem ascending_catalogue (h : catalogue endpoints methods = .ok models) :
    models.Pairwise fun a b => compareOptionalNames a.name b.name = .lt := by
  obtain ⟨found, hfound, rfl⟩ := keepsFirst_of_catalogue h
  exact pairwise_lt_sortByName hfound.nodup_names

theorem nodup_names_catalogue (h : catalogue endpoints methods = .ok models) :
    (models.map Model.name).Nodup := by
  refine List.pairwise_map.mpr ((ascending_catalogue h).imp fun {a b} hlt hname => ?_)
  have heq : compareOptionalNames a.name b.name = .eq :=
    Std.LawfulEqCmp.compare_eq_iff_eq.mpr hname
  cases heq.symm.trans hlt

/-- A catalogue lists exactly the names of the models that are reached, in strictly ascending
order, and for each name its first full occurrence, or the first one if all are pending. -/
theorem catalogue_lists_first (h : catalogue endpoints methods = .ok models) :
    (∀ name, (∃ model ∈ models, model.name = some name) ↔
      ∃ model, Reached endpoints methods model ∧ model.name = some name) ∧
    (∀ model ∈ models, ∃ name, model.name = some name) ∧
    models.Pairwise (fun a b => compareOptionalNames a.name b.name = .lt) ∧
    (Std.TransCmp compareOptionalNames ∧
      ∀ a b, compareOptionalNames a b = .eq ↔ a = b) ∧
    (models.map Model.name).Nodup ∧
    ∀ model name, model ∈ models ∧ model.name = some name ↔
      firstNamed name (reachableModels endpoints methods) = some model := by
  refine ⟨?_, ?_, ascending_catalogue h, ⟨inferInstance, ?_⟩, nodup_names_catalogue h, ?_⟩
  · intro name
    constructor
    · rintro ⟨model, hmodel, hname⟩
      obtain ⟨hmem, -⟩ := mem_of_firstNamed ((mem_catalogue_iff h).mp ⟨hmodel, hname⟩)
      exact ⟨model, mem_reachableModels.mp hmem, hname⟩
    · rintro ⟨model, hmodel, hname⟩
      obtain ⟨first, hfirst⟩ := exists_firstNamed (mem_reachableModels.mpr hmodel) hname
      exact ⟨first, (mem_catalogue_iff h).mpr hfirst⟩
  · intro model hmodel
    exact Option.ne_none_iff_exists'.mp ((mem_of_catalogue_eq_ok h).1 model hmodel).2
  · intro a b
    exact Std.LawfulEqCmp.compare_eq_iff_eq
  · intro model name
    exact mem_catalogue_iff h

/-- A node that is pending where it is reached first is listed in full. -/
theorem catalogue_lists_first_on_nodes :
    ∃ models, catalogue [⟨Name.ofText "nodes", none, [1, 7, 0]⟩]
        [methodReturning cyclicNode,
          methodReturning ⟨some "Node", none, .pending "#/components/schemas/Node"⟩] = .ok models ∧
      (models.map Model.name).Nodup ∧ cyclicNode ∈ models ∧ cyclicNode.name = some "Node" := by
  obtain ⟨models, hok⟩ := Except.exists_of_isOk (show (catalogue
    [⟨Name.ofText "nodes", none, [1, 7, 0]⟩] [methodReturning cyclicNode,
      methodReturning ⟨some "Node", none, .pending "#/components/schemas/Node"⟩]).isOk = true by
    decide +kernel)
  obtain ⟨-, -, -, -, hnodup, hlisted⟩ := catalogue_lists_first hok
  exact ⟨models, hok, hnodup, (hlisted cyclicNode "Node").mpr rfl⟩

end OpenApiClient
