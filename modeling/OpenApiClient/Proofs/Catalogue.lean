import OpenApiClient.Api.Catalogue
import OpenApiClient.Proofs.Agreement
import OpenApiClient.Proofs.EntryLists
import OpenApiClient.Proofs.Results

/-!
# The catalogue of models

While models are entered one after the other, only the model that is kept for a name is compared
with the next one of that name.  `Kept` says what this keeps true: the kept model is full as soon
as a full one has come, and then it agrees with all of them.  Hence a collision is reported
exactly if two occurrences of one name do not agree.
-/

namespace OpenApiClient

/-- A model that the methods of endpoints reach: it occurs in a response, a body or a parameter. -/
def Reached (endpoints : List Endpoint) (methods : List Method) (model : Model) : Prop :=
  ∃ endpoint ∈ endpoints, ∃ place ∈ endpoint.methods, ∃ method,
    methods[place]? = some method ∧ ∃ root ∈ method.rootModels, model ∈ root.occurrences

theorem mem_reachableModels {endpoints : List Endpoint} {methods : List Method} {model : Model} :
    model ∈ reachableModels endpoints methods ↔ Reached endpoints methods model := by
  simp only [reachableModels, methodsAt, Method.models, Reached, List.mem_flatMap,
    List.mem_filterMap]
  constructor
  · rintro ⟨method, ⟨place, ⟨endpoint, hendpoint, hplace⟩, hmethod⟩, root, hroot, hmodel⟩
    exact ⟨endpoint, hendpoint, place, hplace, method, hmethod, root, hroot, hmodel⟩
  · rintro ⟨endpoint, hendpoint, place, hplace, method, hmethod, root, hroot, hmodel⟩
    exact ⟨method, ⟨place, ⟨endpoint, hendpoint, hplace⟩, hmethod⟩, root, hroot, hmodel⟩

theorem Reached.of_mem_occurrences {endpoints : List Endpoint} {methods : List Method}
    {found model : Model} (h : Reached endpoints methods model)
    (hfound : found ∈ model.occurrences) : Reached endpoints methods found := by
  obtain ⟨endpoint, hendpoint, place, hplace, method, hmethod, root, hroot, hmodel⟩ := h
  exact ⟨endpoint, hendpoint, place, hplace, method, hmethod, root, hroot,
    Model.occurrences_trans hfound hmodel⟩

theorem grounded_reachableModels {endpoints : List Endpoint} {methods : List Method}
    (hnamed : ∀ model, Reached endpoints methods model → model.isPending = true →
      model.name ≠ none) : Grounded (reachableModels endpoints methods) := by
  constructor
  · intro model hmodel child hchild
    rw [mem_reachableModels] at hmodel ⊢
    exact hmodel.of_mem_occurrences (Model.child_mem_occurrences hchild)
  · intro model hmodel
    exact hnamed model (mem_reachableModels.mp hmodel)

/-- All that entering an occurrence can do. -/
theorem enter_cases (found : Entries Model) (model : Model) :
    (model.name = none ∧ enter found model = .ok found) ∨
    (∃ name, model.name = some name ∧ Entries.get? name found = none ∧
      enter found model = .ok (Entries.put name model found)) ∨
    (∃ name kept, model.name = some name ∧ Entries.get? name found = some kept ∧
      kept.sameShape model = true ∧
      enter found model = .ok (Entries.put name (preferred kept model) found)) ∨
    (∃ name kept, model.name = some name ∧ Entries.get? name found = some kept ∧
      kept.sameShape model = false ∧ enter found model = .error (.nameCollision name)) := by
  unfold enter
  cases hname : model.name with
  | none => simp
  | some name =>
      cases hget : Entries.get? name found with
      | none => simp [hget]
      | some kept => cases hagree : kept.sameShape model <;> simp [hget, hagree]

/-- What the models entered so far say of all the models seen. -/
structure Kept (seen : List Model) (found : Entries Model) : Prop where
  entry : ∀ name kept, (name, kept) ∈ found → kept ∈ seen ∧ kept.name = some name
  covers : ∀ model ∈ seen, ∀ name, model.name = some name →
    ∃ kept, Entries.get? name found = some kept ∧
      (model.isPending = false → kept.isPending = false ∧ kept.sameShape model = true)

namespace Kept

variable {seen models : List Model} {found found' : Entries Model} {model : Model}

theorem empty : Kept [] [] := ⟨by simp, by simp⟩

/-- Writing a model of the name `name` keeps what `Kept` says if the model stands for all full
models of that name. -/
theorem put {name : String} (h : Kept seen found) (hname : model.name = some name)
    (kept : Model) (hkept : kept ∈ seen ++ [model]) (hkeptName : kept.name = some name)
    (hfull : ∀ x ∈ seen ++ [model], x.name = some name → x.isPending = false →
      kept.isPending = false ∧ kept.sameShape x = true) :
    Kept (seen ++ [model]) (Entries.put name kept found) where
  entry := by
    intro other kept' hmem
    rcases Entries.mem_put hmem with heq | hmem
    · obtain ⟨rfl, rfl⟩ := Prod.mk.inj heq
      exact ⟨hkept, hkeptName⟩
    · obtain ⟨hseen, hother⟩ := h.entry other kept' hmem
      exact ⟨List.mem_append_left _ hseen, hother⟩
  covers := by
    intro x hx other hother
    rw [Entries.get?_put]
    by_cases heq : name = other
    · subst heq
      exact ⟨kept, if_pos rfl, hfull x hx hother⟩
    · rw [if_neg heq]
      rcases List.mem_append.mp hx with hx | hx
      · exact h.covers x hx other hother
      · rw [List.mem_singleton.mp hx, hname] at hother
        exact absurd (Option.some.inj hother) heq

theorem full_of_get? (h : Kept seen found) {name : String} {kept : Model}
    (hget : Entries.get? name found = some kept) {x : Model} (hx : x ∈ seen)
    (hname : x.name = some name) (hpx : x.isPending = false) :
    kept.isPending = false ∧ kept.sameShape x = true := by
  obtain ⟨kept', hkept', hfull⟩ := h.covers x hx name hname
  obtain rfl : kept = kept' := Option.some.inj (hget.symm.trans hkept')
  exact hfull hpx

theorem enter (h : Kept seen found) (hstep : enter found model = .ok found') :
    Kept (seen ++ [model]) found' := by
  rcases enter_cases found model with ⟨hname, hok⟩ | ⟨name, hname, hget, hok⟩ |
    ⟨name, kept, hname, hget, hagree, hok⟩ | ⟨name, kept, -, -, -, herror⟩
  · -- A model without a name is not entered.
    obtain rfl : found = found' := Except.ok.inj (hok.symm.trans hstep)
    constructor
    · intro name kept hmem
      obtain ⟨hseen, hname⟩ := h.entry name kept hmem
      exact ⟨List.mem_append_left _ hseen, hname⟩
    · intro x hx name hx'
      rcases List.mem_append.mp hx with hx | hx
      · exact h.covers x hx name hx'
      · simp [List.mem_singleton.mp hx, hname] at hx'
  · -- The first model of its name.
    obtain rfl : Entries.put name model found = found' := Except.ok.inj (hok.symm.trans hstep)
    apply h.put hname model (by simp) hname
    intro x hx hxname hpx
    rcases List.mem_append.mp hx with hx | hx
    · obtain ⟨kept, hkept, -⟩ := h.covers x hx name hxname
      exact absurd (hget.symm.trans hkept) (by simp)
    · obtain rfl := List.mem_singleton.mp hx
      exact ⟨hpx, x.sameShape_refl⟩
  · obtain rfl : Entries.put name (preferred kept model) found = found' :=
      Except.ok.inj (hok.symm.trans hstep)
    obtain ⟨hkept, hkeptName⟩ := h.entry name kept (Entries.mem_of_get? hget)
    -- The kept model is replaced only if it is pending, and then no full one was seen.
    cases hreplace : kept.isPending && !model.isPending with
    | true =>
        rw [preferred, if_pos hreplace]
        apply h.put hname model (by simp) hname
        intro x hx hxname hpx
        rcases List.mem_append.mp hx with hx | hx
        · simp [(h.full_of_get? hget hx hxname hpx).1] at hreplace
        · obtain rfl := List.mem_singleton.mp hx
          exact ⟨hpx, x.sameShape_refl⟩
    | false =>
        rw [preferred, hreplace]
        apply h.put hname kept (by simp [hkept]) hkeptName
        intro x hx hxname hpx
        rcases List.mem_append.mp hx with hx | hx
        · exact h.full_of_get? hget hx hxname hpx
        · obtain rfl := List.mem_singleton.mp hx
          exact ⟨by simpa [hpx] using hreplace, hagree⟩
  · cases herror.symm.trans hstep

theorem enterAll (h : Kept seen found)
    (hrun : models.foldlM OpenApiClient.enter found = .ok found') :
    Kept (seen ++ models) found' := by
  induction models generalizing seen found with
  | nil =>
      obtain rfl : found = found' := Except.ok.inj hrun
      simpa using h
  | cons model models ih =>
      rw [List.foldlM_cons] at hrun
      obtain ⟨next, hnext, hrun⟩ := Except.bind_eq_ok.mp hrun
      simpa using ih (h.enter hnext) hrun

/-- Entering fails only on two models of one name that do not agree. -/
theorem enterAll_error (h : Kept seen found) {error : TransformError}
    (hrun : models.foldlM OpenApiClient.enter found = .error error) :
    ∃ name, error = .nameCollision name ∧ ∃ a ∈ seen ++ models, ∃ b ∈ seen ++ models,
      a.name = some name ∧ b.name = some name ∧ a.sameShape b = false := by
  induction models generalizing seen found with
  | nil => cases hrun
  | cons model models ih =>
      rw [List.foldlM_cons] at hrun
      rcases Except.bind_eq_error.mp hrun with hstep | ⟨next, hnext, hrun⟩
      · rcases enter_cases found model with ⟨-, hok⟩ | ⟨_, -, -, hok⟩ | ⟨_, _, -, -, -, hok⟩ |
          ⟨name, kept, hname, hget, hagree, herror⟩
        · cases hok.symm.trans hstep
        · cases hok.symm.trans hstep
        · cases hok.symm.trans hstep
        · obtain ⟨hkept, hkeptName⟩ := h.entry name kept (Entries.mem_of_get? hget)
          exact ⟨name, Except.error.inj (hstep.symm.trans herror), kept, by simp [hkept], model,
            by simp, hkeptName, hname, hagree⟩
      · simpa using ih (h.enter hnext) hrun

theorem hasCommon (h : Kept models found) : Grounded.HasCommon models := by
  intro a ha b hb hname hnamed hpa hpb
  obtain ⟨name, haName⟩ := Option.ne_none_iff_exists'.mp hnamed
  obtain ⟨kept, hkept, hfull⟩ := h.covers a ha name haName
  obtain ⟨kept', hkept', hfull'⟩ := h.covers b hb name (hname ▸ haName)
  obtain rfl : kept = kept' := Option.some.inj (hkept.symm.trans hkept')
  exact ⟨kept, (h.entry name kept (Entries.mem_of_get? hkept)).1, (hfull hpa).1, (hfull hpa).2,
    (hfull' hpb).2⟩

theorem sameShape (h : Kept models found) (hground : Grounded models) {a b : Model}
    (ha : a ∈ models) (hb : b ∈ models) (hname : a.name = b.name) (hnamed : a.name ≠ none) :
    a.sameShape b = true :=
  hground.sameShape_of_common h.hasCommon ha hb hname (Or.inl hnamed)

end Kept

theorem catalogue_eq_ok {endpoints : List Endpoint} {methods : List Method} {models : List Model} :
    catalogue endpoints methods = .ok models ↔
      ∃ found, (reachableModels endpoints methods).foldlM enter [] = .ok found ∧
        sortByName Model.name (found.map Prod.snd) = models := by
  rw [catalogue, Except.bind_eq_ok]
  simp only [pure, Except.pure, Except.ok.injEq]

theorem catalogue_eq_error {endpoints : List Endpoint} {methods : List Method}
    {error : TransformError} :
    catalogue endpoints methods = .error error ↔
      (reachableModels endpoints methods).foldlM enter [] = .error error := by
  rw [catalogue, Except.bind_eq_error]
  simp [pure, Except.pure]

/-- The only failure of a catalogue is a collision of two occurrences that do not agree. -/
theorem exists_of_catalogue_eq_error {endpoints : List Endpoint} {methods : List Method}
    {error : TransformError} (h : catalogue endpoints methods = .error error) :
    ∃ name, error = .nameCollision name ∧ ∃ a b, Reached endpoints methods a ∧
      Reached endpoints methods b ∧ a.name = some name ∧ b.name = some name ∧
      a.sameShape b = false := by
  obtain ⟨name, rfl, a, ha, b, hb, h⟩ := Kept.empty.enterAll_error (catalogue_eq_error.mp h)
  exact ⟨name, rfl, a, b, mem_reachableModels.mp (by simpa using ha),
    mem_reachableModels.mp (by simpa using hb), h⟩

theorem sameShape_of_catalogue_eq_ok {endpoints : List Endpoint} {methods : List Method}
    {models : List Model}
    (hnamed : ∀ model, Reached endpoints methods model → model.isPending = true →
      model.name ≠ none)
    (h : catalogue endpoints methods = .ok models) {a b : Model}
    (ha : Reached endpoints methods a) (hb : Reached endpoints methods b)
    (hname : a.name = b.name) (hnone : a.name ≠ none) : a.sameShape b = true := by
  obtain ⟨found, hfound, -⟩ := catalogue_eq_ok.mp h
  have hkept : Kept (reachableModels endpoints methods) found := by
    simpa using Kept.empty.enterAll hfound
  exact hkept.sameShape (grounded_reachableModels hnamed) (mem_reachableModels.mpr ha)
    (mem_reachableModels.mpr hb) hname hnone

/-- A catalogue lists named models that are reached, and for every named model that is reached one
of its name, which is full if there is a full one. -/
theorem mem_of_catalogue_eq_ok {endpoints : List Endpoint} {methods : List Method}
    {models : List Model} (h : catalogue endpoints methods = .ok models) :
    (∀ model ∈ models, Reached endpoints methods model ∧ model.name ≠ none) ∧
    ∀ model name, Reached endpoints methods model → model.name = some name →
      ∃ kept ∈ models, kept.name = some name ∧
        (model.isPending = false → kept.isPending = false ∧ kept.sameShape model = true) := by
  obtain ⟨found, hfound, rfl⟩ := catalogue_eq_ok.mp h
  have hkept : Kept (reachableModels endpoints methods) found := by
    simpa using Kept.empty.enterAll hfound
  constructor
  · intro model hmodel
    obtain ⟨⟨name, kept⟩, hentry, rfl⟩ := List.mem_map.mp (List.mem_mergeSort.mp hmodel)
    obtain ⟨hreached, hname⟩ := hkept.entry name kept hentry
    exact ⟨mem_reachableModels.mp hreached, by simp [hname]⟩
  · intro model name hmodel hname
    obtain ⟨kept, hget, hfull⟩ := hkept.covers model (mem_reachableModels.mpr hmodel) name hname
    have hentry := Entries.mem_of_get? hget
    exact ⟨kept, List.mem_mergeSort.mpr (List.mem_map_of_mem hentry),
      (hkept.entry name kept hentry).2, hfull⟩

/-- Building the catalogue fails exactly if two occurrences of one name do not agree, and it names
such a pair.  If it does not fail, any two occurrences of one name agree. -/
theorem catalogue_collides_iff (endpoints : List Endpoint) (methods : List Method)
    (hnamed : ∀ method ∈ methods, ∀ root ∈ method.rootModels, ∀ model ∈ root.occurrences,
      model.isPending = true → model.name ≠ none) :
    ((∃ name, catalogue endpoints methods = .error (.nameCollision name)) ↔
      ∃ a b, Reached endpoints methods a ∧ Reached endpoints methods b ∧ a.name = b.name ∧
        a.name ≠ none ∧ a.sameShape b = false) ∧
    (∀ error, catalogue endpoints methods = .error error →
      ∃ name a b, error = .nameCollision name ∧ Reached endpoints methods a ∧
        Reached endpoints methods b ∧ a.name = some name ∧ b.name = some name ∧
        a.sameShape b = false) ∧
    (∀ models, catalogue endpoints methods = .ok models →
      ∀ a b, Reached endpoints methods a → Reached endpoints methods b → a.name = b.name →
        a.name ≠ none → a.sameShape b = true) := by
  have hreached : ∀ model, Reached endpoints methods model → model.isPending = true →
      model.name ≠ none := by
    rintro model ⟨_, -, place, -, method, hmethod, root, hroot, hmodel⟩
    exact hnamed method (List.mem_of_getElem? hmethod) root hroot model hmodel
  refine ⟨⟨?_, ?_⟩, ?_, ?_⟩
  · rintro ⟨name, h⟩
    obtain ⟨_, -, a, b, ha, hb, haName, hbName, hagree⟩ := exists_of_catalogue_eq_error h
    exact ⟨a, b, ha, hb, haName.trans hbName.symm, by simp [haName], hagree⟩
  · rintro ⟨a, b, ha, hb, hname, hnone, hagree⟩
    cases h : catalogue endpoints methods with
    | ok models =>
        have := sameShape_of_catalogue_eq_ok hreached h ha hb hname hnone
        simp [hagree] at this
    | error error =>
        obtain ⟨name, rfl, -⟩ := exists_of_catalogue_eq_error h
        exact ⟨name, rfl⟩
  · intro error h
    obtain ⟨name, rfl, a, b, hpair⟩ := exists_of_catalogue_eq_error h
    exact ⟨name, a, b, rfl, hpair⟩
  · intro models h a b
    exact sameShape_of_catalogue_eq_ok hreached h

def methodReturning (model : Model) : Method :=
  ⟨none, .get, "/", none, none, [], [], [], [], [⟨"application/json", "Json", some model⟩], false⟩

def listOf (item : Model) : Model := ⟨some "Nodes", none, .array item⟩

/-- A node that refers to itself, inside a list of nodes. -/
def cyclicNode : Model :=
  ⟨some "Node", none, .object [⟨"next", false, none,
    listOf ⟨some "Node", none, .pending "#/components/schemas/Node"⟩⟩]⟩

/-- A list of nodes inside a node collides with a list of leaves in another method. -/
theorem catalogue_collides_on_lists :
    ∃ name, catalogue [⟨Name.ofText "nodes", none, [1, 7, 0]⟩]
      [methodReturning cyclicNode, methodReturning (listOf ⟨some "Leaf", none, .unknown⟩)] =
        .error (.nameCollision name) := by
  refine (catalogue_collides_iff _ _ (by decide)).1.mpr
    ⟨listOf ⟨some "Node", none, .pending "#/components/schemas/Node"⟩,
      listOf ⟨some "Leaf", none, .unknown⟩, ?_, ?_, rfl, by simp [listOf],
      by simp [listOf, Model.sameShape, sameKind]⟩
  · exact ⟨_, List.mem_singleton_self _, 0, by decide, _, rfl, _, List.mem_singleton_self _,
      Model.child_mem_occurrences (List.mem_singleton_self _)⟩
  · exact ⟨_, List.mem_singleton_self _, 1, by decide, _, rfl, _, List.mem_singleton_self _,
      Model.self_mem_occurrences _⟩

end OpenApiClient
