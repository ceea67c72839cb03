import OpenApiClient.Model.Occurrences

/-!
# Models as trees

A model is a tree whose branches are its children.  Its occurrences are the model itself and the
occurrences of its children, and what holds of a model as soon as it holds of its children holds
of every model.  An occurrence stands at a place, which is the list of the numbers of the children
on the way down (`Model.at?`).
-/

namespace OpenApiClient

theorem listOccurrences_eq_flatMap (models : List Model) :
    listOccurrences models = models.flatMap Model.occurrences := by
  induction models with
  | nil => rfl
  | cons model models ih => rw [listOccurrences, ih, List.flatMap_cons]

theorem propertyOccurrences_eq_flatMap (properties : List (Property Model)) :
    propertyOccurrences properties =
      (properties.map Property.model).flatMap Model.occurrences := by
  induction properties with
  | nil => rfl
  | cons property properties ih =>
      obtain ⟨_, _, _, model⟩ := property
      rw [propertyOccurrences, ih, List.map_cons, List.flatMap_cons]

namespace Model

section Children

variable (name description : Option String)

@[simp] theorem children_object (properties : List (Property Model)) :
    children ⟨name, description, .object properties⟩ = properties.map Property.model := rfl

@[simp] theorem children_array (item : Model) :
    children ⟨name, description, .array item⟩ = [item] := rfl

@[simp] theorem children_union (members : List Model) :
    children ⟨name, description, .union members⟩ = members := List.append_nil _

@[simp] theorem children_intersection (members : List Model) :
    children ⟨name, description, .intersection members⟩ = members := List.append_nil _

@[simp] theorem children_primitive (type : Primitive) :
    children ⟨name, description, .primitive type⟩ = [] := rfl

@[simp] theorem children_unknown : children ⟨name, description, .unknown⟩ = [] := rfl

@[simp] theorem children_pending (pointer : String) :
    children ⟨name, description, .pending pointer⟩ = [] := rfl

end Children

theorem occurrences_eq_cons (model : Model) :
    model.occurrences = model :: model.children.flatMap occurrences := by
  obtain ⟨name, description, kind⟩ := model
  rw [occurrences]
  cases kind <;>
    simp [kindOccurrences, listOccurrences_eq_flatMap, propertyOccurrences_eq_flatMap]

theorem mem_occurrences {found model : Model} :
    found ∈ model.occurrences ↔
      found = model ∨ ∃ child ∈ model.children, found ∈ child.occurrences := by
  rw [occurrences_eq_cons, List.mem_cons, List.mem_flatMap]

theorem self_mem_occurrences (model : Model) : model ∈ model.occurrences :=
  mem_occurrences.mpr (Or.inl rfl)

theorem sizeOf_child_lt {child model : Model} (h : child ∈ model.children) :
    sizeOf child < sizeOf model := by
  obtain ⟨name, description, kind⟩ := model
  cases kind with
  | object properties =>
      obtain ⟨property, hproperty, rfl⟩ : ∃ property ∈ properties, property.model = child := by
        simpa using h
      have hlist := List.sizeOf_lt_of_mem hproperty
      obtain ⟨_, _, _, model⟩ := property
      simp only [Property.mk.sizeOf_spec] at hlist
      simp only [Model.mk.sizeOf_spec, ModelKind.object.sizeOf_spec]
      omega
  | array item =>
      obtain rfl : child = item := by simpa using h
      simp only [Model.mk.sizeOf_spec, ModelKind.array.sizeOf_spec]
      omega
  | union members =>
      have hlist : sizeOf child < sizeOf members :=
        List.sizeOf_lt_of_mem (by simpa using h)
      simp only [Model.mk.sizeOf_spec, ModelKind.union.sizeOf_spec]
      omega
  | intersection members =>
      have hlist : sizeOf child < sizeOf members :=
        List.sizeOf_lt_of_mem (by simpa using h)
      simp only [Model.mk.sizeOf_spec, ModelKind.intersection.sizeOf_spec]
      omega
  | primitive type => simp at h
  | unknown => simp at h
  | pending pointer => simp at h

/-- What passes from the children of a model to the model holds of all models. -/
@[elab_as_elim]
theorem childInduction {motive : Model → Prop}
    (step : ∀ model, (∀ child ∈ model.children, motive child) → motive model) (model : Model) :
    motive model :=
  step model fun child _ => childInduction step child
termination_by sizeOf model
decreasing_by exact sizeOf_child_lt ‹_›

theorem occurrences_trans {a b c : Model} (hab : a ∈ b.occurrences) (hbc : b ∈ c.occurrences) :
    a ∈ c.occurrences := by
  induction c using childInduction with
  | step c ih =>
      rcases mem_occurrences.mp hbc with rfl | ⟨child, hchild, hb⟩
      · exact hab
      · exact mem_occurrences.mpr (Or.inr ⟨child, hchild, ih child hchild hb⟩)

theorem child_mem_occurrences {child model : Model} (h : child ∈ model.children) :
    child ∈ model.occurrences :=
  mem_occurrences.mpr (Or.inr ⟨child, h, self_mem_occurrences child⟩)

def isScalar (model : Model) : Bool :=
  match model.kind with
  | .primitive _ => true
  | .unknown => true
  | _ => false

def isComposite (model : Model) : Bool :=
  match model.kind with
  | .object _ => true
  | .array _ => true
  | .union _ => true
  | .intersection _ => true
  | _ => false

theorem isComposite_of_mem_children {child model : Model} (h : child ∈ model.children) :
    model.isComposite = true := by
  obtain ⟨_, _, kind⟩ := model
  cases kind <;> first | rfl | simp at h

theorem isScalar_eq_false {model : Model} (h : model.isComposite = true) :
    model.isScalar = false := by
  obtain ⟨_, _, kind⟩ := model
  cases kind <;> first | rfl | cases h

theorem children_eq_nil_of_isScalar {model : Model} (h : model.isScalar = true) :
    model.children = [] := by
  obtain ⟨_, _, kind⟩ := model
  cases kind <;> first | rfl | simp [isScalar] at h

theorem exists_of_isPending {model : Model} (h : model.isPending = true) :
    ∃ pointer, model.kind = .pending pointer := by
  obtain ⟨name, description, kind⟩ := model
  cases kind <;> first | exact ⟨_, rfl⟩ | simp [isPending] at h

/-! ## Places -/

/-- The model at a place of a tree. -/
def at? (model : Model) : List Nat → Option Model
  | [] => some model
  | position :: place => model.children[position]?.bind fun child => child.at? place

@[simp] theorem at?_nil (model : Model) : model.at? [] = some model := rfl

theorem at?_cons {model found : Model} {position : Nat} {place : List Nat} :
    model.at? (position :: place) = some found ↔
      ∃ child, model.children[position]? = some child ∧ child.at? place = some found :=
  Option.bind_eq_some_iff

theorem at?_append (model : Model) (place rest : List Nat) :
    model.at? (place ++ rest) = (model.at? place).bind fun found => found.at? rest := by
  induction place generalizing model with
  | nil => rfl
  | cons position place ih =>
      rw [List.cons_append, at?, at?, Option.bind_assoc]
      exact congrArg _ (funext fun child => ih child)

theorem eq_of_at? {model found : Model} {place : List Nat} (h : model.children = [])
    (hfound : model.at? place = some found) : found = model := by
  cases place with
  | nil => exact (Option.some.inj hfound).symm
  | cons position place =>
      obtain ⟨child, hchild, -⟩ := at?_cons.mp hfound
      simp [h] at hchild

theorem mem_occurrences_of_at? {model found : Model} {place : List Nat}
    (h : model.at? place = some found) : found ∈ model.occurrences := by
  induction place generalizing model with
  | nil => exact Option.some.inj h ▸ model.self_mem_occurrences
  | cons position place ih =>
      obtain ⟨child, hchild, hfound⟩ := at?_cons.mp h
      exact mem_occurrences.mpr (Or.inr ⟨child, List.mem_of_getElem? hchild, ih hfound⟩)

/-- Every occurrence stands at a place. -/
theorem exists_at?_of_mem_occurrences {model found : Model} (h : found ∈ model.occurrences) :
    ∃ place, model.at? place = some found := by
  induction model using childInduction with
  | step model ih =>
      rcases mem_occurrences.mp h with rfl | ⟨child, hchild, hfound⟩
      · exact ⟨[], rfl⟩
      · obtain ⟨place, hplace⟩ := ih child hchild hfound
        obtain ⟨position, hposition⟩ := List.mem_iff_getElem?.mp hchild
        exact ⟨position :: place, at?_cons.mpr ⟨child, hposition, hplace⟩⟩

end Model
end OpenApiClient
