import OpenApiClient.Model.Basic

/-!
# Equality of models

Equality of models is decidable: `Model.isEqual` compares two trees, and `Model.isEqual_iff` says
that it finds exactly the equal ones.
-/

namespace OpenApiClient

mutual

def Model.isEqual : Model → Model → Bool
  | ⟨name, description, kind⟩, ⟨name', description', kind'⟩ =>
    decide (name = name') && decide (description = description') && equalKind kind kind'

def equalKind : ModelKind Model → ModelKind Model → Bool
  | .object properties, .object properties' => equalProperties properties properties'
  | .array item, .array item' => item.isEqual item'
  | .union members, .union members' => equalModels members members'
  | .intersection members, .intersection members' => equalModels members members'
  | .primitive type, .primitive type' => decide (type = type')
  | .unknown, .unknown => true
  | .pending pointer, .pending pointer' => decide (pointer = pointer')
  | _, _ => false

def equalModels : List Model → List Model → Bool
  | [], [] => true
  | model :: models, model' :: models' => model.isEqual model' && equalModels models models'
  | _, _ => false

def equalProperties : List (Property Model) → List (Property Model) → Bool
  | [], [] => true
  | ⟨name, isRequired, description, model⟩ :: properties,
    ⟨name', isRequired', description', model'⟩ :: properties' =>
    decide (name = name') && decide (isRequired = isRequired') &&
      decide (description = description') && model.isEqual model' &&
      equalProperties properties properties'
  | _, _ => false

end

mutual

theorem Model.isEqual_iff : ∀ a b : Model, a.isEqual b = true ↔ a = b
  | ⟨_, _, kind⟩, ⟨_, _, kind'⟩ => by
    simp [Model.isEqual, equalKind_iff kind kind', and_assoc]

theorem equalKind_iff : ∀ a b : ModelKind Model, equalKind a b = true ↔ a = b
  | .object properties, b => by
    cases b <;> simp [equalKind, equalProperties_iff properties]
  | .array item, b => by cases b <;> simp [equalKind, Model.isEqual_iff item]
  | .union members, b => by cases b <;> simp [equalKind, equalModels_iff members]
  | .intersection members, b => by cases b <;> simp [equalKind, equalModels_iff members]
  | .primitive _, b => by cases b <;> simp [equalKind]
  | .unknown, b => by cases b <;> simp [equalKind]
  | .pending _, b => by cases b <;> simp [equalKind]

theorem equalModels_iff : ∀ a b : List Model, equalModels a b = true ↔ a = b
  | [], b => by cases b <;> simp [equalModels]
  | model :: models, b => by
    cases b <;> simp [equalModels, Model.isEqual_iff model, equalModels_iff models]

theorem equalProperties_iff :
    ∀ a b : List (Property Model), equalProperties a b = true ↔ a = b
  | [], b => by cases b <;> simp [equalProperties]
  | ⟨_, _, _, model⟩ :: properties, b => by
    cases b with
    | nil => simp [equalProperties]
    | cons property rest =>
      obtain ⟨_, _, _, model'⟩ := property
      simp [equalProperties, Model.isEqual_iff model, equalProperties_iff properties, and_assoc]

end

instance : DecidableEq Model := fun a b =>
  decidable_of_iff (a.isEqual b = true) (Model.isEqual_iff a b)

end OpenApiClient
