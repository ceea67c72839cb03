import OpenApiClient.Proofs.IndependentOutput
import OpenApiClient.Proofs.SpelledNames

/-!
# Names of functions

A function is called as the document calls its operation, or else by a word for the verb and the
resources of the route.  The words for verbs begin with different letters, so names of the second
kind are told apart by their parts (`routeName_eq_iff`).  Names of both kinds can meet.
-/

namespace OpenApiClient

def endsWithVariable (path : String) : Bool :=
  ((routeParts path).getLast?.map isPlaceholder).getD false

/-- The word for a verb, which tells whether there is one resource or a list of them. -/
def Verb.word (verb : Verb) (single : Bool) : String :=
  match verb with
  | get => if single then "get" else "list"
  | post => "create"
  | put => "update"
  | delete => "delete"
  | patch => "patch"
  | options => "options"
  | head => "head"
  | trace => "trace"

def verbWords : List String :=
  ["get", "list", "create", "update", "delete", "patch", "options", "head", "trace"]

theorem Verb.word_mem_verbWords (verb : Verb) (single : Bool) : verb.word single ∈ verbWords := by
  cases verb <;> cases single <;> decide

theorem Verb.word_eq_iff {verb verb' : Verb} {single single' : Bool} :
    verb.word single = verb'.word single' ↔ verb = verb' ∧ (verb = .get → single = single') := by
  cases verb <;> cases verb' <;> cases single <;> cases single' <;> decide

theorem routeVerb_text (verb : Verb) (path : String) :
    routeVerb verb.text path = verb.word (endsWithVariable path) := by
  rw [routeVerb, Spelling.uppercase_text]
  cases verb <;> rfl

theorem eq_of_head_verbWords : ∀ a ∈ verbWords, ∀ b ∈ verbWords,
    a.toList.head? = b.toList.head? → a = b := by
  decide

theorem head?_append_of_mem_verbWords {a : String} (h : a ∈ verbWords) (b : String) :
    (a ++ b).toList.head? = a.toList.head? := by
  have hne : ∀ a ∈ verbWords, a.toList ≠ [] := by decide
  rw [String.toList_append, List.head?_append_of_ne_nil _ (hne a h)]

theorem append_inj_of_mem_verbWords {a b r r' : String} (ha : a ∈ verbWords) (hb : b ∈ verbWords)
    (h : a ++ r = b ++ r') : a = b ∧ r = r' := by
  -- No two words begin alike, so the first letter of a name tells where its word ends.
  have hhead : a.toList.head? = b.toList.head? := by
    rw [← head?_append_of_mem_verbWords ha r, h, head?_append_of_mem_verbWords hb r']
  obtain rfl := eq_of_head_verbWords a ha b hb hhead
  exact ⟨rfl, (String.append_right_inj a).mp h⟩

/-- Two routes get the same name exactly if they have the same verb and the same resources, and if
both end with a variable or none does in case that the verb is `get`. -/
theorem routeName_eq_iff {verb verb' : Verb} {path path' : String} :
    routeName verb.text path = routeName verb'.text path' ↔
      verb = verb' ∧ (verb = .get → endsWithVariable path = endsWithVariable path') ∧
        resourceName path = resourceName path' := by
  rw [routeName, routeName, routeVerb_text, routeVerb_text]
  have hword := verb.word_mem_verbWords (endsWithVariable path)
  have hword' := verb'.word_mem_verbWords (endsWithVariable path')
  constructor
  · intro h
    obtain ⟨hwords, hresources⟩ := append_inj_of_mem_verbWords hword hword' h
    obtain ⟨hverb, hsingle⟩ := Verb.word_eq_iff.mp hwords
    exact ⟨hverb, hsingle, hresources⟩
  · rintro ⟨hverb, hsingle, hresources⟩
    rw [Verb.word_eq_iff.mpr ⟨hverb, hsingle⟩, hresources]

theorem routeName_ne_client (verb : Verb) (path : String) : routeName verb.text path ≠ "client" := by
  intro h
  rw [routeName, routeVerb_text] at h
  have hword := verb.word_mem_verbWords (endsWithVariable path)
  -- The only word that begins as `client` does is `create`.
  have hcreate : verb.word (endsWithVariable path) = "create" := by
    apply eq_of_head_verbWords _ hword _ (by decide)
    rw [← head?_append_of_mem_verbWords hword (resourceName path), h]
    decide
  have hletters := congrArg (fun name => name.toList.take 2) h
  simp [hcreate] at hletters

namespace PlacedOperation

def functionName (placed : PlacedOperation) : String :=
  placed.operation.functionName placed.verb placed.path

inductive SharesName (a b : PlacedOperation) : Prop
  | given {id id' : String} : a.operation.id = some id → b.operation.id = some id' →
    (Name.ofText id).camel = (Name.ofText id').camel → SharesName a b
  | made : a.operation.id = none → b.operation.id = none → a.verb = b.verb →
    (a.verb = .get → endsWithVariable a.path = endsWithVariable b.path) →
    resourceName a.path = resourceName b.path → SharesName a b
  | givenAsMade {id : String} : a.operation.id = some id → b.operation.id = none →
    (Name.ofText id).camel = routeName b.verb.text b.path → SharesName a b
  | madeAsGiven {id : String} : a.operation.id = none → b.operation.id = some id →
    routeName a.verb.text a.path = (Name.ofText id).camel → SharesName a b

variable {a b : PlacedOperation}

theorem functionName_of_id {id : String} (h : a.operation.id = some id) :
    a.functionName = (Name.ofText id).camel := by
  rw [functionName, Operation.functionName, Operation.name?, h]
  rfl

theorem functionName_of_route (h : a.operation.id = none) :
    a.functionName = routeName a.verb.text a.path := by
  rw [functionName, Operation.functionName, Operation.name?, h]
  rfl

theorem functionName_eq_iff : a.functionName = b.functionName ↔ a.SharesName b := by
  constructor
  · intro h
    cases ha : a.operation.id with
    | some id =>
        rw [functionName_of_id ha] at h
        cases hb : b.operation.id with
        | some id' => exact .given ha hb (h.trans (functionName_of_id hb))
        | none => exact .givenAsMade ha hb (h.trans (functionName_of_route hb))
    | none =>
        rw [functionName_of_route ha] at h
        cases hb : b.operation.id with
        | some id => exact .madeAsGiven ha hb (h.trans (functionName_of_id hb))
        | none =>
            obtain ⟨hverb, hsingle, hresources⟩ :=
              routeName_eq_iff.mp (h.trans (functionName_of_route hb))
            exact .made ha hb hverb hsingle hresources
  · intro h
    cases h with
    | given ha hb hname => rw [functionName_of_id ha, functionName_of_id hb, hname]
    | made ha hb hverb hsingle hresources =>
        rw [functionName_of_route ha, functionName_of_route hb]
        exact routeName_eq_iff.mpr ⟨hverb, hsingle, hresources⟩
    | givenAsMade ha hb hname => rw [functionName_of_id ha, functionName_of_route hb, hname]
    | madeAsGiven ha hb hname => rw [functionName_of_route ha, functionName_of_id hb, hname]

theorem functionName_ne_client_iff : a.functionName ≠ "client" ↔
    ∀ id, a.operation.id = some id → (Name.ofText id).camel ≠ "client" := by
  cases ha : a.operation.id with
  | some id => simp [functionName_of_id ha]
  | none => simp [functionName_of_route ha, routeName_ne_client]

end PlacedOperation
end OpenApiClient
