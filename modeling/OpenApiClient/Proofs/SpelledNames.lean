import OpenApiClient.Proofs.GivenNames
import OpenApiClient.Proofs.Identifiers
import OpenApiClient.Proofs.ListedDefinitions
import OpenApiClient.Proofs.MethodHeadings

/-!
# What names are spelled from

The names of a client are put together from texts of its document: tags, operation ids, paths, the
names of parameters and fields, content types and the keys of references (`Document.Spells`).
Here it is shown of the names of models that they are identifiers exactly if these texts fit the
places where they are used.
-/

namespace OpenApiClient

def Operation.functionName (operation : Operation) (verb : Verb) (path : String) : String :=
  match operation.name? with
  | some name => name.camel
  | none => routeName verb.text path

/-- What is added to a name for a part of a schema is made of word characters, if the capitals of
the field names are. -/
theorem SchemaForm.Adds.isWord {form : SchemaForm} {node : RefOr Schema} {added : String}
    (h : form.Adds node added) (hfields : ∀ properties required field inner,
      form = .object properties required → (field, .inline inner) ∈ properties →
      inner.isComposite = true → Spelling.inner.Fits field) : isWord added = true := by
  cases h with
  | member node count =>
      rw [isWord_append, isWord_toString]
      decide
  | conjunct node count =>
      rw [isWord_append, isWord_toString]
      decide
  | item node => decide
  | field hfield hcomposite =>
      exact Spelling.isWord_pascalOf.mpr (hfields _ _ _ _ rfl hfield hcomposite)

def Site.called? (site : Site) : Option String :=
  match site.node with
  | .inline _ => site.name
  | .ref pointer => (referenceName pointer).toOption

theorem Site.called?_eq_some_iff {own : Option String} {pointer name : String} :
    Site.called? ⟨own, .ref pointer⟩ = some name ↔ referenceName pointer = .ok name := by
  change (referenceName pointer).toOption = some name ↔ _
  cases referenceName pointer <;> simp [Except.toOption]

theorem Document.Expands.name_eq_called {doc : Document} {stack : List String} {site : Site}
    {model : Model} (h : doc.Expands stack site model) : model.name = site.called? := by
  obtain ⟨own, pointer | schema⟩ := site
  · obtain ⟨target, htarget, hname⟩ := h.name_reference
    rw [hname, Site.called?_eq_some_iff.mpr htarget]
  · exact h.name_inPlace

/-- The sites that are read next are those of a schema, with the name that its model gets. -/
theorem Document.Reads.mem_sites {doc : Document} {site part : Site} (h : doc.Reads site part) :
    ∃ schema, doc.deref Shape.schema site.node = .ok schema ∧ part ∈ schema.sites site.called? := by
  cases h with
  | inPlace hpart => exact ⟨_, rfl, hpart⟩
  | reference htarget hschema hpart =>
      exact ⟨_, hschema, Site.called?_eq_some_iff.mpr htarget ▸ hpart⟩

theorem Document.reads_of_mem_sites {doc : Document} {site part : Site} {schema : Schema}
    {owner : String} (hschema : doc.deref Shape.schema site.node = .ok schema)
    (howner : site.called? = some owner) (hpart : part ∈ schema.sites (some owner)) :
    doc.Reads site part := by
  obtain ⟨own, pointer | inner⟩ := site
  · exact .reference (Site.called?_eq_some_iff.mp howner) hschema hpart
  · obtain rfl : own = some owner := howner
    obtain rfl : inner = schema := Except.ok.inj hschema
    exact .inPlace hpart

def HoldsInline (content : Entries MediaType) (suffix : String) : Prop :=
  ∃ entry ∈ Document.suffixedContent content, entry.2 = suffix ∧
    ∃ schema, entry.1.2.schema = some (.inline schema)

namespace Document

def NamesParameter (doc : Document) (item : PathItem) (operation : Operation) (name : String) :
    Prop :=
  ∃ node ∈ item.parameters ++ operation.parameters, ∃ parameter schema,
    doc.deref Shape.parameter node = .ok parameter ∧
    (parameter.location = .path ∨ parameter.location = .query) ∧
    parameter.schema = some (.inline schema) ∧ schema.isComposite = true ∧ parameter.name = name

/-- The texts that the names for an operation are made from.  A content type is spelled where there
are several of them. -/
inductive OperationSpells (doc : Document) (path : String) (item : PathItem) (verb : Verb)
    (operation : Operation) : Spelling → String → Prop
  | id {id : String} : operation.id = some id →
      OperationSpells doc path item verb operation .camel id
  | route : operation.id = none →
      OperationSpells doc path item verb operation .plain (resourceName path)
  | argument {name : String} : doc.Variable path item operation name →
      OperationSpells doc path item verb operation .argument name
  | parameter {name : String} : doc.NamesParameter item operation name →
      OperationSpells doc path item verb operation .pascal (operation.baseText verb path)
  | parameterName {name : String} : doc.NamesParameter item operation name →
      OperationSpells doc path item verb operation .inner name
  | response {suffix : String} : HoldsInline (doc.returnContent operation) suffix →
      OperationSpells doc path item verb operation .camel (operation.baseText verb path)
  | responseType {suffix : String} : HoldsInline (doc.returnContent operation) suffix →
      1 < (doc.returnContent operation).length →
      OperationSpells doc path item verb operation .plain suffix
  | body {suffix : String} : HoldsInline (doc.bodyContent operation) suffix →
      OperationSpells doc path item verb operation .pascal (operation.baseText verb path)
  | bodyType {suffix : String} : HoldsInline (doc.bodyContent operation) suffix →
      1 < (doc.returnContent operation).length →
      OperationSpells doc path item verb operation .plain suffix

/-- The texts that the names of a client are made from. -/
inductive Spells (doc : Document) : Spelling → String → Prop
  | tag {tag : Tag} : tag ∈ doc.spec.tags → Spells doc .pascal tag.name
  | operation {path : String} {item : PathItem} {verb : Verb} {operation : Operation}
      {spelling : Spelling} {text : String} : doc.Binds path item verb operation →
      doc.Tagged operation → doc.OperationSpells path item verb operation spelling text →
      Spells doc spelling text
  | reference {name : Option String} {pointer : String} : doc.Visits ⟨name, .ref pointer⟩ →
      Spells doc .pascal (referenceKey pointer)
  | field {site : Site} {schema inner : Schema} {properties : List (String × RefOr Schema)}
      {required : List String} {field : String} : doc.Visits site →
      doc.deref Shape.schema site.node = .ok schema → schema.form = .object properties required →
      (field, .inline inner) ∈ properties → inner.isComposite = true →
      Spells doc .inner field

variable {doc : Document} {path : String} {item : PathItem} {verb : Verb} {operation : Operation}

/-! ## Names of operations -/

theorem exists_rootName_iff {name : String} :
    (∃ schema, doc.RootName path item verb operation (.inline schema) name) ↔
      (∃ parameter, doc.NamesParameter item operation parameter ∧
        name = (operation.baseName verb path).pascal ++ Name.pascalOf parameter) ∨
      (∃ suffix, HoldsInline (doc.returnContent operation) suffix ∧
        name = returnModelName (operation.baseName verb path)
          ((doc.returnContent operation).length > 1) suffix) ∨
      ∃ suffix, HoldsInline (doc.bodyContent operation) suffix ∧
        name = bodyModelName (operation.baseName verb path)
          ((doc.returnContent operation).length > 1) suffix := by
  constructor
  · rintro ⟨schema, h⟩
    cases h with
    | parameter hnode hparameter hserved hschema hcomposite =>
        exact Or.inl ⟨_, ⟨_, hnode, _, _, hparameter, hserved, hschema, hcomposite, rfl⟩, rfl⟩
    | response hentry hschema => exact Or.inr (Or.inl ⟨_, ⟨_, hentry, rfl, _, hschema⟩, rfl⟩)
    | body hentry hschema => exact Or.inr (Or.inr ⟨_, ⟨_, hentry, rfl, _, hschema⟩, rfl⟩)
  · rintro (⟨_, ⟨_, hnode, _, _, hparameter, hserved, hschema, hcomposite, rfl⟩, rfl⟩ |
      ⟨_, ⟨_, hentry, rfl, _, hschema⟩, rfl⟩ | ⟨_, ⟨_, hentry, rfl, _, hschema⟩, rfl⟩)
    · exact ⟨_, .parameter hnode hparameter hserved hschema hcomposite⟩
    · exact ⟨_, .response hentry hschema⟩
    · exact ⟨_, .body hentry hschema⟩

end Document

theorem isIdentifier_pascal_append (text b : String) :
    isIdentifier ((Name.ofText text).pascal ++ b) = true ↔
      Spelling.pascal.Fits text ∧ isWord b = true := by
  have hne : (Name.ofText text).pascal ≠ "" := Name.pascalOf_ne_empty text
  rw [isIdentifier_append hne, ← Spelling.isIdentifier_pascalOf]
  rfl

theorem isIdentifier_paramModelName (text parameter : String) :
    isIdentifier ((Name.ofText text).pascal ++ Name.pascalOf parameter) = true ↔
      Spelling.pascal.Fits text ∧ Spelling.inner.Fits parameter := by
  rw [isIdentifier_pascal_append, Spelling.isWord_pascalOf]

theorem isIdentifier_returnModelName (text : String) (several : Bool) (suffix : String) :
    isIdentifier (returnModelName (Name.ofText text) several suffix) = true ↔
      Spelling.camel.Fits text ∧ (several = true → Spelling.plain.Fits suffix) := by
  rw [← Spelling.isIdentifier_camel, returnModelName]
  cases several with
  | false => simp
  | true =>
      rw [if_pos rfl, isIdentifier_append (Name.camel_ne_empty text)]
      simp [Spelling.Fits]

theorem isIdentifier_bodyModelName (text : String) (several : Bool) (suffix : String) :
    isIdentifier (bodyModelName (Name.ofText text) several suffix) = true ↔
      Spelling.pascal.Fits text ∧ (several = true → Spelling.plain.Fits suffix) := by
  have hbody : isWord "Body" = true := by decide
  rw [bodyModelName]
  cases several with
  | false =>
      rw [if_neg Bool.false_ne_true, isIdentifier_pascal_append]
      simp [hbody]
  | true =>
      rw [if_pos rfl, String.append_assoc, isIdentifier_pascal_append, isWord_append]
      simp [hbody, Spelling.Fits]

namespace Document

variable {doc : Document} {path : String} {item : PathItem} {verb : Verb} {operation : Operation}

/-- The texts of an operation fit, so its schemas in place get identifiers. -/
theorem isIdentifier_of_rootName
    (hfits : ∀ spelling text, doc.OperationSpells path item verb operation spelling text →
      spelling.Fits text) {schema : Schema} {name : String}
    (h : doc.RootName path item verb operation (.inline schema) name) :
    isIdentifier name = true := by
  rcases exists_rootName_iff.mp ⟨schema, h⟩ with ⟨parameter, hparameter, rfl⟩ |
    ⟨suffix, hsuffix, rfl⟩ | ⟨suffix, hsuffix, rfl⟩
  · rw [operation.baseName_eq, isIdentifier_paramModelName]
    exact ⟨hfits _ _ (.parameter hparameter), hfits _ _ (.parameterName hparameter)⟩
  · rw [operation.baseName_eq, isIdentifier_returnModelName, decide_eq_true_eq]
    exact ⟨hfits _ _ (.response hsuffix), fun h => hfits _ _ (.responseType hsuffix h)⟩
  · rw [operation.baseName_eq, isIdentifier_bodyModelName, decide_eq_true_eq]
    exact ⟨hfits _ _ (.body hsuffix), fun h => hfits _ _ (.bodyType hsuffix h)⟩

theorem isIdentifier_functionName (hfits : ∀ spelling text,
    doc.OperationSpells path item verb operation spelling text → spelling.Fits text) :
    isIdentifier (operation.functionName verb path) = true := by
  unfold Operation.functionName Operation.name?
  cases hid : operation.id with
  | none => exact (Spelling.isIdentifier_routeName verb path).mpr (hfits _ _ (.route hid))
  | some id => exact Spelling.isIdentifier_camel.mpr (hfits _ _ (.id hid))

/-- If the function of an operation, its arguments for the path and its schemas in place get
identifiers, then all texts that the names are made from fit. -/
theorem OperationSpells.fits {spelling : Spelling} {text : String}
    (h : doc.OperationSpells path item verb operation spelling text)
    (hfunction : isIdentifier (operation.functionName verb path) = true)
    (harguments : ∀ name, doc.Variable path item operation name →
      isIdentifier (argumentName name) = true)
    (hschemas : ∀ schema name, doc.RootName path item verb operation (.inline schema) name →
      isIdentifier name = true) : spelling.Fits text := by
  have hparameter {name : String} (hname : doc.NamesParameter item operation name) :
      Spelling.pascal.Fits (operation.baseText verb path) ∧ Spelling.inner.Fits name := by
    obtain ⟨schema, hroot⟩ := exists_rootName_iff.mpr (Or.inl ⟨name, hname, rfl⟩)
    rw [← isIdentifier_paramModelName, ← operation.baseName_eq]
    exact hschemas schema _ hroot
  have hresponse {suffix : String} (hsuffix : HoldsInline (doc.returnContent operation) suffix) :
      Spelling.camel.Fits (operation.baseText verb path) ∧
        ((doc.returnContent operation).length > 1 → Spelling.plain.Fits suffix) := by
    obtain ⟨schema, hroot⟩ := exists_rootName_iff.mpr (Or.inr (Or.inl ⟨suffix, hsuffix, rfl⟩))
    have hname := hschemas schema _ hroot
    rwa [operation.baseName_eq, isIdentifier_returnModelName, decide_eq_true_eq] at hname
  have hbody {suffix : String} (hsuffix : HoldsInline (doc.bodyContent operation) suffix) :
      Spelling.pascal.Fits (operation.baseText verb path) ∧
        ((doc.returnContent operation).length > 1 → Spelling.plain.Fits suffix) := by
    obtain ⟨schema, hroot⟩ := exists_rootName_iff.mpr (Or.inr (Or.inr ⟨suffix, hsuffix, rfl⟩))
    have hname := hschemas schema _ hroot
    rwa [operation.baseName_eq, isIdentifier_bodyModelName, decide_eq_true_eq] at hname
  cases h with
  | id hid =>
      rw [Operation.functionName, Operation.name?, hid] at hfunction
      exact Spelling.isIdentifier_camel.mp hfunction
  | route hid =>
      rw [Operation.functionName, Operation.name?, hid] at hfunction
      exact (Spelling.isIdentifier_routeName verb path).mp hfunction
  | argument hname => exact Spelling.isIdentifier_argumentName.mp (harguments _ hname)
  | parameter hname => exact (hparameter hname).1
  | parameterName hname => exact (hparameter hname).2
  | response hsuffix => exact (hresponse hsuffix).1
  | responseType hsuffix hseveral => exact (hresponse hsuffix).2 hseveral
  | body hsuffix => exact (hbody hsuffix).1
  | bodyType hsuffix hseveral => exact (hbody hsuffix).2 hseveral

/-! ## Names of models -/

theorem isIdentifier_of_reference (hfits : ∀ spelling text, doc.Spells spelling text →
    spelling.Fits text) {own : Option String} {pointer name : String}
    (hvisits : doc.Visits ⟨own, .ref pointer⟩)
    (hname : Site.called? ⟨own, .ref pointer⟩ = some name) : isIdentifier name = true := by
  rw [eq_of_referenceName (Site.called?_eq_some_iff.mp hname), Spelling.isIdentifier_pascalOf]
  exact hfits _ _ (.reference hvisits)

/-- If all texts fit, then all names that models get are identifiers.  What is added to the name of
an owner is made of word characters. -/
theorem isIdentifier_of_visits (hfits : ∀ spelling text, doc.Spells spelling text →
    spelling.Fits text) {site : Site} (hvisits : doc.Visits site) {name : String}
    (hname : site.called? = some name) : isIdentifier name = true := by
  obtain ⟨root, hroot, hreach⟩ := hvisits
  -- The induction is on the chain of sites from the operation to this one.
  induction hreach generalizing name with
  | refl =>
      obtain ⟨own, pointer | schema⟩ := root
      · exact isIdentifier_of_reference hfits ⟨_, hroot, .refl⟩ hname
      · obtain ⟨path, item, verb, operation, hbinds, htagged, hsite⟩ := hroot
        obtain rfl : own = some name := hname
        exact isIdentifier_of_rootName
          (fun spelling text h => hfits spelling text (.operation hbinds htagged h))
          (mem_rootSites_iff.mp hsite)
  | @tail site part hreach hreads ih =>
      obtain ⟨own, pointer | schema⟩ := part
      · exact isIdentifier_of_reference hfits ⟨_, hroot, hreach.tail hreads⟩ hname
      · obtain rfl : own = some name := hname
        obtain ⟨whole, hwhole, hpart⟩ := hreads.mem_sites
        rcases whole.form.name_of_mem_sites hpart with hnone | ⟨owner, added, howner, heq, hadds⟩
        · cases hnone
        · obtain rfl : name = owner ++ added := Option.some.inj heq
          have hword : isWord added = true := by
            refine hadds.isWord fun properties required field inner hform hfield hcomposite => ?_
            exact hfits _ _ (.field ⟨root, hroot, hreach⟩ hwhole hform hfield hcomposite)
          exact isIdentifier_append_of_isWord (ih howner) hword

end Document
end OpenApiClient
