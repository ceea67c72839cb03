import OpenApiClient.Proofs.Imports
import OpenApiClient.Proofs.RequestBodies

/-!
# Calls of serializers

A serializer calls those of the fields, the elements or the members of its model.  A field is
converted with the serializer of its type, or of the elements of its type if that is a list.  The
elements of a list and the members of an intersection are not: what is called for them is the
serializer that a field of their type would need, so a part that is a list is passed as a whole to
the serializer of its elements (`Document.serializer_calls`).
-/

namespace OpenApiClient

/-- A call of a serializer, with the model of the values that it is called for. -/
structure SerializerCall where
  serializer : String
  argument : Model

namespace SerializerCall

def Fits (call : SerializerCall) : Prop := call.argument.serializer? = some call.serializer

def text (call : SerializerCall) (expr : String) : String :=
  String.join [call.serializer, "(", expr, ")"]

end SerializerCall

/-- The call that a field needs: for its value, or for the elements of its value. -/
def Property.call? (property : Property Model) : Option SerializerCall :=
  property.model.element.serializer?.map fun serializer => ⟨serializer, property.model.element⟩

def Property.convertedText (property : Property Model) : String :=
  let expr := "value" ++ memberAccess property.name
  match property.call? with
  | none => expr
  | some call =>
    if property.model.isArray then
      String.join [expr, if property.isRequired then "" else "?", ".map(", call.serializer, ")"]
    else if property.isRequired then call.text expr
    else String.join [expr, " === undefined ? undefined : ", call.text expr]

namespace Model

/-- The call that is made for a model as the element of a list or a member of an intersection. -/
def partCall? (part : Model) : Option SerializerCall :=
  part.element.serializer?.map fun serializer => ⟨serializer, part⟩

def fieldCalls (model : Model) : List SerializerCall := model.properties.filterMap Property.call?

def partCalls (model : Model) : List SerializerCall :=
  match model.kind with
  | .array item => item.partCall?.toList
  | .intersection members => members.filterMap partCall?
  | _ => []

def returnText (model : Model) : String :=
  match model.kind with
  | .object properties =>
    String.join ["  return \x7b\n", String.join (properties.map fun property =>
      String.join ["    ", propertyKey property.name, ": ", property.convertedText, ",\n"]),
      "  \x7d;\n"]
  | .array item =>
    match item.partCall? with
    | some call => String.join ["  return value.map(", call.serializer, ");\n"]
    | none => "  return value;\n"
  | .intersection members =>
    String.join ["  return Object.assign(\x7b\x7d, value",
      String.join ((members.filterMap partCall?).map fun call => ", " ++ call.text "value"), ");\n"]
  | _ => "  return value;\n"

def serializerText (model : Model) (name : String) : String :=
  String.join ["import type \x7b ", model.typeName, " \x7d from \"../domain\";\n",
    String.join (model.serializerImports.map ModelView.serializerImportText),
    "\nexport function ", name, "(value: ", model.typeName, "): unknown \x7b\n",
    model.returnText, "\x7d\n"]

/-- The model is a list, and its elements have another serializer than the list. -/
def ListsOthers (model : Model) : Prop :=
  ∃ item serializer, model.kind = .array item ∧ item.serializer? = some serializer ∧
    model.serializer? ≠ some serializer

/-! ## Texts -/

theorem called?_reference (part : Model) :
    part.reference.called? = part.partCall?.map SerializerCall.serializer := by
  have hserializer : part.reference.serializer = part.element.serializer? := rfl
  unfold TypeReference.called? partCall?
  rw [hserializer]
  cases hname : part.element.serializer? with
  | none => rfl
  | some name => simp [isEmpty_of_serializer? hname]

end Model

theorem Property.converted_view (property : Property Model) :
    property.view.converted ("value" ++ memberAccess property.name) (!property.isRequired) =
      property.convertedText := by
  have hserializer : property.view.serializer = property.model.element.serializer? := rfl
  have harray : property.view.isArray = property.model.isArray := rfl
  unfold PropertyView.converted convertedText
  rw [hserializer, harray]
  cases hname : property.model.element.serializer? with
  | none => rw [show property.call? = none by rw [call?, hname]; rfl]
  | some name =>
      have hempty := Model.isEmpty_of_serializer? hname
      rw [show property.call? = some ⟨name, property.model.element⟩ by rw [call?, hname]; rfl]
      cases property.model.isArray <;> cases property.isRequired <;>
        simp [hempty, SerializerCall.text, String.append_assoc]

namespace Model

theorem join_memberText (members : List Model) :
    String.join ((members.map reference).map TypeReference.memberText) =
      String.join ((members.filterMap partCall?).map fun call => ", " ++ call.text "value") := by
  induction members with
  | nil => rfl
  | cons member members ih =>
      rw [List.map_cons, List.map_cons, String.join_cons, ih, TypeReference.memberText,
        called?_reference]
      cases hcall : member.partCall? with
      | none => simp [hcall]
      | some call => simp [hcall, SerializerCall.text]

theorem returnText_view (model : Model) : model.view.returnText = model.returnText := by
  unfold ModelView.returnText ModelView.returnedText returnText
  obtain ⟨name, description, kind⟩ := model
  cases kind with
  | object properties =>
      change String.join ["  return \x7b\n", String.join ((properties.map Property.view).map
        PropertyView.serializedText), "  \x7d;\n"] = _
      have hfields : (properties.map Property.view).map PropertyView.serializedText =
          properties.map fun property => String.join ["    ", propertyKey property.name, ": ",
            property.convertedText, ",\n"] := by
        rw [List.map_map]
        refine List.map_congr_left fun property _ => ?_
        rw [← property.converted_view]
        rfl
      rw [hfields]
  | array item =>
      have hmapped : (view ⟨name, description, .array item⟩).mapped? =
          item.partCall?.map SerializerCall.serializer := called?_reference item
      rw [hmapped]
      cases hcall : item.partCall? with
      | none => simp only [hcall]; rfl
      | some call => simp only [hcall]; rfl
  | intersection members =>
      change String.join ["  return Object.assign(\x7b\x7d, value", String.join ((members.map
        reference).map TypeReference.memberText), ");\n"] = _
      rw [join_memberText]
  | _ => rfl

theorem serializerText_view (model : Model) (name : String) :
    model.view.serializerText name = model.serializerText name := by
  have hname : model.view.name = model.typeName := rfl
  have himports : model.view.serializerImports = model.serializerImports := rfl
  unfold ModelView.serializerText serializerText
  rw [returnText_view, hname, himports]
  simp [String.append_assoc]

/-! ## Calls -/

variable {model part : Model} {call : SerializerCall}

theorem fits_of_mem_fieldCalls (h : call ∈ model.fieldCalls) :
    call.Fits := by
  obtain ⟨property, -, hcall⟩ := List.mem_filterMap.mp h
  obtain ⟨serializer, hserializer, rfl⟩ := Option.map_eq_some_iff.mp hcall
  exact hserializer

theorem exists_of_mem_partCalls (h : call ∈ model.partCalls) :
    ∃ part ∈ model.children, part.partCall? = some call := by
  unfold partCalls at h
  simp only [children, parts, List.mem_append]
  cases hkind : model.kind with
  | array item =>
      rw [hkind] at h
      exact ⟨item, Or.inl (List.mem_singleton_self item), Option.mem_toList.mp h⟩
  | intersection members =>
      rw [hkind] at h
      obtain ⟨member, hmember, hcall⟩ := List.mem_filterMap.mp h
      exact ⟨member, Or.inl hmember, hcall⟩
  | _ =>
      rw [hkind] at h
      exact absurd h List.not_mem_nil

/-- What is called for a part fits unless the part is a list with elements of another serializer. -/
theorem fits_partCall_iff (h : part.partCall? = some call) :
    call.argument = part ∧ (call.Fits ↔ ¬ part.ListsOthers) := by
  obtain ⟨serializer, hserializer, rfl⟩ := Option.map_eq_some_iff.mp h
  refine ⟨rfl, ?_⟩
  change part.serializer? = some serializer ↔ _
  rcases part.array_or_element_eq with ⟨item, hitem, helement, -⟩ | ⟨harray, helement, -⟩
  · rw [helement] at hserializer
    constructor
    · rintro hfits ⟨other, serializer', hother, hserializer', hne⟩
      obtain rfl := ModelKind.array.inj (hitem.symm.trans hother)
      exact hne (hfits.trans (hserializer.symm.trans hserializer'))
    · intro hlists
      by_contra hne
      exact hlists ⟨item, serializer, hitem, hserializer, hne⟩
  · rw [helement] at hserializer
    refine iff_of_true hserializer ?_
    rintro ⟨item, _, hitem, -⟩
    simp [isArray, hitem] at harray

theorem isScalar_of_partCall (h : part.partCall? = some call) : part.isScalar = false := by
  obtain ⟨serializer, hserializer, -⟩ := Option.map_eq_some_iff.mp h
  rcases part.array_or_element_eq with ⟨item, hitem, -⟩ | ⟨-, helement, -⟩
  · rw [isScalar, hitem]
  · rw [helement] at hserializer
    exact (serializer?_eq_some.mp hserializer).1

end Model

/-- The serializers of the listed models are among the files of a client. -/
theorem Api.serializer_mem {api : Api} {files : List GeneratedFile}
    (h : api.renderFiles .builtin = .ok files) {model : Model} (hmodel : model ∈ api.models)
    {name : String} (hname : model.serializer? = some name) :
    ⟨pathIn "serializers/" name, model.serializerText name⟩ ∈ files := by
  rw [← model.serializerText_view]
  apply modelFiles_subset h hmodel (Templates.modelFiles_builtin model)
  rw [hname]
  exact List.mem_cons_of_mem _ (List.mem_singleton_self _)

/-- The serializers of a document call what fits for fields, and for elements and members unless
these are lists with elements of another serializer.  Elements and members for which a serializer is
called always have one of their own. -/
theorem Document.serializer_calls (doc : Document) {api : Api} (h : doc.toApi.outcome.1 = .ok api) :
    ∃ files, api.renderFiles .builtin = .ok files ∧
      ∀ model ∈ api.models, ∀ name, model.serializer? = some name →
        ⟨pathIn "serializers/" name, model.serializerText name⟩ ∈ files ∧
        (∀ call ∈ model.fieldCalls, call.Fits) ∧
        ∀ call ∈ model.partCalls, (∃ own, call.argument.serializer? = some own) ∧
          (call.Fits ↔ ¬ call.argument.ListsOthers) := by
  have hdescribes := doc.ensures_toApi.ok h
  obtain ⟨files, hfiles⟩ := api.exists_renderFiles
  refine ⟨files, hfiles, fun model hmodel name hname => ⟨Api.serializer_mem hfiles hmodel hname,
    fun call => Model.fits_of_mem_fieldCalls, fun call hcall => ?_⟩⟩
  obtain ⟨part, hpart, hpartCall⟩ := Model.exists_of_mem_partCalls hcall
  obtain ⟨rfl, hfits⟩ := Model.fits_partCall_iff hpartCall
  refine ⟨?_, hfits⟩
  -- Of what is reached, only scalars have no name.
  have hscalar := Model.isScalar_of_partCall hpartCall
  have hreached := hdescribes.reached_of_child hmodel hpart
  obtain ⟨own, hown⟩ := Option.ne_none_iff_exists'.mp fun hnone =>
    Bool.false_ne_true (hscalar.symm.trans (hdescribes.isScalar hreached hnone))
  exact ⟨_, Model.serializer?_eq_some.mpr ⟨hscalar, own, hown, rfl⟩⟩

/-- The serializer of a list of nodes calls that of a node for its elements. -/
theorem Document.serializer_calls_on_lists :
    listDocument.toApi.outcome.1 = .ok listApi ∧
    ∃ call ∈ (⟨some "List", none, .array listedNode⟩ : Model).partCalls, call.Fits := by
  have hok := outcome_listDocument
  obtain ⟨files, -, hcalls⟩ := listDocument.serializer_calls hok
  obtain ⟨-, -, hparts⟩ := hcalls ⟨some "List", none, .array listedNode⟩ List.mem_cons_self
    "serializeList" (by decide +kernel)
  have hcall : (⟨"serializeNode", listedNode⟩ : SerializerCall) ∈
      (⟨some "List", none, .array listedNode⟩ : Model).partCalls := by
    have hserializer : listedNode.element.serializer? = some "serializeNode" := by decide +kernel
    change _ ∈ (listedNode.element.serializer?.map fun name =>
      (⟨name, listedNode⟩ : SerializerCall)).toList
    rw [hserializer]
    exact List.mem_singleton_self _
  refine ⟨hok, _, hcall, (hparts _ hcall).2.mpr ?_⟩
  rintro ⟨item, _, hitem, -⟩
  cases hitem

/-- A tree with one operation, called `getBoard`, which answers with a list of lists of cells. -/
def boardTree : Json :=
  .object [("openapi", .string "3.0.0"),
    ("info", .object [("title", .string "Boards"), ("version", .string "1")]),
    ("paths", .object [("/board", .object [("get", .object [
      ("operationId", .string "getBoard"), ("tags", .array [.string "boards"]),
      ("responses", .object [("200", .object [("description", .string ""),
        ("content", .object [("application/json", .object [("schema",
          .object [("$ref", .string "#/components/schemas/Board")])])])])])])])]),
    ("components", .object [("schemas", .object [
      ("Board", .object [("type", .string "array"), ("items", .object [
        ("type", .string "array"),
        ("items", .object [("$ref", .string "#/components/schemas/Cell")])])]),
      ("Cell", .object [("type", .string "object")])])]),
    ("tags", .array [.object [("name", .string "boards")]])]

def boardDocument : Document :=
  .of ⟨"3.0.0", ⟨"Boards", none, "1"⟩, [("/board", ⟨none, none, [], [(.get, ⟨some "getBoard",
      none, none, ["boards"], [], none, [("200", .inline ⟨"", [("application/json",
        ⟨some (.ref "#/components/schemas/Board"), none⟩)]⟩)], none⟩)]⟩)],
    some ⟨[("Board", .inline { Schema.empty with
        type := some (.single "array")
        items := some (.inline { Schema.empty with
          type := some (.single "array"), items := some (.ref "#/components/schemas/Cell") }) }),
      ("Cell", .inline { Schema.empty with type := some (.single "object") })], [], [], []⟩,
    [⟨"boards", none⟩]⟩ boardTree

def boardRow : Model := ⟨some "BoardItem", none, .array ⟨some "Cell", none, .object []⟩⟩

def board : Model := ⟨some "Board", none, .array boardRow⟩

def boardApi : Api where
  info := ⟨"Boards", none, "1"⟩
  endpoints := [⟨.ofText "boards", none, [0]⟩]
  methods := [⟨some (.ofText "getBoard"), .get, "/board", none, none, ["boards"], [], [], [],
    [⟨"application/json", "Json", some board⟩], false⟩]
  models := [board, boardRow, ⟨some "Cell", none, .object []⟩]

theorem Document.outcome_boardDocument : boardDocument.toApi.outcome.1 = .ok boardApi := by
  have hsorted : sortByName Model.name boardApi.models = boardApi.models :=
    List.mergeSort_of_pairwise (by decide +kernel)
  have hunsorted : boardDocument.toApi.outcome.1 =
      .ok { boardApi with models := sortByName Model.name boardApi.models } := by
    with_unfolding_all rfl
  rw [hunsorted, hsorted]

/-- The serializer of a board calls that of a cell for its rows. -/
theorem Document.rows_serialized_as_cells :
    ofTree boardTree = .ok boardDocument ∧
    boardDocument.toApi.outcome.1 = .ok boardApi ∧ board ∈ boardApi.models ∧
    board.kind = .array boardRow ∧ boardRow.serializer? = some "serializeBoardItem" ∧
    ∃ files header, boardApi.renderFiles .builtin = .ok files ∧
      ⟨"serializers/serializeBoard.ts", header ++ "  return value.map(serializeCell);\n\x7d\n"⟩ ∈
        files := by
  have hloaded : ofTree boardTree = .ok boardDocument := by with_unfolding_all rfl
  have hmodel : board ∈ boardApi.models := by simp [boardApi]
  have hname : board.serializer? = some "serializeBoard" := by decide +kernel
  have hreturn : board.returnText = "  return value.map(serializeCell);\n" := by decide +kernel
  obtain ⟨header, htext⟩ : ∃ header, board.serializerText "serializeBoard" =
      header ++ "  return value.map(serializeCell);\n\x7d\n" := by
    refine ⟨String.join ["import type \x7b ", board.typeName, " \x7d from \"../domain\";\n",
      String.join (board.serializerImports.map ModelView.serializerImportText),
      "\nexport function ", "serializeBoard", "(value: ", board.typeName, "): unknown \x7b\n"], ?_⟩
    have hend : "  return value.map(serializeCell);\n\x7d\n" =
        "  return value.map(serializeCell);\n" ++ "\x7d\n" := rfl
    rw [Model.serializerText, hreturn, hend]
    simp [String.append_assoc, -String.reduceAppend]
  obtain ⟨files, hfiles⟩ := boardApi.exists_renderFiles
  refine ⟨hloaded, outcome_boardDocument, hmodel, rfl, by decide +kernel, files, header, hfiles, ?_⟩
  rw [← htext]
  exact Api.serializer_mem hfiles hmodel hname

end OpenApiClient
