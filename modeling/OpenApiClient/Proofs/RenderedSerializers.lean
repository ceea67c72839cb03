import OpenApiClient.Client.Files
import OpenApiClient.Proofs.RenderedNodes

/-!
# What the template of serializers prints

The built-in template of serializers prints the text `ModelView.serializerText`: the imports, and a
function that returns what is made of its argument (`ModelView.returnText`).  The fields of an
object are converted one by one (`PropertyView.converted`).
-/

namespace OpenApiClient

/-- The value of a field, which may be missing, passed to the serializer of its type or of its
elements. -/
def PropertyView.converted (property : PropertyView) (expr : String) (optional : Bool) : String :=
  match property.serializer with
  | none => expr
  | some name =>
    if name.isEmpty then expr
    else if property.isArray then
      String.join [expr, if optional then "?" else "", ".map(", name, ")"]
    else if optional then
      String.join [expr, " === undefined ? undefined : "] ++ String.join [name, "(", expr, ")"]
    else String.join [name, "(", expr, ")"]

def PropertyView.serializedText (property : PropertyView) : String :=
  String.join ["    ", property.key, ": ",
    property.converted ("value" ++ property.accessor) (!property.isRequired), ",\n"]

def TypeReference.called? (type : TypeReference) : Option String :=
  type.serializer.filter fun name => !name.isEmpty

/-- The argument that a member of an intersection contributes. -/
def TypeReference.memberText (member : TypeReference) : String :=
  match member.called? with
  | some name => String.join [", ", name, "(value)"]
  | none => ""

namespace ModelView

def mapped? (view : ModelView) : Option String :=
  if view.isArray then view.item.bind TypeReference.called? else none

/-- What a serializer returns for a value that is no object. -/
def returnedText (view : ModelView) : String :=
  match view.mapped? with
  | some name => String.join ["  return value.map(", name, ");\n"]
  | none =>
    if view.kind = "intersection" then
      String.join ["  return Object.assign(\x7b\x7d, value",
        String.join (view.members.map TypeReference.memberText), ");\n"]
    else "  return value;\n"

def returnText (view : ModelView) : String :=
  if view.isObject then
    String.join ["  return \x7b\n",
      String.join (view.properties.map PropertyView.serializedText), "  \x7d;\n"]
  else view.returnedText

def serializerImportText (name : String) : String :=
  String.join ["import \x7b ", name, " \x7d from \"./", name, "\";\n"]

def serializerText (view : ModelView) (name : String) : String :=
  String.join ["import type \x7b ", view.name, " \x7d from \"../domain\";\n",
    String.join (view.serializerImports.map serializerImportText)] ++
  String.join ["\nexport function ", name, "(value: ", view.name, "): unknown \x7b\n",
    view.returnText, "\x7d\n"]

end ModelView

namespace Template

variable {call : Caller} {scope outer : Scope} {depth : Nat}

/-! ## Fields -/

section Convert

variable {property : PropertyView} {expr name : String} {optional : Bool}

theorem printsAll_serializerCall (htarget : scope.value "target" = .data property.toJson)
    (hexpr : scope.value "expr" = .ofText expr) (hname : property.serializer = some name) :
    PrintsAll call scope serializerCall (String.join [name, "(", expr, ")"]) := by
  have hserializer : (Expr.part (.named "target") "serializer").eval call scope =
      .ok (.data (.string name)) := by
    rw [eval_field _ (eval_named htarget) rfl, hname]
    rfl
  have hprint : Prints call scope (.print (.named "expr")) expr := prints_string (eval_named hexpr)
  exact printsAll_of_forall₂ (.cons (prints_string hserializer) (.cons (prints_text _)
    (.cons hprint (.cons (prints_text _) .nil))))

theorem printsAll_serializerMapping (htarget : scope.value "target" = .data property.toJson)
    (hexpr : scope.value "expr" = .ofText expr) (hname : property.serializer = some name)
    (hoptional : scope.value "optional" = .ofBool optional) :
    PrintsAll call scope serializerMapping
      (String.join [expr, if optional then "?" else "", ".map(", name, ")"]) := by
  have hserializer : (Expr.part (.named "target") "serializer").eval call scope =
      .ok (.data (.string name)) := by
    rw [eval_field _ (eval_named htarget) rfl, hname]
    rfl
  have hprint : Prints call scope (.print (.named "expr")) expr := prints_string (eval_named hexpr)
  have hmark : Prints call scope (.choice (.named "optional") [.text "?"] [])
      (if optional then "?" else "") :=
    prints_choice (eval_named hoptional) (printsAll_singleton (prints_text _)) printsAll_nil
  exact printsAll_of_forall₂ (.cons hprint (.cons hmark (.cons (prints_text _)
    (.cons (prints_string hserializer) (.cons (prints_text _) .nil)))))

/-- The call is made for what may be missing only if it is there. -/
theorem prints_guardedCall (htarget : scope.value "target" = .data property.toJson)
    (hexpr : scope.value "expr" = .ofText expr) (hname : property.serializer = some name)
    (hoptional : scope.value "optional" = .ofBool optional) :
    Prints call scope (.choice (.named "optional")
      ([.print (.named "expr"), .text " === undefined ? undefined : "] ++ serializerCall)
      serializerCall)
      (if optional then
        String.join [expr, " === undefined ? undefined : "] ++ String.join [name, "(", expr, ")"]
      else String.join [name, "(", expr, ")"]) := by
  have hcall : PrintsAll call scope serializerCall (String.join [name, "(", expr, ")"]) :=
    printsAll_serializerCall htarget hexpr hname
  have hguard : PrintsAll call scope
      [.print (.named "expr"), .text " === undefined ? undefined : "]
      (String.join [expr, " === undefined ? undefined : "]) :=
    printsAll_of_forall₂ (.cons (prints_string (eval_named hexpr)) (.cons (prints_text _) .nil))
  exact prints_choice (eval_named hoptional) (printsAll_append hguard hcall) hcall

theorem callWithin_convert (property : PropertyView) (expr : String) (optional : Bool) :
    callWithin (depth + 1) (convert.bound outer)
      [.data property.toJson, .ofText expr, .ofBool optional] =
        .ok (.ofText (property.converted expr optional)) := by
  apply callWithin_snippet (Nat.le_refl _)
  generalize hscope : bindArgs _ _ ++ _ = scope
  have htarget : scope.value "target" = .data property.toJson := hscope ▸ rfl
  have hexpr : scope.value "expr" = .ofText expr := hscope ▸ rfl
  have hoptional : scope.value "optional" = .ofBool optional := hscope ▸ rfl
  have hprint : Prints (callWithin depth) scope (.print (.named "expr")) expr :=
    prints_string (eval_named hexpr)
  have hserializer : (Expr.negation (.part (.named "target") "serializer")).eval
      (callWithin depth) scope =
        .ok (.ofBool !(Value.data (.ofText? property.serializer)).isTrue) :=
    eval_negation (eval_field _ (eval_named htarget) rfl)
  have harray : (Expr.part (.named "target") "is_array").eval (callWithin depth) scope =
      .ok (.ofBool property.isArray) := eval_field _ (eval_named htarget) rfl
  apply printsAll_singleton
  unfold PropertyView.converted
  cases hname : property.serializer with
  | none =>
      rw [hname] at hserializer
      exact prints_then hserializer rfl (printsAll_singleton hprint)
  | some name =>
      rw [hname] at hserializer
      dsimp only
      -- An empty name is false in a condition, so it is treated like none.
      by_cases hempty : name.isEmpty = true
      · rw [if_pos hempty]
        exact prints_then hserializer (by simp [Value.isTrue, Value.ofBool, isTrueData,
          Json.ofText?, hempty]) (printsAll_singleton hprint)
      rw [if_neg hempty]
      apply prints_else hserializer (by simp [Value.isTrue, Value.ofBool, isTrueData,
        Json.ofText?, hempty])
      apply printsAll_singleton
      exact prints_choice harray (printsAll_serializerMapping htarget hexpr hname hoptional)
        (printsAll_singleton (prints_guardedCall htarget hexpr hname hoptional))

end Convert

theorem prints_serializedFields {properties : List PropertyView}
    (hconvert : ∃ outer, scope.value "convert" = convert.bound outer)
    (h : scope.value "properties" = .data (.array (properties.map PropertyView.toJson))) :
    Prints (callWithin (depth + 1)) scope serializedFields
      (String.join (properties.map PropertyView.serializedText)) := by
  refine prints_loop_map (eval_named h) fun property _ state => ?_
  generalize hinner : ("property", Value.data property.toJson) :: _ = inner
  have hproperty : (Expr.named "property").eval (callWithin (depth + 1)) inner =
      .ok (.data property.toJson) := eval_named (hinner ▸ rfl)
  obtain ⟨outer, houter⟩ := hconvert
  have hvalue : Scope.value inner "convert" = convert.bound outer := hinner ▸ houter
  have haccessor : (Expr.part (.named "property") "accessor").eval (callWithin (depth + 1)) inner =
      .ok (.ofText property.accessor) := eval_field _ hproperty rfl
  have haccess := eval_joined (eval_literal (.string "value")) haccessor
  have hrequired :
      (Expr.part (.named "property") "is_required").eval (callWithin (depth + 1)) inner =
        .ok (.ofBool property.isRequired) := eval_field _ hproperty rfl
  have heval := eval_call (eval_named hvalue)
    (.cons hproperty (.cons haccess (.cons (eval_negation hrequired) .nil)))
  have hcall : Prints (callWithin (depth + 1)) inner (.print (.call (.named "convert") [
      .named "property",
      .joined (.literal (.string "value")) (.part (.named "property") "accessor"),
      .negation (.part (.named "property") "is_required")]))
      (property.converted ("value" ++ property.accessor) (!property.isRequired)) :=
    prints_string (heval.trans (callWithin_convert property _ _))
  have hkey : Prints (callWithin (depth + 1)) inner (.print (.part (.named "property") "key"))
      property.key := prints_string (eval_field _ hproperty rfl)
  exact printsAll_of_forall₂ (.cons (prints_text _) (.cons hkey (.cons (prints_text _)
    (.cons hcall (.cons (prints_text _) .nil)))))

/-! ## Parts -/

/-- The serializer of a reference is true in a condition if it has a name. -/
theorem exists_eval_serializer {target : Expr} {type : TypeReference}
    (h : target.eval call scope = .ok (.data type.toJson)) :
    ∃ value, (Expr.part target "serializer").eval call scope = .ok value ∧
      value.isTrue = type.called?.isSome ∧
      ∀ name ∈ type.called?, value = .data (.string name) := by
  have hpart := eval_part h "serializer"
  obtain ⟨typeName, isArray, isBinary, serializer, dependsOn⟩ := type
  cases serializer with
  | none => exact ⟨_, hpart, rfl, by simp [TypeReference.called?]⟩
  | some name =>
      refine ⟨.data (.string name), hpart, ?_, ?_⟩
      · cases hempty : name.isEmpty <;>
          simp [TypeReference.called?, Value.isTrue, isTrueData, hempty]
      · intro other hother
        rw [TypeReference.called?, Option.mem_def, Option.filter_eq_some_iff] at hother
        rw [Option.some_inj.mp hother.1]

theorem prints_serializedMembers (call : Caller) {members : List TypeReference}
    (h : scope.value "members" = .data (.array (members.map TypeReference.toJson))) :
    Prints call scope serializedMembers (String.join (members.map TypeReference.memberText)) := by
  refine prints_loop_map (eval_named h) fun member _ state => ?_
  have hmember : (Expr.named "member").eval call
      (("member", .data member.toJson) :: ("loop", .data state) :: scope) =
        .ok (.data member.toJson) := eval_named rfl
  obtain ⟨value, hvalue, htrue, hname⟩ := exists_eval_serializer hmember
  apply printsAll_singleton
  unfold TypeReference.memberText
  cases hcalled : member.called? with
  | none => exact prints_else hvalue (by rw [htrue, hcalled]; rfl) printsAll_nil
  | some name =>
      obtain rfl := hname name hcalled
      exact prints_then hvalue (by rw [htrue, hcalled]; rfl) (printsAll_of_forall₂
        (.cons (prints_text _) (.cons (prints_string hvalue) (.cons (prints_text _) .nil))))

/-- The test for a list whose elements are serialized. -/
theorem exists_eval_mapped (call : Caller) {view : ModelView}
    (harray : scope.value "is_array" = .ofBool view.isArray)
    (hitem : scope.value "item" = .data ((view.item.map TypeReference.toJson).getD .null)) :
    ∃ value, (Expr.both (.both (.named "is_array") (.named "item"))
        (.part (.named "item") "serializer")).eval call scope = .ok value ∧
      value.isTrue = view.mapped?.isSome ∧
      ∀ name ∈ view.mapped?, Prints call scope (.print (.part (.named "item") "serializer"))
        name := by
  have hgiven : (Expr.named "item").eval call scope =
      .ok (.data ((view.item.map TypeReference.toJson).getD .null)) := eval_named hitem
  have hlist := eval_both (eval_named harray) hgiven
  unfold ModelView.mapped?
  cases hcase : view.item with
  | none =>
      rw [hcase] at hlist hgiven
      refine ⟨_, eval_both hlist (eval_part hgiven _), ?_, by simp⟩
      cases view.isArray <;> rfl
  | some type =>
      rw [hcase] at hlist hgiven
      obtain ⟨value, hvalue, htrue, hname⟩ := exists_eval_serializer hgiven
      refine ⟨_, eval_both hlist hvalue, ?_⟩
      cases view.isArray with
      | false => exact ⟨rfl, by simp⟩
      | true =>
          refine ⟨htrue, fun name hcalled => prints_string ?_⟩
          rw [hvalue, hname name hcalled]

theorem prints_serializedValue (depth : Nat) (view : ModelView)
    (h : ∀ name field, name ≠ "convert" → view.toJson.field? name = some field →
      scope.value name = .data field)
    (hconvert : ∃ outer, scope.value "convert" = convert.bound outer) :
    Prints (callWithin (depth + 1)) scope serializedValue view.returnText := by
  have hobject : (Expr.named "is_object").eval (callWithin (depth + 1)) scope =
      .ok (.ofBool view.isObject) := eval_named (h _ _ (by decide) rfl)
  have hword : (Expr.named "kind").eval (callWithin (depth + 1)) scope =
      .ok (.data (.string view.kind)) := eval_named (h _ _ (by decide) rfl)
  have hkind := eval_equal_literal "intersection" hword
  have hmembers := prints_serializedMembers (callWithin (depth + 1))
    (h "members" _ (by decide) rfl)
  obtain ⟨value, hvalue, htrue, hname⟩ := exists_eval_mapped (callWithin (depth + 1))
    (h "is_array" _ (by decide) rfl) (h "item" _ (by decide) rfl)
  have hassigned := prints_choice hkind
    (printsAll_of_forall₂ (.cons (prints_text "  return Object.assign(\x7b\x7d, value")
      (.cons hmembers (.cons (prints_text ");\n") .nil))))
    (printsAll_singleton (prints_text "  return value;\n"))
  simp only [beq_iff_eq] at hassigned
  unfold ModelView.returnText
  refine prints_choice hobject (printsAll_of_forall₂ (.cons (prints_text _)
    (.cons (prints_serializedFields hconvert (h _ _ (by decide) rfl))
    (.cons (prints_text _) .nil)))) (printsAll_singleton ?_)
  unfold ModelView.returnedText
  cases hmapped : view.mapped? with
  | some name =>
      rw [hmapped] at htrue
      exact prints_then hvalue htrue (printsAll_of_forall₂ (.cons (prints_text _)
        (.cons (hname name hmapped) (.cons (prints_text _) .nil))))
  | none =>
      rw [hmapped] at htrue
      exact prints_else hvalue htrue (printsAll_singleton hassigned)

/-- The template of serializers prints the serializer of a model that has one. -/
theorem exists_renderNodes_serializer (depth : Nat) {view : ModelView} {name : String}
    (h : Sees scope view.toJson) (hname : view.serializerName = some name) :
    ∃ last, renderNodes (callWithin (depth + 1)) scope serializer =
      .ok (view.serializerText name, last) := by
  have himports : Prints (callWithin (depth + 1)) scope (.loop "serializer"
      (.named "serializer_imports") [
        .text "import \x7b ",
        .print (.named "serializer"),
        .text " \x7d from \"./",
        .print (.named "serializer"),
        .text "\";\n"] [])
      (String.join (view.serializerImports.map ModelView.serializerImportText)) := by
    refine prints_loop_map (h.eval_named rfl) fun other _ state => ?_
    have himport : Prints (callWithin (depth + 1))
        (("serializer", .data (.string other)) :: ("loop", .data state) :: scope)
        (.print (.named "serializer")) other := prints_string (eval_named rfl)
    exact printsAll_of_forall₂ (.cons (prints_text _) (.cons himport (.cons (prints_text _)
      (.cons himport (.cons (prints_text _) .nil)))))
  generalize hinner : ("convert", convert.bound scope) :: scope = inner
  have hvalue (other : String) (field : Json) (hother : other ≠ "convert")
      (hfield : view.toJson.field? other = some field) : Scope.value inner other = .data field := by
    rw [← hinner, Scope.value_cons, if_neg hother, h, hfield]
    rfl
  have htype : Prints (callWithin (depth + 1)) inner (.print (.named "name")) view.name :=
    prints_string (eval_named (hvalue _ _ (by decide) rfl))
  have hserializer : Prints (callWithin (depth + 1)) inner (.print (.named "serializer_name"))
      name := by
    apply prints_string
    rw [eval_named (hvalue "serializer_name" _ (by decide) rfl), hname]
    rfl
  have hreturned := prints_serializedValue depth view hvalue ⟨scope, hinner ▸ rfl⟩
  -- The fifth node is the snippet, and only the nodes after it see its name.
  have hheader : PrintsAll (callWithin (depth + 1)) scope (serializer.take 4) _ :=
    printsAll_of_forall₂ (.cons (prints_text _) (.cons (prints_string (h.eval_named rfl))
      (.cons (prints_text _) (.cons himports .nil))))
  have hsnippet : renderNodes (callWithin (depth + 1)) scope [convert] = .ok ("", inner) :=
    hinner ▸ rfl
  have hafter : PrintsAll (callWithin (depth + 1)) inner (serializer.drop 5) _ :=
    printsAll_of_forall₂ (.cons (prints_text _) (.cons hserializer (.cons (prints_text _)
      (.cons htype (.cons (prints_text _) (.cons hreturned (.cons (prints_text _) .nil)))))))
  refine ⟨inner, ?_⟩
  have hall := renderNodes_append hheader (renderNodes_append hsnippet hafter)
  rw [String.empty_append] at hall
  exact hall

end Template
end OpenApiClient
