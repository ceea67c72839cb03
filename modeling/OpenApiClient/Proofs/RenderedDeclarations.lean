import OpenApiClient.Client.Files
import OpenApiClient.Proofs.CommentBlocks
import OpenApiClient.Proofs.RenderedNodes

/-!
# What the template of declarations prints

The built-in template of declarations prints the text `ModelView.declarationText`: the imports of a
model, its description as a comment, and an interface or a type alias.  Comments are printed in the
same way by all templates (`commentText`).
-/

namespace OpenApiClient

/-- A line of a comment. -/
def commentLineText (indent line : String) : String :=
  String.join [indent ++ " * ", String.ofList (Template.escapeCommentEnds line.toList), "\n"]

/-- The comment with the lines of a description; none if there are no lines. -/
def commentText (indent : String) (lines : List String) : String :=
  if lines.isEmpty then ""
  else String.join [indent ++ "/**\n", String.join (lines.map (commentLineText indent)),
    indent ++ " */\n"]

def importText (name : String) : String :=
  String.join ["import type \x7b ", name, " \x7d from \"./", name, "\";\n"]

namespace PropertyView

def fieldText (property : PropertyView) : String :=
  String.join ["  ", property.key, if property.isRequired then "" else "?", ": ",
    property.typeName, ";\n"]

def declaredText (property : PropertyView) : String :=
  commentText "  " property.descriptionLines ++ property.fieldText

end PropertyView

namespace ModelView

def interfaceText (view : ModelView) : String :=
  String.join ["export interface ", view.name, " \x7b\n",
    String.join (view.properties.map PropertyView.declaredText), "\x7d\n"]

def aliasText (view : ModelView) : String :=
  String.join ["export type ", view.name, " = ", view.typeName, ";\n"]

def declarationText (view : ModelView) : String :=
  String.join [String.join (view.imports.map importText), if view.imports.isEmpty then "" else "\n",
    commentText "" view.descriptionLines,
    if view.isObject then view.interfaceText else view.aliasText]

end ModelView

namespace Template

variable {call : Caller} {scope : Scope}

/-! ## Comments -/

section Comments

variable {lines : Expr} {texts : List String}

theorem prints_commentLines (indent : String)
    (h : lines.eval call scope = .ok (.data (.ofStrings texts))) :
    Prints call scope (commentLines indent lines)
      (String.join (texts.map (commentLineText indent))) := by
  apply prints_loop_map h
  intro line _ state
  have hline : (Expr.named "line").eval call
      (("line", .data (.string line)) :: ("loop", .data state) :: scope) =
        .ok (.data (.string line)) := eval_named rfl
  exact printsAll_of_forall₂ (.cons (prints_text _) (.cons (prints_escaped hline)
    (.cons (prints_text _) .nil)))

theorem prints_comment (indent : String)
    (h : lines.eval call scope = .ok (.data (.ofStrings texts))) :
    Prints call scope (comment indent lines) (commentText indent texts) := by
  have hlines := prints_commentLines indent h
  unfold commentText
  cases texts with
  | nil => exact prints_else h rfl printsAll_nil
  | cons text texts =>
      exact prints_then h rfl (printsAll_of_forall₂ (.cons (prints_text _) (.cons hlines
        (.cons (prints_text _) .nil))))

end Comments

/-- A text is a comment on lines of its own, or nothing. -/
def IsComment (text : String) : Prop :=
  text = "" ∨ ∃ indent inner, text = String.join [indent, "/*", inner, "*/\n"] ∧
    (∀ c ∈ indent.toList, c = ' ') ∧ EndsNoComment (inner.toList ++ ['*'])

/-- With one text on each line, the lines are those of a description. -/
theorem map_rowText (indent : String) (lines : List String) :
    (lines.map fun line => [line]).map (CommentBlock.rowText indent) =
      lines.map (commentLineText indent) := by
  rw [List.map_map]
  refine List.map_congr_left fun line _ => ?_
  have hstar : " * " = " *" ++ " " := rfl
  simp [CommentBlock.rowText, commentLineText, hstar, String.append_assoc, -String.reduceAppend]

theorem commentText_eq_text {indent : String} (h : ∀ c ∈ indent.toList, c = ' ')
    {lines : List String} (hlines : lines ≠ []) :
    commentText indent lines = CommentBlock.text ⟨indent, lines.map fun line => [line], h⟩ := by
  rw [commentText, if_neg (by simpa using hlines), CommentBlock.text, map_rowText]
  simp [String.append_assoc]

theorem isComment_commentText {indent : String} (h : ∀ c ∈ indent.toList, c = ' ')
    (lines : List String) : IsComment (commentText indent lines) := by
  by_cases hlines : lines = []
  · exact Or.inl (by rw [hlines]; rfl)
  · obtain ⟨inner, hinner, hends⟩ :=
      CommentBlock.exists_text_eq ⟨indent, lines.map fun line => [line], h⟩
    exact Or.inr ⟨indent, inner, (commentText_eq_text h hlines).trans hinner, h, hends⟩

/-! ## Declarations -/

theorem printsAll_declaredField {property : PropertyView}
    (h : scope.value "property" = .data property.toJson) :
    PrintsAll call scope declaredField property.declaredText := by
  have hpart {name : String} {field : Json} (hfield : property.toJson.field? name = some field) :
      (Expr.part (.named "property") name).eval call scope = .ok (.data field) :=
    eval_field name (eval_named h) hfield
  have hgiven : (Expr.part (.named "property") "is_required").eval call scope =
      .ok (.ofBool property.isRequired) := hpart rfl
  have hrequired := eval_negation hgiven
  have hmark : Prints call scope
      (.choice (.negation (.part (.named "property") "is_required")) [.text "?"] [])
      (if property.isRequired then "" else "?") := by
    cases hcase : property.isRequired with
    | true =>
        rw [hcase] at hrequired
        exact prints_else hrequired rfl printsAll_nil
    | false =>
        rw [hcase] at hrequired
        exact prints_then hrequired rfl (printsAll_singleton (prints_text _))
  exact printsAll_cons (prints_comment "  " (hpart rfl)) (printsAll_of_forall₂
    (.cons (prints_text _) (.cons (prints_string (hpart rfl)) (.cons hmark (.cons (prints_text _)
    (.cons (prints_string (hpart rfl)) (.cons (prints_text _) .nil)))))))

theorem printsAll_declaration {view : ModelView} (h : Sees scope view.toJson) :
    PrintsAll call scope declaration view.declarationText := by
  have hlist : (Expr.named "imports").eval call scope =
      .ok (.data (.ofStrings view.imports)) := h.eval_named rfl
  have hobject : (Expr.named "is_object").eval call scope = .ok (.ofBool view.isObject) :=
    h.eval_named rfl
  have hname : Prints call scope (.print (.named "name")) view.name :=
    prints_string (h.eval_named rfl)
  have htype : Prints call scope (.print (.named "type")) view.typeName :=
    prints_string (h.eval_named rfl)
  have himports : Prints call scope (.loop "import" (.named "imports") [
      .text "import type \x7b ",
      .print (.named "import"),
      .text " \x7d from \"./",
      .print (.named "import"),
      .text "\";\n"] []) (String.join (view.imports.map importText)) := by
    apply prints_loop_map hlist
    intro name _ state
    have himport : Prints call (("import", .data (.string name)) :: ("loop", .data state) :: scope)
        (.print (.named "import")) name := prints_string (eval_named rfl)
    exact printsAll_of_forall₂ (.cons (prints_text _) (.cons himport (.cons (prints_text _)
      (.cons himport (.cons (prints_text _) .nil)))))
  have hgap : Prints call scope (.choice (.named "imports") [.text "\n"] [])
      (if view.imports.isEmpty then "" else "\n") := by
    cases hcase : view.imports with
    | nil => exact prints_else (hlist.trans (by rw [hcase])) rfl printsAll_nil
    | cons name names =>
        exact prints_then (hlist.trans (by rw [hcase])) rfl (printsAll_singleton (prints_text _))
  have hfields : Prints call scope (.loop "property" (.named "properties") declaredField [])
      (String.join (view.properties.map PropertyView.declaredText)) :=
    prints_loop_map (h.eval_named rfl) fun property _ state => printsAll_declaredField rfl
  have hinterface := printsAll_of_forall₂ (.cons (prints_text "export interface ") (.cons hname
    (.cons (prints_text " \x7b\n") (.cons hfields (.cons (prints_text "\x7d\n") .nil)))))
  have halias := printsAll_of_forall₂ (.cons (prints_text "export type ") (.cons hname
    (.cons (prints_text " = ") (.cons htype (.cons (prints_text ";\n") .nil)))))
  exact printsAll_of_forall₂ (.cons himports (.cons hgap
    (.cons (prints_comment "" (h.eval_named rfl))
    (.cons (prints_choice hobject hinterface halias) .nil))))

end Template
end OpenApiClient
