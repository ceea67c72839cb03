import Mathlib.Data.List.Chain
import OpenApiClient.Template.Filter

/-!
# Comments in generated code

A comment of TypeScript ends at the first asterisk with a slash after it (`Template.afterComment?`).
In what is printed in a comment a backslash stands in all such places, and nothing else is changed
(`Template.restoreCommentEnds_escapeCommentEnds`).  So a comment of any texts (`CommentBlock`) is
closed by its own end.
-/

namespace OpenApiClient

namespace Template

def EndsNoComment (text : List Char) : Prop := text.IsChain fun a b => ¬ (a = '*' ∧ b = '/')

theorem EndsNoComment.append {text rest : List Char} (h : EndsNoComment text)
    (hrest : EndsNoComment rest) (hbetween : text.getLast? ≠ some '*' ∨ rest.head? ≠ some '/') :
    EndsNoComment (text ++ rest) := by
  refine List.isChain_append.mpr ⟨h, hrest, ?_⟩
  rintro a ha b hb ⟨rfl, rfl⟩
  exact hbetween.elim (· ha) (· hb)

theorem endsNoComment_of_notMem {text : List Char} (h : '*' ∉ text) : EndsNoComment text := by
  refine List.isChain_iff_forall_rel_of_append_cons_cons.mpr ?_
  rintro a b before after rfl ⟨rfl, -⟩
  exact h (by simp)

theorem endsNoComment_iff (text : List Char) : EndsNoComment text ↔ ¬ ['*', '/'] <:+: text := by
  rw [EndsNoComment, List.isChain_iff_forall_rel_of_append_cons_cons]
  constructor
  · rintro h ⟨before, after, rfl⟩
    exact h (List.append_assoc before ['*', '/'] after) ⟨rfl, rfl⟩
  · rintro h a b before after rfl ⟨rfl, rfl⟩
    exact h ⟨before, after, by simp⟩

/-! ## Escaping -/

theorem head?_escapeCommentEnds (text : List Char) :
    (escapeCommentEnds text).head? = text.head? := by
  unfold escapeCommentEnds
  split <;> rfl

theorem endsNoComment_escapeCommentEnds (text : List Char) :
    EndsNoComment (escapeCommentEnds text) := by
  induction text using escapeCommentEnds.induct with
  | case1 rest ih =>
      have hslash : EndsNoComment ['*', '\\', '/'] := by simp [EndsNoComment]
      rw [escapeCommentEnds]
      exact hslash.append ih (Or.inl (by decide))
  | case2 c rest hend ih =>
      rw [escapeCommentEnds]
      · have hfirst : EndsNoComment [c] := List.isChain_singleton c
        refine hfirst.append ih ?_
        rw [head?_escapeCommentEnds]
        by_contra hboth
        obtain ⟨rfl, rest, rfl⟩ : c = '*' ∧ ∃ rest', rest = '/' :: rest' := by
          simpa [List.head?_eq_some_iff] using hboth
        exact hend rest rfl rfl
      · exact hend
  | case3 => exact List.isChain_nil

/-- The text without the backslash in every escaped end of a comment. -/
def restoreCommentEnds : List Char → List Char
  | '*' :: '\\' :: '/' :: rest => '*' :: '/' :: restoreCommentEnds rest
  | c :: rest => c :: restoreCommentEnds rest
  | [] => []

theorem exists_of_escapeCommentEnds_eq {text after : List Char}
    (h : escapeCommentEnds text = '\\' :: '/' :: after) : ∃ rest, text = '\\' :: '/' :: rest := by
  obtain ⟨rest, rfl⟩ := List.head?_eq_some_iff.mp ((head?_escapeCommentEnds text).symm.trans
    (congrArg List.head? h))
  have hrest : escapeCommentEnds rest = '/' :: after := by
    simpa [escapeCommentEnds] using h
  obtain ⟨rest, rfl⟩ := List.head?_eq_some_iff.mp ((head?_escapeCommentEnds rest).symm.trans
    (congrArg List.head? hrest))
  exact ⟨rest, rfl⟩

/-- Only the ends of comments are escaped. -/
theorem restoreCommentEnds_escapeCommentEnds (text : List Char) :
    restoreCommentEnds (escapeCommentEnds text) = restoreCommentEnds text := by
  induction text using escapeCommentEnds.induct with
  | case1 rest ih => simp [escapeCommentEnds, restoreCommentEnds, ih]
  | case2 c rest hend ih =>
      rw [escapeCommentEnds]
      · -- An end that is escaped already stays so, and no other is made of what comes after `c`.
        by_cases hescaped : c = '*' ∧ ∃ after, rest = '\\' :: '/' :: after
        · obtain ⟨rfl, after, rfl⟩ := hescaped
          simpa [escapeCommentEnds, restoreCommentEnds] using ih
        · rw [restoreCommentEnds, ih, restoreCommentEnds]
          · rintro after rfl rfl
            exact hescaped ⟨rfl, after, rfl⟩
          · rintro after rfl hafter
            exact hescaped ⟨rfl, exists_of_escapeCommentEnds_eq hafter⟩
      · exact hend
  | case3 => rfl

/-! ## Reading -/

/-- What follows a comment, of which the start is already read. -/
def afterComment? : List Char → Option (List Char)
  | '*' :: '/' :: rest => some rest
  | _ :: rest => afterComment? rest
  | [] => none

/-- A comment goes on to the first end of a comment. -/
theorem afterComment?_append {text : List Char} (h : EndsNoComment (text ++ ['*']))
    (rest : List Char) : afterComment? (text ++ '*' :: '/' :: rest) = some rest := by
  induction text with
  | nil => rfl
  | cons c text ih =>
      obtain ⟨hfirst, hrest⟩ := List.isChain_cons.mp h
      rw [List.cons_append, afterComment?]
      · exact ih hrest
      · rintro after rfl hafter
        refine hfirst '/' ?_ ⟨rfl, rfl⟩
        -- The character after the asterisk is the same whether or not the end has its slash.
        have hhead : (text ++ ['*']).head? = (text ++ '*' :: '/' :: rest).head? := by
          cases text <;> rfl
        exact hhead.trans (congrArg List.head? hafter)

/-- A part of a comment that keeps it open, whatever stands before the part. -/
structure KeepsOpen (text : List Char) : Prop where
  endsNoComment : EndsNoComment text
  head?_ne : text.head? ≠ some '/'

namespace KeepsOpen

theorem of_notMem {text : List Char} (h : '*' ∉ text) (hhead : text.head? ≠ some '/') :
    KeepsOpen text :=
  ⟨endsNoComment_of_notMem h, hhead⟩

theorem append {text rest : List Char} (h : KeepsOpen text) (hrest : KeepsOpen rest) :
    KeepsOpen (text ++ rest) := by
  refine ⟨h.endsNoComment.append hrest.endsNoComment (Or.inr hrest.head?_ne), ?_⟩
  cases text with
  | nil => exact hrest.head?_ne
  | cons c text => exact h.head?_ne

theorem join {texts : List String} (h : ∀ text ∈ texts, KeepsOpen text.toList) :
    KeepsOpen (String.join texts).toList := by
  induction texts with
  | nil => exact of_notMem (by simp) (by simp)
  | cons text texts ih =>
      rw [List.forall_mem_cons] at h
      rw [String.join_cons, String.toList_append]
      exact h.1.append (ih h.2)

/-- An escaped text keeps a comment open after a blank. -/
theorem escaped (text : String) :
    KeepsOpen (" " ++ String.ofList (escapeCommentEnds text.toList)).toList := by
  have hblank : EndsNoComment [' '] := List.isChain_singleton _
  have htext : (" " ++ String.ofList (escapeCommentEnds text.toList)).toList =
      [' '] ++ escapeCommentEnds text.toList := by simp
  rw [htext]
  exact ⟨hblank.append (endsNoComment_escapeCommentEnds _) (Or.inl (by decide)), by simp⟩

end KeepsOpen
end Template

/-! ## Blocks -/

structure CommentBlock where
  indent : String
  rows : List (List String)
  blank : ∀ c ∈ indent.toList, c = ' '

namespace CommentBlock

/-- An inner line of a comment: the texts are escaped, with a blank before each of them. -/
def rowText (indent : String) (texts : List String) : String :=
  String.join [indent, " *", String.join (texts.map fun text =>
    " " ++ String.ofList (Template.escapeCommentEnds text.toList)), "\n"]

def text (block : CommentBlock) : String :=
  String.join [block.indent, "/**\n", String.join (block.rows.map (rowText block.indent)),
    block.indent, " */\n"]

open Template

variable (block : CommentBlock)

theorem keepsOpen_indent : KeepsOpen block.indent.toList := by
  refine .of_notMem (fun hmem => absurd (block.blank _ hmem) (by decide)) fun hhead => ?_
  exact absurd (block.blank _ (List.mem_of_mem_head? hhead)) (by decide)

theorem keepsOpen_rowText (texts : List String) :
    KeepsOpen (rowText block.indent texts).toList := by
  have hstar : KeepsOpen " *".toList := ⟨by simp [EndsNoComment], by simp⟩
  have hend : KeepsOpen "\n".toList := .of_notMem (by simp) (by simp)
  have htexts : KeepsOpen (String.join (texts.map fun text =>
      " " ++ String.ofList (escapeCommentEnds text.toList))).toList := by
    refine .join fun text htext => ?_
    obtain ⟨text, -, rfl⟩ := List.mem_map.mp htext
    exact .escaped text
  refine .join ?_
  simp only [List.forall_mem_cons]
  exact ⟨block.keepsOpen_indent, hstar, htexts, hend, by simp⟩

/-- Nothing inside of a comment ends it. -/
theorem exists_text_eq : ∃ inner, block.text = String.join [block.indent, "/*", inner, "*/\n"] ∧
    EndsNoComment (inner.toList ++ ['*']) := by
  refine ⟨String.join ["*\n", String.join (block.rows.map (rowText block.indent)), block.indent,
    " "], ?_, ?_⟩
  · have hstart : "/**\n" = "/*" ++ "*\n" := rfl
    have hend : " */\n" = " " ++ "*/\n" := rfl
    simp [text, hstart, hend, String.append_assoc, -String.reduceAppend]
  · have hstar : EndsNoComment ['*', '\n'] := by simp [EndsNoComment]
    have hlast : KeepsOpen [' ', '*'] := ⟨by simp [EndsNoComment], by simp⟩
    have hrows : KeepsOpen (String.join (block.rows.map (rowText block.indent))).toList := by
      refine .join fun text htext => ?_
      obtain ⟨texts, -, rfl⟩ := List.mem_map.mp htext
      exact block.keepsOpen_rowText texts
    have hrest := hrows.append (block.keepsOpen_indent.append hlast)
    have hinner := hstar.append hrest.endsNoComment (Or.inl (by simp))
    simpa using hinner

end CommentBlock
end OpenApiClient
