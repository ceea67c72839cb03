import OpenApiClient.Proofs.Identifiers
import OpenApiClient.Proofs.Parameters
import OpenApiClient.View.Method

/-!
# Expressions in a requested path

A template literal has an expression between every dollar sign with an opening brace and the closing
brace that comes next (`interpolations`).  In the text for a requested path these are the variables
of the path and nothing else (`interpolations_path`): the literal text between variables has an
opening brace only if no brace is closed any more, and the name of an argument never has a brace.
-/

namespace OpenApiClient

open Text

/-- The expressions in what is left of a template literal.  `read` is the reversed beginning of an
expression that is not closed yet. -/
def interpolationsAfter : Option (List Char) → List Char → List String
  | _, [] => []
  | none, '$' :: '\x7b' :: rest => interpolationsAfter (some []) rest
  | none, _ :: rest => interpolationsAfter none rest
  | some read, c :: rest =>
    if c = '\x7d' then String.ofList read.reverse :: interpolationsAfter none rest
    else interpolationsAfter (some (c :: read)) rest

def interpolations (text : String) : List String := interpolationsAfter none text.toList

section

variable {read : Option (List Char)} {text literal rest : List Char}

theorem interpolationsAfter_eq_nil (h : '\x7d' ∉ text) : interpolationsAfter read text = [] := by
  induction read, text using interpolationsAfter.induct with
  | case1 read => simp [interpolationsAfter]
  | case2 rest ih =>
      rw [interpolationsAfter]
      exact ih fun hmem => h (by simp [hmem])
  | case3 c rest hdollar ih =>
      rw [interpolationsAfter]
      · exact ih fun hmem => h (List.mem_cons_of_mem _ hmem)
      · exact hdollar
  | case4 read rest ih => simp at h
  | case5 read c rest hopen ih =>
      rw [interpolationsAfter, if_neg hopen]
      exact ih fun hmem => h (List.mem_cons_of_mem _ hmem)

theorem interpolationsAfter_cons {c : Char} (h : c = '$' → rest.head? ≠ some '\x7b') :
    interpolationsAfter none (c :: rest) = interpolationsAfter none rest := by
  rw [interpolationsAfter]
  rintro rest' rfl rfl
  exact h rfl rfl

theorem interpolationsAfter_expression {expression read : List Char} (h : '\x7d' ∉ expression) :
    interpolationsAfter (some read) (expression ++ '\x7d' :: rest) =
      String.ofList (read.reverse ++ expression) :: interpolationsAfter none rest := by
  induction expression generalizing read with
  | nil => rw [List.nil_append, interpolationsAfter, if_pos rfl, List.append_nil]
  | cons c expression ih =>
      obtain ⟨hne, hrest⟩ := List.ne_and_not_mem_of_not_mem_cons h
      rw [List.cons_append, interpolationsAfter, if_neg (Ne.symm hne), ih hrest,
        List.reverse_cons, List.append_assoc, List.singleton_append]

theorem interpolationsAfter_literal (h : '\x7b' ∉ literal) (hrest : rest.head? ≠ some '\x7b') :
    interpolationsAfter none (literal ++ rest) = interpolationsAfter none rest := by
  induction literal with
  | nil => rfl
  | cons c literal ih =>
      obtain ⟨-, hliteral⟩ := List.ne_and_not_mem_of_not_mem_cons h
      rw [List.cons_append, interpolationsAfter_cons, ih hliteral]
      intro _ hhead
      cases literal with
      | nil => exact hrest hhead
      | cons d literal => simp_all

theorem interpolationsAfter_unclosed (h : '\x7b' ∉ literal) (htext : '\x7d' ∉ text) :
    interpolationsAfter none (literal ++ text) = [] := by
  induction literal with
  | nil => exact interpolationsAfter_eq_nil htext
  | cons c literal ih =>
      obtain ⟨-, hliteral⟩ := List.ne_and_not_mem_of_not_mem_cons h
      by_cases hopens : c = '$' ∧ (literal ++ text).head? = some '\x7b'
      · obtain ⟨rfl, hhead⟩ := hopens
        cases literal with
        | nil =>
            obtain ⟨text, rfl⟩ := List.head?_eq_some_iff.mp hhead
            rw [List.singleton_append, interpolationsAfter]
            exact interpolationsAfter_eq_nil fun hmem => htext (List.mem_cons_of_mem _ hmem)
        | cons d literal =>
            obtain rfl : d = '\x7b' := Option.some.inj hhead
            exact absurd List.mem_cons_self hliteral
      · rw [List.cons_append, interpolationsAfter_cons fun hc hhead => hopens ⟨hc, hhead⟩]
        exact ih hliteral

end

def IsBrace (c : Char) : Prop := c = '\x7b' ∨ c = '\x7d'

section Braces

variable {brace c : Char}

theorem isAlphabetic_brace (hbrace : IsBrace brace) : isAlphabetic brace = false := by
  rcases hbrace with rfl | rfl <;> decide

theorem brace_notMem_upperChar (hbrace : IsBrace brace) (h : c ≠ brace) :
    brace ∉ upperChar c := by
  have hexpansions : toUpperExpansions.all fun expansion =>
      !(expansion.2.map Char.ofNat).contains brace := by
    rcases hbrace with rfl | rfl <;> decide +kernel
  unfold upperChar
  cases himage : CaseRun.image? toUpperRuns c.toNat with
  | some code =>
      have hletter := isAlphabetic_ofNat
        (CaseRun.letters_of_image? keepsLetters_toUpperRuns himage).2
      intro hmem
      rw [← List.mem_singleton.mp hmem, isAlphabetic_brace hbrace] at hletter
      cases hletter
  | none =>
      simp only
      split_ifs
      · exact fun hmem => h (List.mem_singleton.mp hmem).symm
      · cases hlookup : toUpperExpansions.lookup c.toNat with
        | none => exact fun hmem => h (List.mem_singleton.mp hmem).symm
        | some codes =>
            obtain ⟨before, after, heq, -⟩ := List.lookup_eq_some_iff.mp hlookup
            have hcodes := List.all_eq_true.mp hexpansions (c.toNat, codes) (by simp [heq])
            simpa using hcodes

theorem brace_notMem_lowerChar (hbrace : IsBrace brace) (h : c ≠ brace) :
    brace ∉ lowerChar c := by
  rcases lowerChar_cases c with hself | ⟨-, ⟨d, hlower, hletter⟩ | rfl⟩
  · rw [hself]
    exact fun hmem => h (List.mem_singleton.mp hmem).symm
  · rw [hlower]
    intro hmem
    rw [← List.mem_singleton.mp hmem, isAlphabetic_brace hbrace] at hletter
    cases hletter
  · rcases hbrace with rfl | rfl <;> decide

theorem ne_brace_of_isWordChar (hbrace : IsBrace brace) (h : Name.isWordChar c = true) :
    c ≠ brace := by
  rintro rfl
  rcases hbrace with rfl | rfl <;> exact absurd h (by decide)

theorem brace_notMem_pascalOf (hbrace : IsBrace brace) (text : String) :
    brace ∉ (Name.pascalOf text).toList := by
  have hwords : brace ∉ (runsOf Name.isWordChar text.toList).flatMap Name.capitalizeWord := by
    intro hmem
    obtain ⟨word, hword, hmem⟩ := List.mem_flatMap.mp hmem
    have hchars : ∀ c ∈ word, c ≠ brace :=
      fun c hc => ne_brace_of_isWordChar hbrace (of_mem_runsOf hword hc)
    cases word with
    | nil => cases hmem
    | cons c rest =>
        rcases List.mem_append.mp hmem with hupper | hrest
        · exact brace_notMem_upperChar hbrace (hchars c List.mem_cons_self) hupper
        · exact hchars _ (List.mem_cons_of_mem _ hrest) rfl
  unfold Name.pascalOf
  split
  · rcases hbrace with rfl | rfl <;> decide
  · rwa [String.toList_ofList]

theorem brace_notMem_uncapitalize (hbrace : IsBrace brace) {text : String}
    (h : brace ∉ text.toList) : brace ∉ (uncapitalize text).toList := by
  unfold uncapitalize
  cases hchars : text.toList with
  | nil => simp
  | cons c rest =>
      rw [hchars] at h
      obtain ⟨hne, hrest⟩ := List.ne_and_not_mem_of_not_mem_cons h
      rw [String.toList_ofList, List.mem_append, not_or]
      exact ⟨brace_notMem_lowerChar hbrace hne.symm, hrest⟩

/-- The name of an argument has no brace. -/
theorem brace_notMem_argumentName (hbrace : IsBrace brace) (name : String) :
    brace ∉ (argumentName name).toList := by
  unfold argumentName
  split
  next h =>
      intro hmem
      have hword := List.all_eq_true.mp (isIdentifier_iff.mp h).2
      exact ne_brace_of_isWordChar hbrace (hword _ hmem) rfl
  next => exact brace_notMem_uncapitalize hbrace (brace_notMem_pascalOf hbrace name)

/-- The expression for a variable. -/
def variableExpression (argument : String) : String :=
  "encodeURIComponent(String(" ++ argument ++ "))"

theorem brace_notMem_variableExpression (hbrace : IsBrace brace) (name : String) :
    brace ∉ (variableExpression (argumentName name)).toList := by
  have hopening : brace ∉ "encodeURIComponent(String(".toList := by
    rcases hbrace with rfl | rfl <;> simp
  have hclosing : brace ∉ "))".toList := by
    rcases hbrace with rfl | rfl <;> simp
  unfold variableExpression
  rw [String.toList_append, String.toList_append, List.mem_append, List.mem_append, not_or, not_or]
  exact ⟨⟨hopening, brace_notMem_argumentName hbrace name⟩, hclosing⟩

end Braces

theorem toList_text_placeholder (name : String) :
    (PathSegment.placeholder name).view.text.toList =
      '$' :: '\x7b' :: ((variableExpression (argumentName name)).toList ++ ['\x7d']) := by
  have htext : (PathSegment.placeholder name).view.text =
      "$\x7bencodeURIComponent(String(" ++ argumentName name ++ "))\x7d" := rfl
  have hopening : "$\x7bencodeURIComponent(String(".toList =
      '$' :: '\x7b' :: "encodeURIComponent(String(".toList := rfl
  have hclosing : "))\x7d".toList = "))".toList ++ ['\x7d'] := rfl
  rw [htext]
  unfold variableExpression
  rw [String.toList_append, String.toList_append, String.toList_append, String.toList_append,
    hopening, hclosing, List.cons_append, List.cons_append, List.cons_append, List.cons_append,
    List.append_assoc, List.append_assoc, List.append_assoc]

theorem interpolationsAfter_placeholder (name : String) (rest : List Char) :
    interpolationsAfter none ((PathSegment.placeholder name).view.text.toList ++ rest) =
      variableExpression (argumentName name) :: interpolationsAfter none rest := by
  rw [toList_text_placeholder, List.cons_append, List.cons_append, List.append_assoc,
    interpolationsAfter, List.singleton_append,
    interpolationsAfter_expression (brace_notMem_variableExpression (Or.inr rfl) name),
    List.reverse_nil,
    List.nil_append, String.ofList_toList]

theorem toList_text_ofLiteral (read : List Char) :
    ((PathSegment.ofLiteral read).flatMap fun segment => segment.view.text.toList) =
      read.reverse := by
  unfold PathSegment.ofLiteral
  cases read with
  | nil => rfl
  | cons c read => simp [PathSegment.view, PathPiece.text]

theorem variables_ofLiteral (read : List Char) :
    (PathSegment.ofLiteral read).filterMap PathSegment.variable? = [] := by
  cases read <;> rfl

/-- Of the pieces of a path only the variables are expressions.  A brace that is open in `read` and
not yet closed in `name` becomes literal text. -/
theorem interpolationsAfter_segmentsAfter {read rest : List Char} {name : Option (List Char)}
    (hread : '\x7b' ∉ read) (hname : ∀ name' ∈ name, '\x7d' ∉ name') :
    interpolationsAfter none ((segmentsAfter read name rest).flatMap
      fun segment => segment.view.text.toList) =
      ((segmentsAfter read name rest).filterMap PathSegment.variable?).map
        fun name => variableExpression (argumentName name) := by
  induction read, name, rest using segmentsAfter.induct with
  | case1 read =>
      rw [segmentsAfter, toList_text_ofLiteral, variables_ofLiteral, List.map_nil,
        ← List.append_nil read.reverse]
      exact interpolationsAfter_unclosed (by simpa using hread) (by simp)
  | case2 read name =>
      have hclosed := hname name rfl
      rw [segmentsAfter, toList_text_ofLiteral, variables_ofLiteral, List.map_nil,
        List.reverse_append, List.reverse_cons, List.append_assoc, List.singleton_append]
      exact interpolationsAfter_unclosed (by simpa using hread) (by simpa using hclosed)
  | case3 read rest ih =>
      rw [segmentsAfter, if_pos rfl]
      exact ih hread (by simp)
  | case4 read c rest hc ih =>
      rw [segmentsAfter, if_neg hc]
      exact ih (List.not_mem_cons_of_ne_of_not_mem (Ne.symm hc) hread) hname
  | case5 read rest name ih =>
      have hhead : ∀ text : List Char,
          ((PathSegment.placeholder (String.ofList name.reverse)).view.text.toList ++ text).head? ≠
            some '\x7b' := by
        intro text
        rw [toList_text_placeholder]
        simp
      rw [segmentsAfter, if_pos rfl, List.flatMap_append, List.flatMap_cons, List.filterMap_append,
        variables_ofLiteral, toList_text_ofLiteral,
        interpolationsAfter_literal (by simpa using hread) (hhead _),
        interpolationsAfter_placeholder, ih (by simp) (by simp)]
      rfl
  | case6 read c rest name hc ih =>
      rw [segmentsAfter, if_neg hc]
      refine ih hread fun name' hname' => ?_
      obtain rfl := Option.some.inj hname'
      exact List.not_mem_cons_of_ne_of_not_mem (Ne.symm hc) (hname name rfl)

theorem map_variableExpression (segments : List PathSegment) :
    (((segments.map PathSegment.view).filter PathPiece.isVariable).map
      fun piece => variableExpression piece.value) =
      (segments.filterMap PathSegment.variable?).map
        fun name => variableExpression (argumentName name) := by
  induction segments with
  | nil => rfl
  | cons segment segments ih =>
      cases segment with
      | literal text => exact ih
      | placeholder name => exact congrArg (variableExpression (argumentName name) :: ·) ih

/-- The expressions in the text for a path are its variables, in order. -/
theorem interpolations_path (path : String) :
    interpolations (String.join (((splitPath path).map PathSegment.view).map PathPiece.text)) =
      (((splitPath path).map PathSegment.view).filter PathPiece.isVariable).map
        fun piece => variableExpression piece.value := by
  obtain ⟨rest, hrest⟩ : ∃ rest, splitPath path = segmentsAfter [] none rest := by
    unfold splitPath
    split
    · exact ⟨_, rfl⟩
    · exact ⟨_, rfl⟩
  have hnone : ∀ name ∈ (none : Option (List Char)), '\x7d' ∉ name := by simp
  rw [map_variableExpression, hrest, ← interpolationsAfter_segmentsAfter List.not_mem_nil hnone,
    interpolations, String.toList_join, List.map_map, List.flatMap_map]
  rfl

end OpenApiClient
