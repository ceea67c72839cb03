import Mathlib.Data.List.TakeWhile
import OpenApiClient.Proofs.LiteralTexts

/-!
# Paths and their pieces

Cutting a path into pieces and writing pieces one after the other undo each other
(`splitPath_inverse`).  The pieces that a path can be cut into are the canonical ones
(`PathSegment.IsCanonical`): literal text is as long as it can be, and only the piece at the end has
a brace in its text, one that is never closed.
-/

namespace OpenApiClient

namespace PathSegment

/-- How a piece is written in a path.  A variable stands between braces. -/
def written : PathSegment → String
  | literal text => text
  | placeholder name => "\x7b" ++ name ++ "\x7d"

/-- The pieces of a path.  An opening brace in literal text before another piece would begin a
variable, so there is none; at the end there may be one that no brace closes. -/
structure IsCanonical (segments : List PathSegment) : Prop where
  filled : .literal "" ∉ segments
  apart : NoAdjacentLiterals segments
  closed : ∀ name, .placeholder name ∈ segments → '\x7d' ∉ name.toList
  unopened : ∀ text, .literal text ∈ segments.dropLast → '\x7b' ∉ text.toList
  unclosed : ∀ text, segments.getLast? = some (.literal text) →
    '\x7d' ∉ text.toList.dropWhile (· != '\x7b')

end PathSegment

def writtenPath (segments : List PathSegment) : String :=
  String.join (segments.map PathSegment.written)

def withoutSlash (path : String) : String :=
  match path.toList with
  | '/' :: rest => String.ofList rest
  | _ => path

theorem toList_writtenPath (segments : List PathSegment) :
    (writtenPath segments).toList = segments.flatMap fun segment => segment.written.toList := by
  rw [writtenPath, String.toList_join, List.flatMap_map]

theorem splitPath_eq (path : String) :
    splitPath path = segmentsAfter [] none (withoutSlash path).toList := by
  by_cases h : ∃ rest, path.toList = '/' :: rest
  · obtain ⟨rest, hpath⟩ := h
    have hsplit : splitPath path = segmentsAfter [] none rest := by
      simp only [splitPath, hpath]
    have hwithout : withoutSlash path = String.ofList rest := by
      simp only [withoutSlash, hpath]
    rw [hsplit, hwithout, String.toList_ofList]
  · have hsplit : splitPath path = segmentsAfter [] none path.toList := by
      unfold splitPath
      split
      next rest hpath => exact absurd ⟨rest, hpath⟩ h
      next => rfl
    have hwithout : withoutSlash path = path := by
      unfold withoutSlash
      split
      next rest hpath => exact absurd ⟨rest, hpath⟩ h
      next => rfl
    rw [hsplit, hwithout]

theorem withoutSlash_append (rest : String) : withoutSlash ("/" ++ rest) = rest := by
  have hchars : ("/" ++ rest).toList = '/' :: rest.toList := by simp
  unfold withoutSlash
  rw [hchars]
  exact String.ofList_toList

namespace PathSegment

/-! ## Canonical pieces -/

section Canonical

variable {segment : PathSegment} {segments : List PathSegment} {name text : String}

theorem isCanonical_nil : IsCanonical [] where
  filled := List.not_mem_nil
  apart := List.isChain_nil
  closed := by simp
  unopened := by simp
  unclosed := by simp

theorem isCanonical_literal : IsCanonical [.literal text] ↔
    text ≠ "" ∧ '\x7d' ∉ text.toList.dropWhile (· != '\x7b') := by
  constructor
  · intro h
    exact ⟨fun hempty => h.filled (by simp [hempty]), h.unclosed text rfl⟩
  · rintro ⟨hfilled, hunclosed⟩
    refine ⟨by simpa using hfilled.symm, List.isChain_singleton _, by simp, by simp, ?_⟩
    intro text' htext
    obtain rfl := PathSegment.literal.inj (Option.some.inj htext)
    exact hunclosed

theorem isCanonical_placeholder_cons : IsCanonical (.placeholder name :: segments) ↔
    '\x7d' ∉ name.toList ∧ IsCanonical segments := by
  constructor
  · intro h
    refine ⟨h.closed name List.mem_cons_self, ?_, ?_, ?_, ?_, ?_⟩
    · exact fun hmem => h.filled (List.mem_cons_of_mem _ hmem)
    · exact (List.isChain_cons.mp h.apart).2
    · exact fun name hname => h.closed name (List.mem_cons_of_mem _ hname)
    · intro text htext
      cases segments with
      | nil => cases htext
      | cons first rest => exact h.unopened text (List.mem_cons_of_mem _ htext)
    · intro text htext
      cases segments with
      | nil => cases htext
      | cons first rest => exact h.unclosed text (by rw [List.getLast?_cons_cons, htext])
  · rintro ⟨hname, h⟩
    refine ⟨?_, ?_, ?_, ?_, ?_⟩
    · simpa using h.filled
    · exact List.isChain_cons.mpr ⟨fun _ _ => Or.inl rfl, h.apart⟩
    · intro name' hname'
      rcases List.mem_cons.mp hname' with hfirst | hrest
      · obtain rfl := PathSegment.placeholder.inj hfirst
        exact hname
      · exact h.closed name' hrest
    · intro text htext
      cases segments with
      | nil => cases htext
      | cons first rest =>
          rcases List.mem_cons.mp htext with hfirst | hrest
          · cases hfirst
          · exact h.unopened text hrest
    · intro text htext
      cases segments with
      | nil => cases htext
      | cons first rest => exact h.unclosed text (by rwa [List.getLast?_cons_cons] at htext)

/-- Literal text that is not at the end is followed by a variable. -/
theorem isCanonical_literal_cons (hne : segments ≠ []) :
    IsCanonical (.literal text :: segments) ↔ text ≠ "" ∧ '\x7b' ∉ text.toList ∧
      (∃ name rest, segments = .placeholder name :: rest) ∧ IsCanonical segments := by
  obtain ⟨next, rest, rfl⟩ := List.exists_cons_of_ne_nil hne
  constructor
  · intro h
    refine ⟨?_, h.unopened text (by simp), ?_, ?_, ?_, ?_, ?_, ?_⟩
    · exact fun hempty => h.filled (by simp [hempty])
    · cases next with
      | literal second => simpa [isVariable] using (List.isChain_cons.mp h.apart).1 _ rfl
      | placeholder name => exact ⟨name, rest, rfl⟩
    · exact fun hmem => h.filled (List.mem_cons_of_mem _ hmem)
    · exact (List.isChain_cons.mp h.apart).2
    · exact fun name hname => h.closed name (List.mem_cons_of_mem _ hname)
    · exact fun text htext => h.unopened text (List.mem_cons_of_mem _ htext)
    · exact fun text htext => h.unclosed text (by rw [List.getLast?_cons_cons, htext])
  · rintro ⟨hfilled, htext, ⟨name, rest, hsegments⟩, h⟩
    obtain ⟨rfl, rfl⟩ := List.cons.inj hsegments
    refine ⟨?_, ?_, ?_, ?_, ?_⟩
    · simpa [hfilled.symm] using h.filled
    · refine List.isChain_cons.mpr ⟨fun second hsecond => ?_, h.apart⟩
      obtain rfl := Option.some.inj hsecond
      exact Or.inr rfl
    · intro name' hname'
      exact h.closed name' (by simpa using hname')
    · intro text' htext'
      rcases List.mem_cons.mp htext' with hfirst | hrest
      · obtain rfl := PathSegment.literal.inj hfirst
        exact htext
      · exact h.unopened text' hrest
    · exact fun text' htext' => h.unclosed text' (by rwa [List.getLast?_cons_cons] at htext')

end Canonical

theorem written_ofLiteral (read : List Char) :
    ((ofLiteral read).flatMap fun segment => segment.written.toList) = read.reverse := by
  unfold ofLiteral
  cases read with
  | nil => rfl
  | cons c read => simp [written]

theorem toList_written_placeholder (name : String) :
    (placeholder name).written.toList = '\x7b' :: (name.toList ++ ['\x7d']) := by
  simp [written]

end PathSegment

open PathSegment

/-! ## Writing what was cut -/

theorem written_segmentsAfter (read : List Char) (name : Option (List Char)) (rest : List Char) :
    ((segmentsAfter read name rest).flatMap fun segment => segment.written.toList) =
      read.reverse ++ (name.elim [] fun name => '\x7b' :: name.reverse) ++ rest := by
  induction read, name, rest using segmentsAfter.induct with
  | case1 read =>
      rw [segmentsAfter, written_ofLiteral]
      simp
  | case2 read name =>
      rw [segmentsAfter, written_ofLiteral]
      simp
  | case3 read rest ih =>
      rw [segmentsAfter, if_pos rfl, ih]
      simp
  | case4 read c rest hc ih =>
      rw [segmentsAfter, if_neg hc, ih]
      simp
  | case5 read rest name ih =>
      rw [segmentsAfter, if_pos rfl, List.flatMap_append, written_ofLiteral, List.flatMap_cons,
        toList_written_placeholder, ih]
      simp
  | case6 read c rest name hc ih =>
      rw [segmentsAfter, if_neg hc, ih]
      simp

theorem dropWhile_opening_append {text rest : List Char} (h : '\x7b' ∉ text) :
    (text ++ '\x7b' :: rest).dropWhile (· != '\x7b') = '\x7b' :: rest := by
  have hall : ∀ c ∈ text, (c != '\x7b') = true :=
    fun c hc => bne_iff_ne.mpr (ne_of_mem_of_not_mem hc h)
  rw [List.dropWhile_append_of_pos hall, List.dropWhile_cons_of_neg (by simp)]

theorem isCanonical_ofLiteral_append {read : List Char} {segments : List PathSegment}
    {name : String} (hread : '\x7b' ∉ read) (h : IsCanonical (.placeholder name :: segments)) :
    IsCanonical (ofLiteral read ++ .placeholder name :: segments) := by
  unfold ofLiteral
  cases read with
  | nil => exact h
  | cons c read =>
      have hne : PathSegment.placeholder name :: segments ≠ [] := List.cons_ne_nil _ _
      refine (isCanonical_literal_cons hne).mpr ⟨?_, ?_, ⟨name, segments, rfl⟩, h⟩
      · simp
      · simpa [and_comm] using hread

/-- What a path is cut into is canonical.  No brace is open in `read`, and none is closed yet in
`name`. -/
theorem isCanonical_segmentsAfter {read rest : List Char} {name : Option (List Char)}
    (hread : '\x7b' ∉ read) (hname : ∀ name' ∈ name, '\x7d' ∉ name') :
    IsCanonical (segmentsAfter read name rest) := by
  induction read, name, rest using segmentsAfter.induct with
  | case1 read =>
      rw [segmentsAfter]
      unfold ofLiteral
      split_ifs with hempty
      · exact isCanonical_nil
      · refine isCanonical_literal.mpr ⟨?_, ?_⟩
        · simpa [String.ofList_eq_empty_iff] using hempty
        · have hnone : read.reverse.dropWhile (· != '\x7b') = [] := by
            rw [List.dropWhile_eq_nil_iff]
            exact fun c hc => bne_iff_ne.mpr (ne_of_mem_of_not_mem (List.mem_reverse.mp hc) hread)
          rw [String.toList_ofList, hnone]
          exact List.not_mem_nil
  | case2 read name =>
      have hunclosed : '\x7d' ∉ '\x7b' :: name.reverse := by simpa using hname name rfl
      have htext : (name ++ '\x7b' :: read).reverse = read.reverse ++ '\x7b' :: name.reverse := by
        simp
      rw [segmentsAfter]
      unfold ofLiteral
      rw [if_neg (by simp), htext]
      refine isCanonical_literal.mpr ⟨by simp [String.ofList_eq_empty_iff], ?_⟩
      rwa [String.toList_ofList, dropWhile_opening_append (by simpa using hread)]
  | case3 read rest ih =>
      rw [segmentsAfter, if_pos rfl]
      exact ih hread (by simp)
  | case4 read c rest hc ih =>
      rw [segmentsAfter, if_neg hc]
      exact ih (List.not_mem_cons_of_ne_of_not_mem (Ne.symm hc) hread) hname
  | case5 read rest name ih =>
      rw [segmentsAfter, if_pos rfl]
      refine isCanonical_ofLiteral_append hread (isCanonical_placeholder_cons.mpr ⟨?_, ?_⟩)
      · simpa using hname name rfl
      · exact ih (by simp) (by simp)
  | case6 read c rest name hc ih =>
      rw [segmentsAfter, if_neg hc]
      refine ih hread fun name' hname' => ?_
      obtain rfl := Option.some.inj hname'
      exact List.not_mem_cons_of_ne_of_not_mem (Ne.symm hc) (hname name rfl)

/-! ## Cutting what was written -/

section Cutting

variable {read name text rest : List Char}

theorem segmentsAfter_literal (h : '\x7b' ∉ text) :
    segmentsAfter read none (text ++ rest) = segmentsAfter (text.reverse ++ read) none rest := by
  induction text generalizing read with
  | nil => rfl
  | cons c text ih =>
      obtain ⟨hne, htext⟩ := List.ne_and_not_mem_of_not_mem_cons h
      rw [List.cons_append, segmentsAfter, if_neg hne.symm, ih htext, List.reverse_cons,
        List.append_assoc, List.singleton_append]

theorem segmentsAfter_variable (h : '\x7d' ∉ text) :
    segmentsAfter read (some name) (text ++ '\x7d' :: rest) =
      ofLiteral read ++
        .placeholder (String.ofList (name.reverse ++ text)) :: segmentsAfter [] none rest := by
  induction text generalizing name with
  | nil => rw [List.nil_append, segmentsAfter, if_pos rfl, List.append_nil]
  | cons c text ih =>
      obtain ⟨hne, htext⟩ := List.ne_and_not_mem_of_not_mem_cons h
      rw [List.cons_append, segmentsAfter, if_neg hne.symm, ih htext, List.reverse_cons,
        List.append_assoc, List.singleton_append]

theorem segmentsAfter_unclosed (h : '\x7d' ∉ text) :
    segmentsAfter read (some name) text = ofLiteral (text.reverse ++ name ++ '\x7b' :: read) := by
  induction text generalizing name with
  | nil => rfl
  | cons c text ih =>
      obtain ⟨hne, htext⟩ := List.ne_and_not_mem_of_not_mem_cons h
      rw [segmentsAfter, if_neg hne.symm, ih htext]
      simp

/-- Literal text at the end may have a brace that opens a variable, as long as none closes it. -/
theorem segmentsAfter_last (h : '\x7d' ∉ text.dropWhile (· != '\x7b')) :
    segmentsAfter [] none text = ofLiteral text.reverse := by
  by_cases hopened : '\x7b' ∈ text
  · obtain ⟨before, after, rfl, hbefore⟩ := List.eq_append_cons_of_mem hopened
    rw [dropWhile_opening_append hbefore] at h
    have hopens : segmentsAfter before.reverse none ('\x7b' :: after) =
        segmentsAfter before.reverse (some []) after := by rw [segmentsAfter, if_pos rfl]
    rw [segmentsAfter_literal hbefore, List.append_nil, hopens,
      segmentsAfter_unclosed (List.not_mem_of_not_mem_cons h)]
    simp
  · rw [← List.append_nil text, segmentsAfter_literal hopened, segmentsAfter, List.append_nil,
      List.append_nil]

theorem segmentsAfter_written {segments : List PathSegment} (h : IsCanonical segments) :
    segmentsAfter [] none (segments.flatMap fun segment => segment.written.toList) = segments := by
  have hplaceholder (read : List Char) (name : String) (rest : List Char)
      (hname : '\x7d' ∉ name.toList) :
      segmentsAfter read none ((placeholder name).written.toList ++ rest) =
        ofLiteral read ++ .placeholder name :: segmentsAfter [] none rest := by
    rw [toList_written_placeholder, List.cons_append, List.append_assoc, List.singleton_append,
      segmentsAfter, if_pos rfl, segmentsAfter_variable hname, List.reverse_nil, List.nil_append,
      String.ofList_toList]
  induction segments with
  | nil => rfl
  | cons segment segments ih =>
      cases segment with
      | placeholder name =>
          obtain ⟨hname, hrest⟩ := isCanonical_placeholder_cons.mp h
          rw [List.flatMap_cons, hplaceholder [] name _ hname, ih hrest]
          rfl
      | literal text =>
          have hliteral (filled : text ≠ "") :
              ofLiteral text.toList.reverse = [.literal text] := by
            unfold ofLiteral
            rw [if_neg (by simpa using filled), List.reverse_reverse, String.ofList_toList]
          by_cases hlast : segments = []
          · subst hlast
            obtain ⟨hfilled, hunclosed⟩ := isCanonical_literal.mp h
            rw [List.flatMap_singleton, written, segmentsAfter_last hunclosed, hliteral hfilled]
          · obtain ⟨hfilled, hunopened, ⟨name, rest, rfl⟩, hrest⟩ :=
              (isCanonical_literal_cons hlast).mp h
            have hname := (isCanonical_placeholder_cons.mp hrest).1
            specialize ih hrest
            rw [List.flatMap_cons, hplaceholder [] name _ hname] at ih
            rw [List.flatMap_cons, written, segmentsAfter_literal hunopened, List.flatMap_cons,
              hplaceholder _ name _ hname, List.append_nil, hliteral hfilled]
            exact congrArg (PathSegment.literal text :: ·) ih

end Cutting

/-- A path is cut into given pieces exactly if they are canonical and make up the path. -/
theorem splitPath_eq_iff {path : String} {segments : List PathSegment} :
    splitPath path = segments ↔
      IsCanonical segments ∧ writtenPath segments = withoutSlash path := by
  rw [splitPath_eq]
  constructor
  · rintro rfl
    refine ⟨isCanonical_segmentsAfter (by simp) (by simp), ?_⟩
    rw [← String.toList_inj, toList_writtenPath, written_segmentsAfter]
    simp
  · rintro ⟨hcanonical, hwritten⟩
    rw [← hwritten, toList_writtenPath, segmentsAfter_written hcanonical]

/-- Every path is cut into canonical pieces that make it up again, and exactly the canonical pieces
are those that the path made of them is cut into. -/
theorem splitPath_inverse :
    (∀ path, IsCanonical (splitPath path) ∧ writtenPath (splitPath path) = withoutSlash path) ∧
    ∀ segments, splitPath ("/" ++ writtenPath segments) = segments ↔ IsCanonical segments := by
  refine ⟨fun path => splitPath_eq_iff.mp rfl, fun segments => ?_⟩
  rw [splitPath_eq_iff, withoutSlash_append]
  exact and_iff_left rfl

example : splitPath "/a\x7d\x7bb\x7bc\x7d\x7bd" =
    [.literal "a\x7d", .placeholder "b\x7bc", .literal "\x7bd"] := by decide +kernel

end OpenApiClient
