import OpenApiClient.Document.Reference

/-!
# Steps of pointers

Escaping is undone exactly, although slashes and tildes are restored one after the other, and an
escaped key holds no slash.  So the text of a pointer gives back the keys that it was written from
(`Pointer.steps?_written`), it designates what they lead to (`Document.node_of_written`), and what
it refers to is named after the last of them (`referenceName_append_step`).
-/

namespace OpenApiClient

namespace Pointer

/-- The text with every tilde escaped: what is left of an escaped key once slashes are restored. -/
def escapeTildes (text : List Char) : List Char :=
  text.flatMap fun c => if c = '~' then ['~', '0'] else [c]

theorem unescapeSlashes_cons {c : Char} (h : c ≠ '~') (rest : List Char) :
    unescapeSlashes (c :: rest) = c :: unescapeSlashes rest := by
  rw [unescapeSlashes]
  exact fun _ hc => absurd hc h

theorem unescapeTildes_cons {c : Char} (h : c ≠ '~') (rest : List Char) :
    unescapeTildes (c :: rest) = c :: unescapeTildes rest := by
  rw [unescapeTildes]
  exact fun _ hc => absurd hc h

theorem unescapeSlashes_tilde_zero (rest : List Char) :
    unescapeSlashes ('~' :: '0' :: rest) = '~' :: '0' :: unescapeSlashes rest := by
  rw [unescapeSlashes, unescapeSlashes_cons (by decide)]
  simp

/-- A tilde of the key is followed by a zero, so the first pass takes it for no slash. -/
theorem unescapeSlashes_escape (text : List Char) :
    unescapeSlashes (text.flatMap fun c =>
      if c = '~' then ['~', '0'] else if c = '/' then ['~', '1'] else [c]) = escapeTildes text := by
  induction text with
  | nil => rfl
  | cons c text ih =>
      rw [List.flatMap_cons, escapeTildes, List.flatMap_cons, ← escapeTildes]
      by_cases htilde : c = '~'
      · simp only [if_pos htilde, List.cons_append, List.nil_append]
        rw [unescapeSlashes_tilde_zero, ih]
      · by_cases hslash : c = '/'
        · simp only [if_neg htilde, if_pos hslash, List.cons_append, List.nil_append]
          rw [unescapeSlashes, ih, hslash]
        · simp only [if_neg htilde, if_neg hslash, List.cons_append, List.nil_append]
          rw [unescapeSlashes_cons htilde, ih]

theorem unescapeTildes_escapeTildes (text : List Char) :
    unescapeTildes (escapeTildes text) = text := by
  induction text with
  | nil => rfl
  | cons c text ih =>
      rw [escapeTildes, List.flatMap_cons, ← escapeTildes]
      by_cases htilde : c = '~'
      · simp only [if_pos htilde, List.cons_append, List.nil_append]
        rw [unescapeTildes, ih, htilde]
      · simp only [if_neg htilde, List.cons_append, List.nil_append]
        rw [unescapeTildes_cons htilde, ih]

@[simp] theorem unescape_escape (key : String) : unescape (escape key) = key := by
  rw [unescape, escape, unescapeSlashes_escape, unescapeTildes_escapeTildes, String.ofList_toList]

theorem slash_notMem_escape (key : String) : '/' ∉ escape key := by
  intro h
  obtain ⟨c, -, hc⟩ := List.mem_flatMap.mp h
  by_cases htilde : c = '~'
  · simp [htilde] at hc
  · by_cases hslash : c = '/'
    · simp [hslash] at hc
    · simp only [if_neg htilde, if_neg hslash, List.mem_singleton] at hc
      exact hslash hc.symm

theorem escape_eq_nil_iff {key : String} : escape key = [] ↔ key = "" := by
  constructor
  · intro h
    rw [← unescape_escape key, h]
    rfl
  · rintro rfl
    rfl

/-- A key is escaped as a number sign only if it is one. -/
theorem escape_eq_hash_iff {key : String} : escape key = ['#'] ↔ key = "#" := by
  constructor
  · intro h
    rw [← unescape_escape key, h]
    rfl
  · rintro rfl
    rfl

theorem splitSlashes_cons {c : Char} (h : c ≠ '/') (part rest : List Char) :
    splitSlashes part (c :: rest) = splitSlashes (c :: part) rest := by
  rw [splitSlashes]
  exact h

/-- Without a slash there is one part. -/
theorem splitSlashes_of_notMem {text : List Char} (h : '/' ∉ text) (part : List Char) :
    splitSlashes part text = [part.reverse ++ text] := by
  induction text generalizing part with
  | nil => simp [splitSlashes]
  | cons c text ih =>
      rw [List.mem_cons, not_or] at h
      obtain ⟨hc, htext⟩ := h
      rw [splitSlashes_cons (Ne.symm hc), ih htext]
      simp

/-- A slash ends the first part. -/
theorem splitSlashes_append {text : List Char} (h : '/' ∉ text) (part rest : List Char) :
    splitSlashes part (text ++ '/' :: rest) = (part.reverse ++ text) :: splitSlashes [] rest := by
  induction text generalizing part with
  | nil => simp [splitSlashes]
  | cons c text ih =>
      rw [List.mem_cons, not_or] at h
      obtain ⟨hc, htext⟩ := h
      rw [List.cons_append, splitSlashes_cons (Ne.symm hc), ih htext]
      simp

/-- Every text splits into parts, and what follows a further slash into the parts after them. -/
theorem splitSlashes_append_slash (part text rest : List Char) :
    splitSlashes part (text ++ '/' :: rest) = splitSlashes part text ++ splitSlashes [] rest := by
  induction text generalizing part with
  | nil => rfl
  | cons c text ih =>
      by_cases hc : c = '/'
      · rw [hc, List.cons_append, splitSlashes, ih, splitSlashes, List.cons_append]
      · rw [List.cons_append, splitSlashes_cons hc, ih, splitSlashes_cons hc]

/-- The keys on a way, as the text of a pointer. -/
def written (keys : List String) : List Char := keys.flatMap fun key => '/' :: escape key

/-- A pointer gives back the keys that it was written from. -/
theorem steps?_written (keys : List String) : steps? (written keys) = some keys := by
  cases keys with
  | nil => rfl
  | cons key keys =>
      change some ((splitSlashes [] (escape key ++ written keys)).map unescape) = _
      congr 1
      induction keys generalizing key with
      | nil => simp [written, splitSlashes_of_notMem (slash_notMem_escape key)]
      | cons next keys ih =>
          rw [written, List.flatMap_cons, List.cons_append,
            splitSlashes_append (slash_notMem_escape key), List.map_cons, ← written, ih]
          simp

end Pointer

/-- A pointer written from keys designates what stands at the end of their way, unless this is
`null`. -/
theorem Document.node_of_written (doc : Document) {pointer key : String} {keys : List String}
    (h : pointer.toList = '#' :: Pointer.written (key :: keys)) :
    doc.node pointer =
      match doc.tree.at? (key :: keys) with
      | some .null => .error (.unresolved pointer)
      | some node => .ok node
      | none => .error (.unresolved pointer) := by
  have hsteps : Pointer.steps? ('/' :: (Pointer.escape key ++ Pointer.written keys)) =
      some (key :: keys) := Pointer.steps?_written (key :: keys)
  have hpointer : pointer.toList = '#' :: '/' :: (Pointer.escape key ++ Pointer.written keys) := h
  cases hat : doc.tree.at? (key :: keys) with
  | none => simp only [node, hpointer, hsteps, Option.bind_some, hat]
  | some found => cases found <;> simp only [node, hpointer, hsteps, Option.bind_some, hat]

open Pointer in
/-- What a pointer refers to is named after its last key, unless this is empty or a number
sign. -/
theorem referenceName_append_step (text key : String) :
    referenceName (text ++ "/" ++ String.ofList (escape key)) =
      if key = "" ∨ key = "#" then
        .error (.malformed (text ++ "/" ++ String.ofList (escape key)))
      else .ok (Name.pascalOf key) := by
  have htext : (text ++ "/" ++ String.ofList (escape key)).toList =
      text.toList ++ '/' :: escape key := by simp
  have hlast : (splitSlashes [] (text.toList ++ '/' :: escape key)).getLast?.getD [] =
      escape key := by
    rw [splitSlashes_append_slash, splitSlashes_of_notMem (slash_notMem_escape key)]
    simp
  rw [referenceName, htext, hlast]
  simp only [escape_eq_nil_iff, escape_eq_hash_iff, unescape_escape]

end OpenApiClient
