import Mathlib.Data.List.Chain
import OpenApiClient.Json.Quoted
import OpenApiClient.Proofs.Interpolations

/-!
# Texts inside of literals

The inside of a string literal in double quotes and the inside of a template literal are read as
ECMAScript reads them (`stringTokens?`, `templateTokens?`): into UTF-16 code units and the
expressions of a template.  An escape always denotes fewer code units than it is written with.  So a
text that is put into a literal as it stands is denoted by it exactly if there is nothing in it that
could be read otherwise (`stringTokens?_eq_iff`, `templateTokens?_path_iff`).
-/

namespace OpenApiClient

def codeUnits (code : Nat) : List Nat :=
  if code < 0x10000 then [code]
  else [0xD800 + (code - 0x10000) / 0x400, 0xDC00 + (code - 0x10000) % 0x400]

/-- What the inside of a literal denotes, piece by piece. -/
inductive LiteralToken where
  /-- A code unit of text. -/
  | unit (code : Nat)
  /-- The value of an expression. -/
  | value (expr : String)
  deriving DecidableEq, Repr

def codeTokens (code : Nat) : List LiteralToken := (codeUnits code).map .unit

def textTokens (text : List Char) : List LiteralToken := text.flatMap fun c => codeTokens c.toNat

/-! ## Escapes -/

/-- The code point that hexadecimal digits denote, which a brace closes, and what follows it.
`code` is what the digits before denote, if there are any. -/
def codePointAfter (code : Option Nat) : List Char → Option (Nat × List Char)
  | [] => none
  | c :: rest =>
    if c = '\x7d' then (code.filter (· ≤ 0x10FFFF)).map fun code => (code, rest)
    else do
      let digit ← Text.digit? 16 c
      codePointAfter (some (code.getD 0 * 16 + digit)) rest

def escapedCode (c : Char) : Nat :=
  match c with
  | 'b' => 8
  | 't' => 9
  | 'n' => 10
  | 'v' => 11
  | 'f' => 12
  | 'r' => 13
  | _ => c.toNat

def lineEnds : List Char := ['\n', '\r', '\u2028', '\u2029']

/-- What is escaped by a backslash that is already read, and what follows it.  The end of a line is
nothing if it is escaped.  Digits are no escapes, apart from a zero without a digit after it. -/
def escapeTokens? : List Char → Option (List LiteralToken × List Char)
  | [] => none
  | '\r' :: '\n' :: rest => some ([], rest)
  | 'x' :: a :: b :: rest => do
    let a ← Text.digit? 16 a
    let b ← Text.digit? 16 b
    some ([.unit (a * 16 + b)], rest)
  | 'u' :: '\x7b' :: rest =>
    (codePointAfter none rest).map fun (code, rest) => (codeTokens code, rest)
  | 'u' :: rest => (Quoted.fourDigits? rest).map fun (code, rest) => ([.unit code], rest)
  | '0' :: rest => if rest.head?.any Char.isDigit then none else some ([.unit 0], rest)
  | c :: rest =>
    if c = 'x' ∨ c.isDigit then none
    else if c ∈ lineEnds then some ([], rest)
    else some (codeTokens (escapedCode c), rest)

/-! ## Literals -/

/-- Reads pieces up to the end of a text.  Every piece has to take something of the text. -/
def readPieces (piece? : List Char → Option (List LiteralToken × List Char)) (text : List Char) :
    Option (List LiteralToken) :=
  if text.isEmpty then some []
  else
    match piece? text with
    | none => none
    | some (tokens, rest) =>
      if _ : rest.length < text.length then (readPieces piece? rest).map (tokens ++ ·) else none
termination_by text.length

def stringPiece? : List Char → Option (List LiteralToken × List Char)
  | [] => none
  | c :: rest =>
    if c = '"' ∨ c = '\n' ∨ c = '\r' then none
    else if c = '\\' then escapeTokens? rest
    else some (codeTokens c.toNat, rest)

/-- The expression that a brace closes, and what follows it.  Expressions with braces of their own
are not read. -/
def expression? : List Char → Option (List Char × List Char)
  | [] => none
  | c :: rest =>
    if c = '\x7d' then some ([], rest)
    else if c = '\x7b' then none
    else (expression? rest).map fun (expr, rest) => (c :: expr, rest)

/-- The next piece of the inside of a template literal.  Every end of a line is a line feed. -/
def templatePiece? : List Char → Option (List LiteralToken × List Char)
  | [] => none
  | '\r' :: '\n' :: rest => some ([.unit 10], rest)
  | '$' :: '\x7b' :: rest =>
    (expression? rest).map fun (expr, rest) => ([.value (String.ofList expr)], rest)
  | c :: rest =>
    if c = '\x60' then none
    else if c = '\\' then escapeTokens? rest
    else if c = '\r' then some ([.unit 10], rest)
    else some (codeTokens c.toNat, rest)

def stringTokens? (text : String) : Option (List LiteralToken) :=
  readPieces stringPiece? text.toList

def templateTokens? (text : String) : Option (List LiteralToken) :=
  readPieces templatePiece? text.toList

/-! ## Widths -/

/-- The number of code units that a token is written with if nothing is escaped. -/
def LiteralToken.width : LiteralToken → Nat
  | unit _ => 1
  | value expr => ((textTokens expr.toList).length) + 3

def width (tokens : List LiteralToken) : Nat := (tokens.map LiteralToken.width).sum

def textWidth (text : List Char) : Nat := (textTokens text).length

@[simp] theorem width_nil : width [] = 0 := rfl

@[simp] theorem width_append (tokens others : List LiteralToken) :
    width (tokens ++ others) = width tokens + width others := by
  simp [width]

theorem width_unit (code : Nat) : width [.unit code] = 1 := rfl

theorem width_codeTokens (code : Nat) : width (codeTokens code) = (codeTokens code).length := by
  simp [width, codeTokens, Function.comp_def, LiteralToken.width]

@[simp] theorem textWidth_nil : textWidth [] = 0 := rfl

@[simp] theorem textWidth_cons (c : Char) (text : List Char) :
    textWidth (c :: text) = (codeTokens c.toNat).length + textWidth text := by
  simp [textWidth, textTokens]

@[simp] theorem textWidth_append (text rest : List Char) :
    textWidth (text ++ rest) = textWidth text + textWidth rest := by
  simp [textWidth, textTokens]

theorem width_textTokens (text : List Char) : width (textTokens text) = textWidth text := by
  induction text with
  | nil => rfl
  | cons c text ih =>
      rw [textWidth_cons, ← ih, ← width_codeTokens, ← width_append]
      rfl

theorem length_codeTokens (code : Nat) :
    1 ≤ (codeTokens code).length ∧ (codeTokens code).length ≤ 2 := by
  unfold codeTokens codeUnits
  split_ifs <;> simp

theorem length_escapedCode (c : Char) :
    (codeTokens (escapedCode c)).length ≤ (codeTokens c.toNat).length := by
  have hone := (length_codeTokens c.toNat).1
  unfold escapedCode
  split
  case h_7 => exact Nat.le_refl _
  all_goals exact hone

theorem textWidth_codePointAfter {code : Option Nat} {text rest : List Char} {result : Nat}
    (h : codePointAfter code text = some (result, rest)) : textWidth rest ≤ textWidth text := by
  induction text generalizing code with
  | nil => cases h
  | cons c text ih =>
      rw [codePointAfter] at h
      rw [textWidth_cons]
      split_ifs at h
      · obtain ⟨_, -, h⟩ := Option.map_eq_some_iff.mp h
        obtain ⟨rfl, rfl⟩ := Prod.mk.inj h
        exact Nat.le_add_left _ _
      · obtain ⟨_, -, h⟩ := Option.bind_eq_some_iff.mp h
        exact Nat.le_add_left_of_le (ih h)

theorem textWidth_fourDigits? {text rest : List Char} {result : Nat}
    (h : Quoted.fourDigits? text = some (result, rest)) : textWidth rest ≤ textWidth text := by
  unfold Quoted.fourDigits? at h
  split at h
  · simp only [Option.bind_eq_bind, Option.bind_eq_some_iff] at h
    obtain ⟨_, -, _, -, _, -, _, -, h⟩ := h
    obtain ⟨rfl, rfl⟩ := Prod.mk.inj (Option.some.inj h)
    simp only [textWidth_cons]
    omega
  · cases h

/-- What is escaped is no longer than the escape. -/
theorem width_escapeTokens? {text rest : List Char} {tokens : List LiteralToken}
    (h : escapeTokens? text = some (tokens, rest)) :
    width tokens + textWidth rest ≤ textWidth text := by
  unfold escapeTokens? at h
  split at h
  case h_1 => cases h
  case h_2 =>
      obtain ⟨rfl, rfl⟩ := Prod.mk.inj (Option.some.inj h)
      simp only [textWidth_cons, width_nil]
      omega
  case h_3 =>
      -- Two digits are for one code unit.
      simp only [Option.bind_eq_bind, Option.bind_eq_some_iff] at h
      obtain ⟨_, -, _, -, h⟩ := h
      obtain ⟨rfl, rfl⟩ := Prod.mk.inj (Option.some.inj h)
      have hone := (length_codeTokens 'x'.toNat).1
      simp only [textWidth_cons, width_unit]
      omega
  case h_4 =>
      obtain ⟨⟨code, rest⟩, hcode, h⟩ := Option.map_eq_some_iff.mp h
      obtain ⟨rfl, rfl⟩ := Prod.mk.inj h
      have hrest := textWidth_codePointAfter hcode
      have htwo := (length_codeTokens code).2
      have hletter := (length_codeTokens 'u'.toNat).1
      have hbrace := (length_codeTokens '\x7b'.toNat).1
      simp only [textWidth_cons, width_codeTokens]
      omega
  case h_5 =>
      obtain ⟨⟨code, rest⟩, hcode, h⟩ := Option.map_eq_some_iff.mp h
      obtain ⟨rfl, rfl⟩ := Prod.mk.inj h
      have hrest := textWidth_fourDigits? hcode
      have hletter := (length_codeTokens 'u'.toNat).1
      simp only [textWidth_cons, width_unit]
      omega
  case h_6 =>
      split_ifs at h
      obtain ⟨rfl, rfl⟩ := Prod.mk.inj (Option.some.inj h)
      have hzero := (length_codeTokens '0'.toNat).1
      simp only [textWidth_cons, width_unit]
      omega
  case h_7 c _ _ _ _ _ _ =>
      have hcode := length_escapedCode c
      split_ifs at h
      · obtain ⟨rfl, rfl⟩ := Prod.mk.inj (Option.some.inj h)
        simp only [textWidth_cons, width_nil]
        omega
      · obtain ⟨rfl, rfl⟩ := Prod.mk.inj (Option.some.inj h)
        simp only [textWidth_cons, width_codeTokens]
        omega

/-! ## Reading -/

section Reading

variable {piece? : List Char → Option (List LiteralToken × List Char)} {text rest : List Char}
  {tokens : List LiteralToken}

theorem readPieces_nil : readPieces piece? [] = some [] := by simp [readPieces]

theorem readPieces_of_piece (h : piece? text = some (tokens, rest))
    (hshorter : rest.length < text.length) :
    readPieces piece? text = (readPieces piece? rest).map (tokens ++ ·) := by
  have hne : text.isEmpty = false := by
    rw [List.isEmpty_eq_false_iff]
    rintro rfl
    exact absurd hshorter (Nat.not_lt_zero _)
  rw [readPieces, hne]
  simp [h, hshorter]

theorem readPieces_of_none (hne : text ≠ []) (h : piece? text = none) :
    readPieces piece? text = none := by
  rw [readPieces]
  simp [hne, h]

def Shrinks (piece? : List Char → Option (List LiteralToken × List Char)) : Prop :=
  ∀ text tokens rest, piece? text = some (tokens, rest) →
    width tokens + textWidth rest ≤ textWidth text

theorem Shrinks.readPieces (hshrinks : Shrinks piece?) (h : readPieces piece? text = some tokens) :
    width tokens ≤ textWidth text := by
  fun_induction OpenApiClient.readPieces piece? text generalizing tokens with
  | case1 text hempty =>
      obtain rfl := Option.some.inj h
      exact Nat.zero_le _
  | case2 text hempty hnone => cases h
  | case3 text hempty first rest hpiece hshorter ih =>
      obtain ⟨others, hothers, rfl⟩ := Option.map_eq_some_iff.mp h
      have hfirst := hshrinks _ _ _ hpiece
      have hrest := ih hothers
      rw [width_append]
      omega
  | case4 text hempty first rest hpiece hlonger => cases h

/-- An escape never stands for the text that it is written with. -/
theorem Shrinks.readPieces_escape_ne (hshrinks : Shrinks piece?)
    (hescape : piece? ('\\' :: text) = escapeTokens? text)
    (hwidth : width tokens = textWidth ('\\' :: text)) :
    OpenApiClient.readPieces piece? ('\\' :: text) ≠ some tokens := by
  intro h
  rw [OpenApiClient.readPieces, hescape] at h
  cases hpiece : escapeTokens? text with
  | none => simp [hpiece] at h
  | some piece =>
      obtain ⟨first, rest⟩ := piece
      have hfirst := width_escapeTokens? hpiece
      have hone := (length_codeTokens '\\'.toNat).1
      rw [hpiece] at h
      dsimp only at h
      split_ifs at h with hempty
      · cases hempty
      · obtain ⟨others, hothers, rfl⟩ := Option.map_eq_some_iff.mp h
        have hrest := hshrinks.readPieces hothers
        rw [width_append, textWidth_cons] at hwidth
        omega

theorem shrinks_stringPiece? : Shrinks stringPiece? := by
  intro text tokens rest h
  unfold stringPiece? at h
  split at h
  · cases h
  · rw [textWidth_cons]
    split_ifs at h
    · exact Nat.le_add_left_of_le (width_escapeTokens? h)
    · obtain ⟨rfl, rfl⟩ := Prod.mk.inj (Option.some.inj h)
      rw [width_codeTokens]

theorem expression?_eq {text rest expr : List Char} (h : expression? text = some (expr, rest)) :
    text = expr ++ '\x7d' :: rest := by
  induction text generalizing expr with
  | nil => cases h
  | cons c text ih =>
      rw [expression?] at h
      split_ifs at h with hclose
      · obtain ⟨rfl, rfl⟩ := Prod.mk.inj (Option.some.inj h)
        rw [hclose, List.nil_append]
      · obtain ⟨⟨inner, rest⟩, hinner, h⟩ := Option.map_eq_some_iff.mp h
        obtain ⟨rfl, rfl⟩ := Prod.mk.inj h
        rw [ih hinner, List.cons_append]

theorem expression?_append {expr : List Char} (hopening : '\x7b' ∉ expr) (hclosing : '\x7d' ∉ expr)
    (rest : List Char) : expression? (expr ++ '\x7d' :: rest) = some (expr, rest) := by
  induction expr with
  | nil => simp [expression?]
  | cons c expr ih =>
      obtain ⟨hopen, hopening⟩ := List.ne_and_not_mem_of_not_mem_cons hopening
      obtain ⟨hclose, hclosing⟩ := List.ne_and_not_mem_of_not_mem_cons hclosing
      rw [List.cons_append, expression?, if_neg hclose.symm, if_neg hopen.symm,
        ih hopening hclosing]
      rfl

theorem width_value (expr : List Char) :
    width [.value (String.ofList expr)] = textWidth ('$' :: '\x7b' :: (expr ++ ['\x7d'])) := by
  have hone {c : Char} (h : c ∈ ['$', '\x7b', '\x7d']) : (codeTokens c.toNat).length = 1 := by
    simp only [List.mem_cons, List.not_mem_nil, or_false] at h
    rcases h with rfl | rfl | rfl <;> rfl
  rw [textWidth_cons, textWidth_cons, textWidth_append, textWidth_cons, hone (by simp),
    hone (by simp), hone (by simp), textWidth_nil]
  simp only [width, List.map_cons, List.map_nil, List.sum_cons, List.sum_nil, LiteralToken.width,
    String.toList_ofList, textWidth]
  omega

theorem shrinks_templatePiece? : Shrinks templatePiece? := by
  intro text tokens rest h
  unfold templatePiece? at h
  split at h
  case h_1 => cases h
  case h_2 rest =>
      obtain ⟨rfl, rfl⟩ := Prod.mk.inj (Option.some.inj h)
      have hone := (length_codeTokens '\r'.toNat).1
      simp only [textWidth_cons, width_unit]
      omega
  case h_3 rest =>
      obtain ⟨⟨expr, rest⟩, hexpr, h⟩ := Option.map_eq_some_iff.mp h
      obtain ⟨rfl, rfl⟩ := Prod.mk.inj h
      rw [width_value, expression?_eq hexpr]
      simp only [textWidth_cons, textWidth_append, textWidth_nil]
      omega
  case h_4 c rest _ _ =>
      have hone := (length_codeTokens c.toNat).1
      rw [textWidth_cons]
      split_ifs at h
      · exact Nat.le_add_left_of_le (width_escapeTokens? h)
      · obtain ⟨rfl, rfl⟩ := Prod.mk.inj (Option.some.inj h)
        rw [width_unit]
        omega
      · obtain ⟨rfl, rfl⟩ := Prod.mk.inj (Option.some.inj h)
        rw [width_codeTokens]

end Reading

/-! ## String literals -/

/-- The inside of a string literal in which every character stands for itself. -/
def IsPlainString (text : List Char) : Prop := ∀ c ∈ text, c ∉ ['"', '\\', '\n', '\r']

instance (text : List Char) : Decidable (IsPlainString text) := List.decidableBAll _ text

theorem readPieces_stringPiece?_iff (text : List Char) :
    readPieces stringPiece? text = some (textTokens text) ↔ IsPlainString text := by
  induction text with
  | nil => exact iff_of_true readPieces_nil (by simp [IsPlainString])
  | cons c text ih =>
      by_cases hstop : c = '"' ∨ c = '\n' ∨ c = '\r'
      · have hnone : stringPiece? (c :: text) = none := by rw [stringPiece?, if_pos hstop]
        rw [readPieces_of_none (by simp) hnone]
        refine iff_of_false (by simp) fun hplain => ?_
        rcases hstop with rfl | rfl | rfl <;> exact hplain _ List.mem_cons_self (by simp)
      by_cases hescape : c = '\\'
      · subst hescape
        refine iff_of_false ?_ fun hplain => hplain _ List.mem_cons_self (by simp)
        exact shrinks_stringPiece?.readPieces_escape_ne rfl (width_textTokens _)
      · have hpiece : stringPiece? (c :: text) = some (codeTokens c.toNat, text) := by
          rw [stringPiece?, if_neg hstop, if_neg hescape]
        have hself : c ∉ ['"', '\\', '\n', '\r'] := by
          simp only [List.mem_cons, List.not_mem_nil, or_false, not_or] at hstop ⊢
          exact ⟨hstop.1, hescape, hstop.2⟩
        have htokens : textTokens (c :: text) = codeTokens c.toNat ++ textTokens text := rfl
        rw [readPieces_of_piece hpiece (by simp), htokens, IsPlainString, List.forall_mem_cons]
        simp [hself, ih, IsPlainString]

/-- A text is denoted by a string literal that it is put into exactly if every character of it
stands for itself. -/
theorem stringTokens?_eq_iff (text : String) :
    stringTokens? text = some (textTokens text.toList) ↔ IsPlainString text.toList :=
  readPieces_stringPiece?_iff text.toList

/-! ## Template literals -/

/-- The inside of a template literal that has no expressions and in which every character stands for
itself. -/
def IsPlainTemplate (text : List Char) : Prop :=
  (∀ c ∈ text, c ∉ ['\x60', '\\', '\r']) ∧ ¬ ['$', '\x7b'] <:+: text

theorem isPlainTemplate_cons {c : Char} {text : List Char} : IsPlainTemplate (c :: text) ↔
    c ∉ ['\x60', '\\', '\r'] ∧ ¬ (c = '$' ∧ text.head? = some '\x7b') ∧ IsPlainTemplate text := by
  have hprefix : ['$', '\x7b'] <+: c :: text ↔ c = '$' ∧ text.head? = some '\x7b' := by
    cases text with
    | nil => simp [List.cons_prefix_cons]
    | cons d text => simp [List.cons_prefix_cons, eq_comm]
  rw [IsPlainTemplate, IsPlainTemplate, List.forall_mem_cons, List.infix_cons_iff, hprefix]
  tauto

theorem templatePiece?_self {c : Char} {text : List Char} (hself : c ∉ ['\x60', '\\', '\r'])
    (hopens : ¬ (c = '$' ∧ text.head? = some '\x7b')) :
    templatePiece? (c :: text) = some (codeTokens c.toNat, text) := by
  simp only [List.mem_cons, List.not_mem_nil, or_false, not_or] at hself
  rw [templatePiece?]
  · rw [if_neg hself.1, if_neg hself.2.1, if_neg hself.2.2]
  · rintro rest rfl -
    exact hself.2.2 rfl
  · rintro rest rfl rfl
    exact hopens ⟨rfl, rfl⟩

/-- The end of a line is never read as a carriage return. -/
theorem exists_templatePiece?_return (text : List Char) : ∃ rest,
    templatePiece? ('\r' :: text) = some ([.unit 10], rest) ∧
      rest.length < ('\r' :: text).length := by
  unfold templatePiece?
  split
  case h_2 rest h =>
      obtain rfl := (List.cons.inj h).2
      exact ⟨rest, rfl, Nat.lt_add_right _ (Nat.lt_succ_self _)⟩
  case h_4 c rest _ _ h =>
      obtain ⟨rfl, rfl⟩ := List.cons.inj h
      exact ⟨text, rfl, by simp⟩
  all_goals simp_all

/-- A carriage return is never read as itself. -/
theorem readPieces_return_ne (text : List Char) (tokens : List LiteralToken) :
    readPieces templatePiece? ('\r' :: text) ≠ some (codeTokens '\r'.toNat ++ tokens) := by
  obtain ⟨rest, hpiece, hshorter⟩ := exists_templatePiece?_return text
  have hreturn : codeTokens '\r'.toNat = [.unit 13] := rfl
  rw [readPieces_of_piece hpiece hshorter, hreturn]
  simp

/-- A dollar sign before a brace is never read as itself. -/
theorem readPieces_opening_ne (text : List Char) (tokens : List LiteralToken) :
    readPieces templatePiece? ('$' :: '\x7b' :: text) ≠
      some (codeTokens '$'.toNat ++ tokens) := by
  have hdollar : codeTokens '$'.toNat = [.unit 36] := rfl
  rw [hdollar]
  cases hexpr : expression? text with
  | none =>
      have hnone : templatePiece? ('$' :: '\x7b' :: text) = none :=
        congrArg (Option.map _) hexpr
      rw [readPieces_of_none (by simp) hnone]
      simp
  | some found =>
      obtain ⟨expr, rest⟩ := found
      have hpiece : templatePiece? ('$' :: '\x7b' :: text) =
          some ([.value (String.ofList expr)], rest) := congrArg (Option.map _) hexpr
      have hshorter : rest.length < ('$' :: '\x7b' :: text).length := by
        rw [expression?_eq hexpr]
        simp only [List.length_cons, List.length_append]
        omega
      rw [readPieces_of_piece hpiece hshorter]
      simp

/-- A text at the beginning of a template literal is denoted exactly if it is plain. -/
theorem readPieces_templatePiece?_iff {rest : List Char} {tokens : List LiteralToken}
    (hrest : rest.head? ≠ some '\x7b') (hwidth : width tokens = textWidth rest)
    (text : List Char) :
    readPieces templatePiece? (text ++ rest) = some (textTokens text ++ tokens) ↔
      IsPlainTemplate text ∧ readPieces templatePiece? rest = some tokens := by
  induction text with
  | nil => simp [IsPlainTemplate, textTokens]
  | cons c text ih =>
      have htokens : textTokens (c :: text) ++ tokens =
          codeTokens c.toNat ++ (textTokens text ++ tokens) := List.append_assoc _ _ _
      rw [isPlainTemplate_cons, List.cons_append, htokens]
      by_cases hself : c ∈ ['\x60', '\\', '\r']
      · refine iff_of_false ?_ fun h => h.1.1 hself
        simp only [List.mem_cons, List.not_mem_nil, or_false] at hself
        -- A backtick ends the literal, an escape is too short, a carriage return is a line feed.
        rcases hself with rfl | rfl | rfl
        · rw [readPieces_of_none (by simp) rfl]
          simp
        · apply shrinks_templatePiece?.readPieces_escape_ne rfl
          rw [← htokens, width_append, width_textTokens, hwidth, ← textWidth_append,
            List.cons_append]
        · exact readPieces_return_ne _ _
      by_cases hopens : c = '$' ∧ text.head? = some '\x7b'
      · refine iff_of_false ?_ fun h => h.1.2.1 hopens
        obtain ⟨rfl, hhead⟩ := hopens
        obtain ⟨text, rfl⟩ := List.head?_eq_some_iff.mp hhead
        exact readPieces_opening_ne _ _
      · have hopens' : ¬ (c = '$' ∧ (text ++ rest).head? = some '\x7b') := by
          rintro ⟨hdollar, hhead⟩
          cases text with
          | nil => exact hrest hhead
          | cons d text => exact hopens ⟨hdollar, hhead⟩
        rw [readPieces_of_piece (templatePiece?_self hself hopens') (by simp)]
        simp [hself, hopens, ih]

/-! ## Requested paths -/

/-- What a piece of a path should be in a template literal: text that denotes itself, or the value
of an argument. -/
def PathSegment.tokens : PathSegment → List LiteralToken
  | literal text => textTokens text.toList
  | placeholder name => [.value (variableExpression (argumentName name))]

def NoAdjacentLiterals (segments : List PathSegment) : Prop :=
  segments.IsChain fun first second => first.isVariable = true ∨ second.isVariable = true

theorem noAdjacentLiterals_segmentsAfter (read : List Char) (name : Option (List Char))
    (rest : List Char) : NoAdjacentLiterals (segmentsAfter read name rest) := by
  have hliteral (read : List Char) : NoAdjacentLiterals (PathSegment.ofLiteral read) := by
    unfold PathSegment.ofLiteral
    split_ifs
    · exact List.isChain_nil
    · exact List.isChain_singleton _
  induction read, name, rest using segmentsAfter.induct with
  | case1 read => exact hliteral read
  | case2 read name => exact hliteral _
  | case3 read rest ih =>
      rw [segmentsAfter, if_pos rfl]
      exact ih
  | case4 read c rest hc ih =>
      rw [segmentsAfter, if_neg hc]
      exact ih
  | case5 read rest name ih =>
      rw [segmentsAfter, if_pos rfl]
      refine List.isChain_append.mpr ⟨hliteral read, ?_, ?_⟩
      · exact List.isChain_cons.mpr ⟨fun _ _ => Or.inl rfl, ih⟩
      · rintro _ - _ hsecond
        obtain rfl := Option.some.inj hsecond
        exact Or.inr rfl
  | case6 read c rest name hc ih =>
      rw [segmentsAfter, if_neg hc]
      exact ih

theorem noAdjacentLiterals_splitPath (path : String) : NoAdjacentLiterals (splitPath path) := by
  unfold splitPath
  split <;> exact noAdjacentLiterals_segmentsAfter _ _ _

theorem width_tokens (segment : PathSegment) :
    width segment.tokens = textWidth segment.view.text.toList := by
  cases segment with
  | literal text => exact width_textTokens _
  | placeholder name =>
      rw [toList_text_placeholder, ← width_value, String.ofList_toList]
      rfl

theorem width_flatMap_tokens (segments : List PathSegment) :
    width (segments.flatMap PathSegment.tokens) =
      textWidth (segments.flatMap fun segment => segment.view.text.toList) := by
  induction segments with
  | nil => rfl
  | cons segment segments ih =>
      rw [List.flatMap_cons, List.flatMap_cons, width_append, textWidth_append, width_tokens, ih]

theorem readPieces_placeholder (name : String) (rest : List Char) :
    readPieces templatePiece? ((PathSegment.placeholder name).view.text.toList ++ rest) =
      (readPieces templatePiece? rest).map
        (.value (variableExpression (argumentName name)) :: ·) := by
  have hexpr := expression?_append (brace_notMem_variableExpression (Or.inl rfl) name)
    (brace_notMem_variableExpression (Or.inr rfl) name) rest
  rw [toList_text_placeholder, List.cons_append, List.cons_append, List.append_assoc,
    List.singleton_append]
  generalize hchars : (variableExpression (argumentName name)).toList = chars at hexpr ⊢
  have hpiece : templatePiece? ('$' :: '\x7b' :: (chars ++ '\x7d' :: rest)) =
      some ([.value (String.ofList chars)], rest) := congrArg (Option.map _) hexpr
  have hshorter : rest.length < ('$' :: '\x7b' :: (chars ++ '\x7d' :: rest)).length := by
    simp only [List.length_cons, List.length_append]
    omega
  rw [readPieces_of_piece hpiece hshorter, ← hchars, String.ofList_toList]
  rfl

/-- Pieces of a path are denoted exactly if their literal text is plain. -/
theorem readPieces_segments_iff {segments : List PathSegment} (h : NoAdjacentLiterals segments) :
    readPieces templatePiece? (segments.flatMap fun segment => segment.view.text.toList) =
        some (segments.flatMap PathSegment.tokens) ↔
      ∀ text, .literal text ∈ segments → IsPlainTemplate text.toList := by
  induction segments with
  | nil => exact iff_of_true readPieces_nil (by simp)
  | cons segment segments ih =>
      have hrest := List.isChain_cons.mp h
      specialize ih hrest.2
      rw [List.flatMap_cons, List.flatMap_cons]
      cases segment with
      | placeholder name =>
          rw [readPieces_placeholder]
          simp [PathSegment.tokens, ih]
      | literal text =>
          -- After literal text the path ends, or a variable begins with a dollar sign.
          have hhead : (segments.flatMap fun segment => segment.view.text.toList).head? ≠
              some '\x7b' := by
            cases segments with
            | nil => simp
            | cons second segments =>
                cases second with
                | literal text => simpa [PathSegment.isVariable] using hrest.1
                | placeholder name => simp [toList_text_placeholder]
          have hread := readPieces_templatePiece?_iff hhead (width_flatMap_tokens segments)
            text.toList
          have htext : (PathSegment.literal text).view.text = text := rfl
          rw [htext]
          exact hread.trans (by simp [ih])

/-- The text of a path, as the inside of a template literal. -/
def pathText (path : String) : String :=
  String.join ((splitPath path).map fun segment => segment.view.text)

/-- The text of a path is read as its pieces exactly if their literal text is plain. -/
theorem templateTokens?_path_iff (path : String) :
    templateTokens? (pathText path) = some ((splitPath path).flatMap PathSegment.tokens) ↔
      ∀ text, .literal text ∈ splitPath path → IsPlainTemplate text.toList := by
  have hchars : (pathText path).toList =
      (splitPath path).flatMap fun segment => segment.view.text.toList := by
    rw [pathText, String.toList_join, List.flatMap_map]
  rw [templateTokens?, hchars]
  exact readPieces_segments_iff (noAdjacentLiterals_splitPath path)

end OpenApiClient
