import Mathlib.Data.Set.Lattice
import OpenApiClient.Proofs.Results

/-!
# Reading type expressions

A type expression without parentheses is read with the precedence of TypeScript: brackets bind
tighter than `&`, and `&` tighter than `|` (`readType`).  The words that are written for a type are
read as that type again, with its operators nested to the right, exactly if nothing in the type
needs parentheses (`readType_tokens_iff`).
-/

namespace OpenApiClient

inductive TypeOperator where
  | and
  | or
  deriving DecidableEq

/-- A word of a type expression.  The name of a model or a scalar is one word. -/
inductive TypeToken where
  | name (text : String)
  | brackets
  | operator (operator : TypeOperator)
  deriving DecidableEq

/-- The structure of a type above the names in it. -/
inductive TypeTree where
  | name (text : String)
  | list (item : TypeTree)
  | joined (operator : TypeOperator) (first rest : TypeTree)
  deriving DecidableEq

def TypeToken.text : TypeToken → String
  | name text => text
  | brackets => "[]"
  | operator .and => " & "
  | operator .or => " | "

def tokensText (tokens : List TypeToken) : String := String.join (tokens.map TypeToken.text)

/-- What an intersection or a union of no types is called. -/
def TypeOperator.unit : TypeOperator → String
  | and => "unknown"
  | or => "never"

namespace TypeTree

def joinedOf (operator : TypeOperator) : List TypeTree → TypeTree
  | [] => name operator.unit
  | [tree] => tree
  | first :: second :: rest => joined operator first (joinedOf operator (second :: rest))

/-- The words for a type, without any parentheses. -/
def tokens : TypeTree → List TypeToken
  | name text => [.name text]
  | list item => item.tokens ++ [.brackets]
  | joined operator first rest => first.tokens ++ .operator operator :: rest.tokens

def operator? : TypeTree → Option TypeOperator
  | joined operator _ _ => some operator
  | _ => none

/-- Nothing in a type needs parentheses: there is no list of a union or an intersection, and no
intersection with a union in it. -/
def Fits : TypeTree → Prop
  | name _ => True
  | list item => item.Fits ∧ item.operator? = none
  | joined .and first rest =>
    (first.Fits ∧ first.operator? ≠ some .or) ∧ rest.Fits ∧ rest.operator? ≠ some .or
  | joined .or first rest => first.Fits ∧ rest.Fits

def append (operator : TypeOperator) : TypeTree → TypeTree → TypeTree
  | joined inner first rest, tree =>
    if inner = operator then joined operator first (rest.append operator tree)
    else joined operator (joined inner first rest) tree
  | first, tree => joined operator first tree

/-- The same type with the operators nested to the right. -/
def flat : TypeTree → TypeTree
  | name text => name text
  | list item => list item.flat
  | joined operator first rest => first.flat.append operator rest.flat

end TypeTree

def readBrackets (tree : TypeTree) : List TypeToken → Option TypeTree
  | [] => some tree
  | .brackets :: rest => readBrackets (.list tree) rest
  | _ => none

def readPostfix : List TypeToken → Option TypeTree
  | .name text :: rest => readBrackets (.name text) rest
  | _ => none

def readOperands (operator : TypeOperator) (read : List TypeToken → Option TypeTree)
    (tokens : List TypeToken) : Option TypeTree :=
  .joinedOf operator <$> (tokens.splitOn (.operator operator)).mapM read

def readIntersection : List TypeToken → Option TypeTree := readOperands .and readPostfix

def readType : List TypeToken → Option TypeTree := readOperands .or readIntersection

/-- What the names of types and lists of values stand for.  Two names are keywords. -/
structure TypeMeaning (V : Type) where
  name : String → Set V
  list : Set V → Set V
  never : name "never" = ∅
  unknown : name "unknown" = Set.univ

def TypeOperator.combine {V : Type} : TypeOperator → Set V → Set V → Set V
  | and => (· ∩ ·)
  | or => (· ∪ ·)

namespace TypeTree

def values {V : Type} (meaning : TypeMeaning V) : TypeTree → Set V
  | name text => meaning.name text
  | list item => meaning.list (item.values meaning)
  | joined operator first rest =>
    operator.combine (first.values meaning) (rest.values meaning)

/-! ## Nesting to the right -/

variable {operator : TypeOperator} {tree first rest : TypeTree}

theorem operator?_append : (first.append operator rest).operator? = some operator := by
  cases first with
  | name text => rfl
  | list item => rfl
  | joined inner left right =>
      rw [append]
      split <;> rfl

theorem operator?_flat (tree : TypeTree) : tree.flat.operator? = tree.operator? := by
  cases tree with
  | name text => rfl
  | list item => rfl
  | joined operator first rest => exact operator?_append

theorem tokens_append :
    (first.append operator rest).tokens = first.tokens ++ .operator operator :: rest.tokens := by
  induction first with
  | name text => rfl
  | list item => rfl
  | joined inner left right _ ih =>
      rw [append]
      split
      next hinner => simp [tokens, hinner, ih]
      next => rfl

/-- Without parentheses it is not seen how operators are nested. -/
theorem tokens_flat (tree : TypeTree) : tree.flat.tokens = tree.tokens := by
  induction tree with
  | name text => rfl
  | list item ih => rw [flat, tokens, tokens, ih]
  | joined operator first rest hfirst hrest => rw [flat, tokens_append, tokens, hfirst, hrest]

section Values

variable {V : Type} (meaning : TypeMeaning V)

theorem values_append : (first.append operator rest).values meaning =
    operator.combine (first.values meaning) (rest.values meaning) := by
  induction first with
  | name text => rfl
  | list item => rfl
  | joined inner left right _ ih =>
      rw [append]
      split
      next hinner =>
          rw [values, values, ih, hinner]
          cases operator with
          | and => exact (Set.inter_assoc _ _ _).symm
          | or => exact (Set.union_assoc _ _ _).symm
      next => rfl

theorem values_flat (tree : TypeTree) : tree.flat.values meaning = tree.values meaning := by
  induction tree with
  | name text => rfl
  | list item ih => rw [flat, values, values, ih]
  | joined operator first rest hfirst hrest => rw [flat, values_append, values, hfirst, hrest]

theorem values_union (trees : List TypeTree) : (joinedOf .or trees).values meaning =
    {value | ∃ part ∈ trees.map (values meaning), value ∈ part} := by
  induction trees using joinedOf.induct with
  | case1 => simp [joinedOf, values, TypeOperator.unit, meaning.never]
  | case2 tree => simp [joinedOf]
  | case3 first second rest ih =>
      rw [joinedOf, values, ih]
      ext value
      simp only [TypeOperator.combine, Set.mem_union, Set.mem_ofPred_eq, List.map_cons,
        List.exists_mem_cons_iff]

theorem values_intersection (trees : List TypeTree) : (joinedOf .and trees).values meaning =
    {value | ∀ part ∈ trees.map (values meaning), value ∈ part} := by
  induction trees using joinedOf.induct with
  | case1 => simp [joinedOf, values, TypeOperator.unit, meaning.unknown]
  | case2 tree => simp [joinedOf]
  | case3 first second rest ih =>
      rw [joinedOf, values, ih]
      ext value
      simp only [TypeOperator.combine, Set.mem_inter_iff, Set.mem_ofPred_eq, List.map_cons,
        List.forall_mem_cons]

end Values

/-! ## Operands -/

/-- The types between the places of an operator, as far as it is nested to the right. -/
def operands (operator : TypeOperator) : TypeTree → List TypeTree
  | joined inner first rest =>
    if inner = operator then first :: rest.operands operator else [joined inner first rest]
  | tree => [tree]

def IsPostfix : TypeTree → Prop
  | name _ => True
  | list item => item.IsPostfix
  | joined _ _ _ => False

def IsIntersection (tree : TypeTree) : Prop := ∀ operand ∈ tree.operands .and, operand.IsPostfix

def IsUnion (tree : TypeTree) : Prop := ∀ operand ∈ tree.operands .or, operand.IsIntersection

theorem operands_append : (first.append operator rest).operands operator =
    first.operands operator ++ rest.operands operator := by
  induction first with
  | name text => simp [append, operands]
  | list item => simp [append, operands]
  | joined inner left right _ ih =>
      rw [append, operands]
      split
      next => simp [operands, ih]
      next => simp [operands]

theorem operands_eq_singleton (h : tree.operator? ≠ some operator) :
    tree.operands operator = [tree] := by
  cases tree with
  | name text => rfl
  | list item => rfl
  | joined inner first rest => exact if_neg fun hinner => h (congrArg some hinner)

theorem operands_ne_nil : tree.operands operator ≠ [] := by
  cases tree with
  | name text => exact List.cons_ne_nil _ _
  | list item => exact List.cons_ne_nil _ _
  | joined inner first rest =>
      rw [operands]
      split <;> exact List.cons_ne_nil _ _

theorem joinedOf_cons {trees : List TypeTree} (hne : trees ≠ []) :
    joinedOf operator (tree :: trees) = joined operator tree (joinedOf operator trees) := by
  obtain ⟨second, rest, rfl⟩ := List.exists_cons_of_ne_nil hne
  rfl

theorem joinedOf_operands (operator : TypeOperator) (tree : TypeTree) :
    joinedOf operator (tree.operands operator) = tree := by
  induction tree with
  | name text => rfl
  | list item => rfl
  | joined inner first rest _ ih =>
      rw [operands]
      split
      next hinner => rw [joinedOf_cons operands_ne_nil, ih, hinner]
      next => rfl

theorem operands_joinedOf {trees : List TypeTree} (hne : trees ≠ [])
    (h : ∀ tree ∈ trees, tree.operator? ≠ some operator) :
    (joinedOf operator trees).operands operator = trees := by
  induction trees using joinedOf.induct with
  | case1 => exact absurd rfl hne
  | case2 tree => exact operands_eq_singleton (h tree List.mem_cons_self)
  | case3 first second rest ih =>
      rw [joinedOf, operands, if_pos rfl, ih (List.cons_ne_nil _ _)
        fun tree htree => h tree (List.mem_cons_of_mem _ htree)]

theorem tokens_joinedOf {trees : List TypeTree} (hne : trees ≠ []) :
    (joinedOf operator trees).tokens = [.operator operator].intercalate (trees.map tokens) := by
  induction trees using joinedOf.induct with
  | case1 => exact absurd rfl hne
  | case2 tree => simp [joinedOf]
  | case3 first second rest ih =>
      rw [joinedOf, tokens, ih (List.cons_ne_nil _ _)]
      simp [List.intercalate]

/-! ## Types that need no parentheses -/

theorem IsPostfix.operator?_eq_none (h : tree.IsPostfix) : tree.operator? = none := by
  cases tree with
  | name text => rfl
  | list item => rfl
  | joined operator first rest => exact h.elim

theorem operator_mem_tokens (h : tree.operator? = some operator) :
    .operator operator ∈ tree.tokens := by
  cases tree with
  | name text => cases h
  | list item => cases h
  | joined inner first rest =>
      obtain rfl := Option.some.inj h
      exact List.mem_append_right _ List.mem_cons_self

theorem IsPostfix.operator_notMem (h : tree.IsPostfix) : .operator operator ∉ tree.tokens := by
  induction tree with
  | name text => simp [tokens]
  | list item ih => simpa [tokens] using ih h
  | joined inner first rest => exact h.elim

theorem IsIntersection.or_notMem (h : tree.IsIntersection) : .operator .or ∉ tree.tokens := by
  induction tree with
  | name text => simp [tokens]
  | list item =>
      have hshape : (list item).IsPostfix := h _ List.mem_cons_self
      exact IsPostfix.operator_notMem hshape
  | joined inner first rest _ ih =>
      cases inner with
      | and =>
          have hfirst : first.IsPostfix := h first List.mem_cons_self
          have hrest := ih fun operand hoperand => h operand (List.mem_cons_of_mem _ hoperand)
          simp [tokens, IsPostfix.operator_notMem hfirst, hrest]
      | or => exact (h _ List.mem_cons_self).elim

theorem isIntersection_append : (first.append .and rest).IsIntersection ↔
    first.IsIntersection ∧ rest.IsIntersection := by
  rw [IsIntersection, operands_append, List.forall_mem_append]
  rfl

theorem isUnion_append : (first.append .or rest).IsUnion ↔ first.IsUnion ∧ rest.IsUnion := by
  rw [IsUnion, operands_append, List.forall_mem_append]
  rfl

theorem isIntersection_iff_isPostfix (h : tree.operator? ≠ some .and) :
    tree.IsIntersection ↔ tree.IsPostfix := by
  rw [IsIntersection, operands_eq_singleton h, List.forall_mem_singleton]

theorem isUnion_iff_isIntersection (h : tree.operator? ≠ some .or) :
    tree.IsUnion ↔ tree.IsIntersection := by
  rw [IsUnion, operands_eq_singleton h, List.forall_mem_singleton]

/-- Types that have no operator themselves need no parentheses between operators. -/
theorem fits_joinedOf {trees : List TypeTree}
    (h : ∀ tree ∈ trees, tree.Fits ∧ tree.operator? = none) :
    (joinedOf operator trees).Fits ∧
      ((joinedOf operator trees).operator? = none ∨
        (joinedOf operator trees).operator? = some operator) := by
  induction trees using joinedOf.induct with
  | case1 => exact ⟨trivial, Or.inl rfl⟩
  | case2 tree =>
      obtain ⟨hfits, houter⟩ := h tree List.mem_cons_self
      exact ⟨hfits, Or.inl houter⟩
  | case3 first second rest ih =>
      obtain ⟨hfirst, houter⟩ := h first List.mem_cons_self
      obtain ⟨hrest, hrestOuter⟩ := ih fun tree htree => h tree (List.mem_cons_of_mem _ htree)
      refine ⟨?_, Or.inr rfl⟩
      cases operator with
      | and =>
          refine ⟨⟨hfirst, by simp [houter]⟩, hrest, ?_⟩
          rcases hrestOuter with h | h <;> simp [h]
      | or => exact ⟨hfirst, hrest⟩

/-- What the shape of a type says about parentheses, for each level of precedence. -/
structure FitsByShape (tree : TypeTree) : Prop where
  isPostfix : tree.flat.IsPostfix ↔ tree.Fits ∧ tree.operator? = none
  isIntersection : tree.flat.IsIntersection ↔ tree.Fits ∧ tree.operator? ≠ some .or
  isUnion : tree.flat.IsUnion ↔ tree.Fits

/-- The induction is on the type; every case needs the level above for its parts. -/
theorem fitsByShape (tree : TypeTree) : tree.FitsByShape := by
  induction tree with
  | name text =>
      constructor <;>
        simp [flat, Fits, IsPostfix, IsIntersection, IsUnion, operands, operator?]
  | list item ih =>
      have hshape : (list item).flat.IsPostfix ↔ (list item).Fits := ih.isPostfix
      have hintersection : (list item).flat.IsIntersection ↔ (list item).Fits :=
        (isIntersection_iff_isPostfix (by simp [flat, operator?])).trans hshape
      refine ⟨?_, ?_, ?_⟩
      · simpa [operator?] using hshape
      · simpa [operator?] using hintersection
      · exact (isUnion_iff_isIntersection (by simp [flat, operator?])).trans hintersection
  | joined operator first rest hfirst hrest =>
      have houter := operator?_flat (joined operator first rest)
      have hnot : ¬ (joined operator first rest).flat.IsPostfix := by
        intro hshape
        cases houter.symm.trans hshape.operator?_eq_none
      cases operator with
      | and =>
          have hintersection : (joined .and first rest).flat.IsIntersection ↔
              (joined .and first rest).Fits := by
            rw [flat, isIntersection_append, hfirst.isIntersection, hrest.isIntersection]
            rfl
          refine ⟨?_, ?_, ?_⟩
          · simpa [operator?] using hnot
          · simpa [operator?] using hintersection
          · rwa [isUnion_iff_isIntersection (by rw [houter]; simp [operator?])]
      | or =>
          refine ⟨?_, ?_, ?_⟩
          · simpa [operator?] using hnot
          · rw [isIntersection_iff_isPostfix (by rw [houter]; simp [operator?])]
            simpa [operator?] using hnot
          · rw [flat, isUnion_append, hfirst.isUnion, hrest.isUnion]
            rfl

end TypeTree

/-! ## Reading -/

open TypeTree

section Reading

variable {operator : TypeOperator} {tree found : TypeTree} {tokens : List TypeToken}

theorem readBrackets_append (tree : TypeTree) (tokens : List TypeToken) :
    readBrackets tree (tokens ++ [.brackets]) = (readBrackets tree tokens).map .list := by
  induction tree, tokens using readBrackets.induct with
  | case1 tree => rfl
  | case2 tree rest ih => exact ih
  | case3 tree tokens hnil hbrackets =>
      obtain ⟨token, rest, rfl⟩ := List.exists_cons_of_ne_nil hnil
      cases token with
      | name text => rfl
      | brackets => exact absurd rfl (hbrackets rest)
      | operator operator => rfl

theorem of_readBrackets (h : readBrackets tree tokens = some found) :
    found.tokens = tree.tokens ++ tokens ∧ (tree.IsPostfix → found.IsPostfix) := by
  induction tree, tokens using readBrackets.induct with
  | case1 tree =>
      obtain rfl := Option.some.inj h
      exact ⟨(List.append_nil _).symm, id⟩
  | case2 tree rest ih =>
      obtain ⟨htokens, hshape⟩ := ih h
      exact ⟨by rw [htokens, TypeTree.tokens, List.append_assoc, List.singleton_append], hshape⟩
  | case3 tree tokens hnil hbrackets =>
      rw [readBrackets] at h
      · cases h
      · exact hnil
      · exact hbrackets

theorem readPostfix_append (h : readPostfix tokens = some tree) :
    readPostfix (tokens ++ [.brackets]) = some (.list tree) := by
  cases tokens with
  | nil => cases h
  | cons word rest =>
      cases word with
      | name text =>
          rw [List.cons_append, readPostfix, readBrackets_append, ← readPostfix, h]
          rfl
      | brackets => cases h
      | operator operator => cases h

theorem of_readPostfix (h : readPostfix tokens = some tree) :
    tree.IsPostfix ∧ tree.tokens = tokens := by
  cases tokens with
  | nil => cases h
  | cons word rest =>
      cases word with
      | name text =>
          obtain ⟨htokens, hshape⟩ := of_readBrackets h
          exact ⟨hshape trivial, htokens⟩
      | brackets => cases h
      | operator operator => cases h

theorem readPostfix_eq_some_iff :
    readPostfix tokens = some tree ↔ tree.IsPostfix ∧ tree.tokens = tokens := by
  refine ⟨of_readPostfix, ?_⟩
  rintro ⟨hshape, rfl⟩
  induction tree with
  | name text => rfl
  | list item ih => exact readPostfix_append (ih hshape)
  | joined operator first rest => exact hshape.elim

section Operands

variable {read : List TypeToken → Option TypeTree} {P : TypeTree → Prop}

theorem of_readOperands (hread : ∀ {tokens tree}, read tokens = some tree → P tree ∧
    tree.tokens = tokens) (hwords : ∀ {tree}, P tree → .operator operator ∉ tree.tokens)
    (h : readOperands operator read tokens = some tree) :
    (∀ operand ∈ tree.operands operator, P operand) ∧ tree.tokens = tokens := by
  obtain ⟨trees, htrees, rfl⟩ := Option.map_eq_some_iff.mp h
  have hpieces := Option.mapM_eq_some.mp htrees
  have hne : trees ≠ [] := by
    rintro rfl
    exact List.splitOn_ne_nil _ _ (List.forall₂_nil_right_iff.mp hpieces)
  have htokens : (tokens.splitOn (.operator operator)).map id = trees.map TypeTree.tokens :=
    map_eq_of_forall₂ hpieces fun piece tree hpiece => (hread hpiece).2.symm
  have hP : ∀ tree ∈ trees, P tree := by
    intro tree htree
    obtain ⟨piece, -, hpiece⟩ := exists_left_of_forall₂ hpieces htree
    exact (hread hpiece).1
  constructor
  · rwa [operands_joinedOf hne fun tree htree houter =>
      hwords (hP tree htree) (operator_mem_tokens houter)]
  · rw [tokens_joinedOf hne, ← htokens, List.map_id, List.intercalate_splitOn]

theorem readOperands_tokens (hread : ∀ {tree}, P tree → read tree.tokens = some tree)
    (hwords : ∀ {tree}, P tree → .operator operator ∉ tree.tokens)
    (h : ∀ operand ∈ tree.operands operator, P operand) :
    readOperands operator read tree.tokens = some tree := by
  -- Between the places of the operator stand the words of the operands.
  have hpieces : tree.tokens.splitOn (.operator operator) =
      (tree.operands operator).map TypeTree.tokens := by
    conv_lhs => rw [← joinedOf_operands operator tree]
    rw [tokens_joinedOf operands_ne_nil, List.splitOn_intercalate]
    · rintro words hmem
      obtain ⟨operand, hoperand, rfl⟩ := List.mem_map.mp hmem
      exact hwords (h operand hoperand)
    · simpa using operands_ne_nil
  have htrees : ((tree.operands operator).map TypeTree.tokens).mapM read =
      some (tree.operands operator) := by
    rw [Option.mapM_eq_some, List.forall₂_map_left_iff, List.forall₂_same]
    exact fun operand hoperand => hread (h operand hoperand)
  rw [readOperands, hpieces, htrees]
  exact congrArg some (joinedOf_operands operator tree)

/-- Reading operands inverts writing them with the operator in between, if that is so for one
operand and the operator is not among its words. -/
theorem readOperands_eq_some_iff
    (hread : ∀ {tokens tree}, read tokens = some tree ↔ P tree ∧ tree.tokens = tokens)
    (hwords : ∀ {tree}, P tree → .operator operator ∉ tree.tokens) :
    readOperands operator read tokens = some tree ↔
      (∀ operand ∈ tree.operands operator, P operand) ∧ tree.tokens = tokens := by
  refine ⟨of_readOperands hread.mp hwords, ?_⟩
  rintro ⟨h, rfl⟩
  exact readOperands_tokens (fun hP => hread.mpr ⟨hP, rfl⟩) hwords h

end Operands

theorem readIntersection_eq_some_iff :
    readIntersection tokens = some tree ↔ tree.IsIntersection ∧ tree.tokens = tokens :=
  readOperands_eq_some_iff readPostfix_eq_some_iff IsPostfix.operator_notMem

theorem readType_eq_some_iff :
    readType tokens = some tree ↔ tree.IsUnion ∧ tree.tokens = tokens :=
  readOperands_eq_some_iff readIntersection_eq_some_iff IsIntersection.or_notMem

/-- The words of a type are read as that type, operators nested to the right, exactly if nothing in
it needs parentheses. -/
theorem readType_tokens_iff (tree : TypeTree) :
    readType tree.tokens = some tree.flat ↔ tree.Fits := by
  rw [readType_eq_some_iff, tree.fitsByShape.isUnion, and_iff_left (tokens_flat tree)]

/-- A list of a union is read as a union with a list at its end. -/
example : readType (list (joined .or (name "string") (name "number"))).tokens =
    some (joined .or (name "string") (list (name "number"))) := by decide

end Reading
end OpenApiClient
