import Mathlib.Data.List.Forall2

/-!
# Results

Taking apart computations that give a value or an error: what a sequence of two steps, a step for
every item of a list, and a fold say about their parts when the whole succeeds or fails.  A list
of results belongs item by item to the list that it was computed from.
-/

namespace OpenApiClient

variable {α β γ : Type} {R : α → β → Prop} {as : List α} {bs : List β}

theorem exists_left_of_forall₂ (h : List.Forall₂ R as bs) {b : β} (hb : b ∈ bs) :
    ∃ a ∈ as, R a b := by
  induction h with
  | nil => simp at hb
  | cons hab _ ih =>
      rcases List.mem_cons.mp hb with rfl | hb
      · exact ⟨_, List.mem_cons_self, hab⟩
      · obtain ⟨a, ha, hab⟩ := ih hb
        exact ⟨a, List.mem_cons_of_mem _ ha, hab⟩

theorem exists_right_of_forall₂ (h : List.Forall₂ R as bs) {a : α} (ha : a ∈ as) :
    ∃ b ∈ bs, R a b :=
  exists_left_of_forall₂ (List.Forall₂.flip h) ha

theorem forall₂_of_zip (hlength : bs.length = as.length)
    (h : ∀ pair ∈ as.zip bs, R pair.1 pair.2) : List.Forall₂ R as bs :=
  List.forall₂_iff_zip.mpr ⟨hlength.symm, fun hmem => h _ hmem⟩

theorem forall₂_imp_of_mem {S : α → β → Prop} (h : List.Forall₂ R as bs)
    (step : ∀ a ∈ as, ∀ b ∈ bs, R a b → S a b) : List.Forall₂ S as bs := by
  obtain ⟨hlength, hzip⟩ := List.forall₂_iff_zip.mp h
  refine List.forall₂_iff_zip.mpr ⟨hlength, fun {a b} hmem => ?_⟩
  obtain ⟨ha, hb⟩ := List.of_mem_zip hmem
  exact step a ha b hb (hzip hmem)

theorem map_eq_of_forall₂ (h : List.Forall₂ R as bs) {f : α → γ} {g : β → γ}
    (step : ∀ a b, R a b → f a = g b) : as.map f = bs.map g := by
  rw [← List.forall₂_eq_eq_eq, List.forall₂_map_left_iff, List.forall₂_map_right_iff]
  exact h.imp step

/-- The same results for lists that belong to each other item by item. -/
theorem mapM_eq_of_forall₂ {m : Type → Type} [Monad m] [LawfulMonad m] {δ : Type}
    (h : List.Forall₂ R as bs) {f : α → m δ} {g : β → m δ}
    (step : ∀ a b, R a b → f a = g b) : as.mapM f = bs.mapM g := by
  induction h with
  | nil => rfl
  | cons hab _ ih => rw [List.mapM_cons, List.mapM_cons, step _ _ hab, ih]

theorem mapM_congr_of_mem {m : Type → Type} [Monad m] [LawfulMonad m] {δ : Type} {f g : α → m δ}
    (h : ∀ a ∈ as, f a = g a) : as.mapM f = as.mapM g := by
  have hsame : List.Forall₂ (fun a a' => a = a' ∧ a ∈ as) as as :=
    List.forall₂_same.mpr fun a ha => ⟨rfl, ha⟩
  refine mapM_eq_of_forall₂ hsame ?_
  rintro a _ ⟨rfl, ha⟩
  exact h a ha

theorem Option.mapM_eq_some {f : α → Option β} {items : List α} {results : List β} :
    items.mapM f = some results ↔ List.Forall₂ (fun a b => f a = some b) items results := by
  induction items generalizing results with
  | nil => cases results <;> simp
  | cons a items ih =>
      rw [List.mapM_cons, List.forall₂_cons_left_iff]
      simp only [Option.bind_eq_bind, Option.bind_eq_some_iff, ih]
      constructor
      · rintro ⟨b, hb, bs, hbs, h⟩
        exact ⟨b, bs, hb, hbs, (Option.some.inj h).symm⟩
      · rintro ⟨b, bs, hb, hbs, rfl⟩
        exact ⟨b, hb, bs, hbs, rfl⟩

/-- Two lists that belong to a common third list belong to each other. -/
theorem forall₂_of_common {S : α → γ → Prop} {T : β → γ → Prop} {cs : List γ}
    (hb : List.Forall₂ R as bs) (hc : List.Forall₂ S as cs)
    (step : ∀ a ∈ as, ∀ b ∈ bs, ∀ c ∈ cs, R a b → S a c → T b c) : List.Forall₂ T bs cs := by
  induction hb generalizing cs with
  | nil =>
      cases hc
      exact .nil
  | @cons a b as bs hab hbs ih =>
      obtain ⟨c, cs, hac, hcs, rfl⟩ := List.forall₂_cons_left_iff.mp hc
      refine .cons (step a (by simp) b (by simp) c (by simp) hab hac) (ih hcs ?_)
      intro a ha b hb c hc
      exact step a (List.mem_cons_of_mem _ ha) b (List.mem_cons_of_mem _ hb) c
        (List.mem_cons_of_mem _ hc)

end OpenApiClient

namespace Except

variable {ε α β : Type}

theorem bind_eq_ok {x : Except ε α} {f : α → Except ε β} {b : β} :
    (x >>= f) = .ok b ↔ ∃ a, x = .ok a ∧ f a = .ok b := by
  cases x with
  | error e => simp [bind, Except.bind]
  | ok a => simp [bind, Except.bind]

theorem bind_eq_error {x : Except ε α} {f : α → Except ε β} {e : ε} :
    (x >>= f) = .error e ↔ x = .error e ∨ ∃ a, x = .ok a ∧ f a = .error e := by
  cases x with
  | error e => simp [bind, Except.bind]
  | ok a => simp [bind, Except.bind]

theorem bind_congr_of_ok {x : Except ε α} {f g : α → Except ε β}
    (h : ∀ a, x = .ok a → f a = g a) : (x >>= f) = (x >>= g) := by
  cases x with
  | error e => rfl
  | ok a => exact h a rfl

theorem exists_bind_eq_ok {x : Except ε α} {f : α → Except ε β} (h : ∃ a, x = .ok a)
    (step : ∀ a, ∃ b, f a = .ok b) : ∃ b, (x >>= f) = .ok b := by
  obtain ⟨a, ha⟩ := h
  obtain ⟨b, hb⟩ := step a
  exact ⟨b, bind_eq_ok.mpr ⟨a, ha, hb⟩⟩

theorem mapError_eq_ok {ε' : Type} {x : Except ε α} {f : ε → ε'} {a : α} :
    x.mapError f = .ok a ↔ x = .ok a := by
  cases x <;> simp [Except.mapError]

theorem exists_of_isOk {x : Except ε α} (h : x.isOk = true) : ∃ a, x = .ok a := by
  cases x with
  | error e => cases h
  | ok a => exact ⟨a, rfl⟩

theorem isOk_map {x : Except ε α} {f : α → β} : (f <$> x).isOk = x.isOk := by
  cases x <;> rfl

theorem isOk_bind_iff {x : Except ε α} {f : α → Except ε β} {ok : Prop}
    (step : ∀ a, (f a).isOk = true ↔ ok) : (x >>= f).isOk = true ↔ x.isOk = true ∧ ok := by
  cases x with
  | error e => exact iff_of_false Bool.false_ne_true fun h => Bool.false_ne_true h.1
  | ok a => exact (step a).trans ⟨fun h => ⟨rfl, h⟩, And.right⟩

theorem exists_error_iff {x : Except ε α} : (∃ e, x = .error e) ↔ ¬ x.isOk = true := by
  cases x with
  | error e => exact iff_of_true ⟨e, rfl⟩ Bool.false_ne_true
  | ok a => exact iff_of_false (by simp) (not_not.mpr rfl)

theorem mapM_eq_ok {f : α → Except ε β} {items : List α} {results : List β} :
    items.mapM f = .ok results ↔ List.Forall₂ (fun a b => f a = .ok b) items results := by
  induction items generalizing results with
  | nil => cases results <;> simp [pure, Except.pure]
  | cons a items ih =>
      rw [List.mapM_cons, List.forall₂_cons_left_iff]
      simp only [bind_eq_ok, ih]
      constructor
      · rintro ⟨b, hb, bs, hbs, h⟩
        exact ⟨b, bs, hb, hbs, (Except.ok.inj h).symm⟩
      · rintro ⟨b, bs, hb, hbs, rfl⟩
        exact ⟨b, hb, bs, hbs, rfl⟩

/-- What a step says of its item and its result says so of all items and results. -/
theorem map_eq_of_mapM_eq_ok {γ : Type} {f : α → Except ε β} {g : β → γ} {g' : α → γ}
    {items : List α} {results : List β} (h : items.mapM f = .ok results)
    (step : ∀ a b, f a = .ok b → g b = g' a) : results.map g = items.map g' :=
  (OpenApiClient.map_eq_of_forall₂ (mapM_eq_ok.mp h) fun a b hab => (step a b hab).symm).symm

theorem exists_of_mapM_eq_error {f : α → Except ε β} {items : List α} {e : ε}
    (h : items.mapM f = .error e) : ∃ a ∈ items, f a = .error e := by
  induction items with
  | nil => simp [pure, Except.pure] at h
  | cons a items ih =>
      rw [List.mapM_cons] at h
      rcases bind_eq_error.mp h with ha | ⟨b, -, h⟩
      · exact ⟨a, List.mem_cons_self, ha⟩
      · rcases bind_eq_error.mp h with hitems | ⟨bs, -, h⟩
        · obtain ⟨a', ha', h'⟩ := ih hitems
          exact ⟨a', List.mem_cons_of_mem a ha', h'⟩
        · cases h

theorem exists_mapM_eq_ok {f : α → Except ε β} {items : List α}
    (h : ∀ a ∈ items, ∃ b, f a = .ok b) : ∃ results, items.mapM f = .ok results := by
  cases hrun : items.mapM f with
  | ok results => exact ⟨results, rfl⟩
  | error e =>
      obtain ⟨a, ha, herror⟩ := exists_of_mapM_eq_error hrun
      obtain ⟨b, hb⟩ := h a ha
      cases herror.symm.trans hb

/-- What every step of a fold preserves holds at its end. -/
theorem foldlM_invariant {f : β → α → Except ε β} {motive : β → Prop} {items : List α}
    (step : ∀ b, ∀ a ∈ items, ∀ b', motive b → f b a = .ok b' → motive b') {b b' : β}
    (hb : motive b) (h : items.foldlM f b = .ok b') : motive b' := by
  induction items generalizing b with
  | nil => exact Except.ok.inj h ▸ hb
  | cons a items ih =>
      rw [List.foldlM_cons] at h
      obtain ⟨c, hc, h⟩ := bind_eq_ok.mp h
      refine ih (fun b a ha => step b a (List.mem_cons_of_mem _ ha)) ?_ h
      exact step b a List.mem_cons_self c hb hc

/-- A fold passes over an item that changes no state. -/
theorem foldlM_append_cons {f : β → α → Except ε β} {a : α} (h : ∀ b, f b a = .ok b)
    (as items : List α) (b : β) : (as ++ a :: items).foldlM f b = (as ++ items).foldlM f b := by
  rw [List.foldlM_append, List.foldlM_append]
  refine bind_congr_of_ok fun c _ => ?_
  rw [List.foldlM_cons, h]
  rfl

/-- Where the state does not decide whether a step succeeds, a fold succeeds if all steps do. -/
theorem isOk_foldlM_iff {f : β → α → Except ε β} {ok : α → Prop} (items : List α)
    (step : ∀ b a, (f b a).isOk = true ↔ ok a) (b : β) :
    (items.foldlM f b).isOk = true ↔ ∀ a ∈ items, ok a := by
  induction items generalizing b with
  | nil => exact iff_of_true rfl (by simp)
  | cons a items ih =>
      rw [List.foldlM_cons, List.forall_mem_cons, ← step b a]
      cases f b a with
      | error e => exact iff_of_false Bool.false_ne_true fun h => Bool.false_ne_true h.1
      | ok c => exact (ih c).trans ⟨fun h => ⟨rfl, h⟩, And.right⟩

end Except
