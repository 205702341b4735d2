import Mathlib.Data.List.Forall2

/-!
# When a computation succeeds

Whatever is written is written by computations that stop at the first fault. A sequence of them
succeeds exactly when every one does, which is what takes them apart in the proofs about their
result.
-/

namespace SqlBuilder

variable {ε α β : Type}

theorem bind_eq_ok_iff {x : Except ε α} {f : α → Except ε β} {b : β} :
    x >>= f = .ok b ↔ ∃ a, x = .ok a ∧ f a = .ok b := by
  cases x with
  | error e => simp [bind, Except.bind]
  | ok a => simp [bind, Except.bind]

@[simp] theorem pure_eq_ok_iff {a b : α} : (pure a : Except ε α) = .ok b ↔ a = b := by
  simp [pure, Except.pure]

@[simp] theorem throw_eq_ok_iff {e : ε} {a : α} : (throw e : Except ε α) = .ok a ↔ False := by
  simp [throw, throwThe, MonadExceptOf.throw]

theorem ok_bind {a : α} {f : α → Except ε β} : Except.ok a >>= f = f a :=
  rfl

@[simp] theorem throw_bind {e : ε} {f : α → Except ε β} : (throw e : Except ε α) >>= f = throw e :=
  rfl

/-- What is done with a result is done if there is one. -/
theorem bind_pure_eq_ok_iff {x : Except ε α} {g : α → β} {b : β} :
    (x >>= fun a ↦ pure (g a)) = .ok b ↔ ∃ a, x = .ok a ∧ b = g a := by
  simp only [bind_eq_ok_iff, pure_eq_ok_iff, @eq_comm β b]

/-- A check in front of a computation holds if both together succeed. -/
theorem ite_throw_eq_ok_iff {c : Prop} [Decidable c] {e : ε} {x : Except ε α} {a : α} :
    (if c then throw e else x) = .ok a ↔ ¬c ∧ x = .ok a := by
  by_cases h : c
  · simp [h]
  · simp [h]

theorem ite_ok_eq_ok_iff {c : Prop} [Decidable c] {a b : α} {e : ε} :
    (if c then .ok a else .error e : Except ε α) = .ok b ↔ c ∧ a = b := by
  by_cases hc : c
  · rw [if_pos hc, Except.ok.injEq, and_iff_right hc]
  · rw [if_neg hc]
    simp [hc]

/-- A list of computations succeeds with the list of their results. -/
theorem mapM_eq_ok_iff {f : α → Except ε β} {as : List α} {bs : List β} :
    as.mapM f = .ok bs ↔ List.Forall₂ (fun a b ↦ f a = .ok b) as bs := by
  induction as generalizing bs with
  | nil => rw [List.mapM_nil, pure_eq_ok_iff, List.forall₂_nil_left_iff, eq_comm]
  | cons a as ih =>
    rw [List.mapM_cons, bind_eq_ok_iff]
    constructor
    · rintro ⟨b, hb, h⟩
      obtain ⟨bs, hbs, h⟩ := bind_eq_ok_iff.mp h
      obtain rfl := pure_eq_ok_iff.mp h
      exact List.Forall₂.cons hb (ih.mp hbs)
    · rintro (_ | ⟨hb, hbs⟩)
      exact ⟨_, hb, bind_eq_ok_iff.mpr ⟨_, ih.mpr hbs, rfl⟩⟩

/-- What is done to every result can be done to the list of results. -/
theorem mapM_map_eq {γ : Type} (f : α → Except ε β) (g : β → γ) (as : List α) :
    as.mapM (fun a ↦ g <$> f a) = List.map g <$> as.mapM f := by
  induction as with
  | nil => rfl
  | cons a as ih =>
    rw [List.mapM_cons, List.mapM_cons, ih]
    simp only [map_eq_pure_bind, bind_assoc, pure_bind, List.map_cons]

/-- A property of every result follows from what makes a single computation succeed. -/
theorem forall_mem_of_forall₂ {R : α → β → Prop} {P : β → Prop} {as : List α} {bs : List β}
    (h : List.Forall₂ R as bs) (hR : ∀ a ∈ as, ∀ b, R a b → P b) : ∀ b ∈ bs, P b := by
  induction h with
  | nil => simp
  | @cons a b as bs hab _ ih =>
    rw [List.forall_mem_cons]
    exact ⟨hR a List.mem_cons_self b hab, ih fun a ha ↦ hR a (List.mem_cons_of_mem _ ha)⟩

/-- If all succeed, then each does. -/
theorem exists_of_forall₂ {R : α → β → Prop} {as : List α} {bs : List β}
    (h : List.Forall₂ R as bs) : ∀ a ∈ as, ∃ b, R a b := by
  induction h with
  | nil => simp
  | @cons a b as bs hab _ ih => exact List.forall_mem_cons.mpr ⟨⟨b, hab⟩, ih⟩

/-- What the results contribute in their order is what the arguments do. -/
theorem flatMap_eq_of_forall₂ {γ : Type} {R : α → β → Prop} {g : β → List γ} {g' : α → List γ}
    {as : List α} {bs : List β} (h : List.Forall₂ R as bs)
    (hR : ∀ a ∈ as, ∀ b, R a b → g b = g' a) : bs.flatMap g = as.flatMap g' := by
  induction h with
  | nil => rfl
  | @cons a b as bs hab _ ih =>
    rw [List.flatMap_cons, List.flatMap_cons, hR a List.mem_cons_self b hab,
      ih fun a ha ↦ hR a (List.mem_cons_of_mem _ ha)]

/-- What is measured of the results in their order is what is measured of the arguments. -/
theorem map_eq_of_forall₂ {γ : Type} {R : α → β → Prop} {g : β → γ} {g' : α → γ} {as : List α}
    {bs : List β} (h : List.Forall₂ R as bs) (hR : ∀ a b, R a b → g b = g' a) :
    bs.map g = as.map g' := by
  induction h with
  | nil => rfl
  | cons hab _ ih => rw [List.map_cons, List.map_cons, hR _ _ hab, ih]

/-- What relates a result to its argument relates the results to the images of the arguments. -/
theorem forall₂_map_of_forall₂ {γ : Type} {R : α → β → Prop} {S : β → γ → Prop} {g : α → γ}
    {as : List α} {bs : List β} (h : List.Forall₂ R as bs) (hR : ∀ a ∈ as, ∀ b, R a b → S b (g a)) :
    List.Forall₂ S bs (as.map g) := by
  induction h with
  | nil => exact List.Forall₂.nil
  | @cons a b as bs hab _ ih =>
    exact List.Forall₂.cons (hR a List.mem_cons_self b hab)
      (ih fun a ha ↦ hR a (List.mem_cons_of_mem _ ha))

/-- What relates two arguments relates their results. -/
theorem forall₂_results {R : α → α → Prop} {S : α → β → Prop} {T : β → β → Prop} {as as' : List α}
    {bs bs' : List β} (h : List.Forall₂ R as as') (hbs : List.Forall₂ S as bs)
    (hbs' : List.Forall₂ S as' bs') (hT : ∀ a a' b b', R a a' → S a b → S a' b' → T b b') :
    List.Forall₂ T bs bs' := by
  induction h generalizing bs bs' with
  | nil =>
    cases hbs
    cases hbs'
    exact List.Forall₂.nil
  | @cons a a' as as' ha _ ih =>
    obtain ⟨b, bs, hb, hrest, rfl⟩ := List.forall₂_cons_left_iff.mp hbs
    obtain ⟨b', bs', hb', hrest', rfl⟩ := List.forall₂_cons_left_iff.mp hbs'
    exact List.Forall₂.cons (hT a a' b b' ha hb hb') (ih hrest hrest')

end SqlBuilder
