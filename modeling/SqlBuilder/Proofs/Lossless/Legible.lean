import SqlBuilder.Proofs.Symbols.Basic

/-!
# Legible writing

Something is written legibly if what is written in front of a rest determines both: the thing, and
where the rest begins. Legible things can be put one behind another, into lists with separators and
behind keywords, and whatever is put together this way can be taken apart again.

A point joins what stands on both sides of it, so no rest may begin with one; and what ends a list
may not begin with the separator of the list.
-/

namespace SqlBuilder

namespace Symbol

/-- The symbols do not begin with a point. -/
def Unpointed (r : List Symbol) : Prop :=
  r.head? ≠ some (word ".")

/-- What is written of `a` in front of a rest is not written of anything else with the property in
front of another rest. -/
def Legible {α : Type} (write : α → List Symbol) (P : α → Prop) (a : α) : Prop :=
  ∀ ⦃b r r'⦄, P b → Unpointed r → Unpointed r' → write a ++ r = write b ++ r' → a = b ∧ r = r'

variable {α : Type} {write : α → List Symbol} {P : α → Prop} {s : Symbol} {as bs : List α}
  {r r' : List Symbol}

theorem word_injective {v w : String} (h : word v = word w) : v = w := by
  rw [word, word, Symbol.token.injEq, Reading.Token.word.injEq] at h
  exact String.toList_inj.mp h

theorem head?_ne_of_begins {ws : List String} (h : Begins ws r) (hs : ∀ w ∈ ws, word w ≠ s) :
    r.head? ≠ some s := by
  intro hhead
  obtain ⟨w, hw, rfl⟩ := h s hhead
  exact hs w hw rfl

/-- What begins with other words does not begin with this one. -/
theorem head?_ne_word {ws : List String} (h : Begins ws r) {w : String} (hw : w ∉ ws) :
    r.head? ≠ some (word w) := by
  refine head?_ne_of_begins h ?_
  intro v hv heq
  rw [word_injective heq] at hv
  exact hw hv

theorem unpointed_of_begins {ws : List String} (h : Begins ws r) (hws : "." ∉ ws) : Unpointed r :=
  head?_ne_word h hws

theorem unpointed_cons (hs : s ≠ word ".") (r : List Symbol) : Unpointed (s :: r) := by
  simpa [Unpointed] using hs

/-- A name is legible. -/
theorem legible_name (n : String) :
    Legible (fun n ↦ [.token (.name n)]) (fun _ ↦ True) n := by
  intro b r r' _ _ _ h
  simpa using h

/-! ## Lists -/

/-- The rest of a list with separators goes on with a separator or with what stands behind
the list. -/
theorem unpointed_flatMap (hs : s ≠ word ".") (hr : Unpointed r) (as : List α) :
    Unpointed (as.flatMap (fun a ↦ s :: write a) ++ r) := by
  cases as with
  | nil => exact hr
  | cons a as => exact unpointed_cons hs _

/-- Further elements, each behind a separator, are found again. -/
theorem flatMap_inj (hs : s ≠ word ".") (has : ∀ a ∈ as, Legible write P a) (hbs : ∀ b ∈ bs, P b)
    (hr : Unpointed r) (hr' : Unpointed r') (hend : r.head? ≠ some s) (hend' : r'.head? ≠ some s)
    (h : as.flatMap (fun a ↦ s :: write a) ++ r = bs.flatMap (fun b ↦ s :: write b) ++ r') :
    as = bs ∧ r = r' := by
  -- If one list ends before the other, the rest behind it begins with the separator.
  induction as generalizing bs with
  | nil =>
    cases bs with
    | nil => exact ⟨rfl, h⟩
    | cons b bs =>
      obtain rfl : r = _ := h
      exact absurd rfl hend
  | cons a as ih =>
    cases bs with
    | nil =>
      obtain rfl : _ = r' := h
      exact absurd rfl hend'
    | cons b bs =>
      rw [List.forall_mem_cons] at has hbs
      simp only [List.flatMap_cons, List.cons_append, List.append_assoc, List.cons.injEq,
        true_and] at h
      obtain ⟨rfl, hrest⟩ :=
        has.1 hbs.1 (unpointed_flatMap hs hr as) (unpointed_flatMap hs hr' bs) h
      obtain ⟨rfl, hend⟩ := ih has.2 hbs.2 hrest
      exact ⟨rfl, hend⟩

/-- A list with separators that is not empty is found again. -/
theorem separated_inj (hs : s ≠ word ".") (has : ∀ a ∈ as, Legible write P a) (hbs : ∀ b ∈ bs, P b)
    (hne : as ≠ []) (hne' : bs ≠ []) (hr : Unpointed r) (hr' : Unpointed r')
    (hend : r.head? ≠ some s) (hend' : r'.head? ≠ some s)
    (h : separated s (as.map write) ++ r = separated s (bs.map write) ++ r') :
    as = bs ∧ r = r' := by
  obtain ⟨a, as, rfl⟩ := List.exists_cons_of_ne_nil hne
  obtain ⟨b, bs, rfl⟩ := List.exists_cons_of_ne_nil hne'
  rw [List.forall_mem_cons] at has hbs
  simp only [List.map_cons, separated_cons, List.append_assoc, List.flatMap_map] at h
  obtain ⟨rfl, hrest⟩ := has.1 hbs.1 (unpointed_flatMap hs hr as) (unpointed_flatMap hs hr' bs) h
  obtain ⟨rfl, hbehind⟩ := flatMap_inj hs has.2 hbs.2 hr hr' hend hend' hrest
  exact ⟨rfl, hbehind⟩

/-- A list that is not empty is found again up to the parenthesis behind it. -/
theorem closed_inj (has : ∀ a ∈ as, Legible write P a) (hbs : ∀ b ∈ bs, P b) (hne : as ≠ [])
    (hne' : bs ≠ [])
    (h : separated (.token .comma) (as.map write) ++ .token .closing :: r
      = separated (.token .comma) (bs.map write) ++ .token .closing :: r') :
    as = bs ∧ r = r' := by
  have hpoint (t : List Symbol) : Unpointed (.token .closing :: t) :=
    unpointed_cons (by simp [word]) t
  obtain ⟨hlist, hrest⟩ := separated_inj (by simp [word]) has hbs hne hne' (hpoint r) (hpoint r')
    (by simp) (by simp) h
  exact ⟨hlist, (List.cons.inj hrest).2⟩

/-- It is found again whether words were asked for. -/
theorem phrase_inj {w : String} {words : List String} {asked asked' : Bool}
    (hr : r.head? ≠ some (word w)) (hr' : r'.head? ≠ some (word w))
    (h : phrase asked (w :: words) ++ r = phrase asked' (w :: words) ++ r') :
    asked = asked' ∧ r = r' := by
  cases asked with
  | false =>
    cases asked' with
    | false => exact ⟨rfl, h⟩
    | true =>
      obtain rfl : r = _ := h
      exact absurd rfl hr
  | true =>
    cases asked' with
    | false =>
      obtain rfl : _ = r' := h
      exact absurd rfl hr'
    | true => exact ⟨rfl, List.append_cancel_left h⟩

/-- A clause is found again, and also whether there is one. -/
theorem clause_inj {w : String} {words : List String} (has : ∀ a ∈ as, Legible write P a)
    (hbs : ∀ b ∈ bs, P b) {ws : List String} (hr : Begins ws r) (hr' : Begins ws r')
    (hpoint : "." ∉ ws) (hw : w ∉ ws)
    (h : clause (w :: words) (as.map write) ++ r = clause (w :: words) (bs.map write) ++ r') :
    as = bs ∧ r = r' := by
  have hbehind {t : List Symbol} (ht : Begins ws t) :
      t.head? ≠ some (word w) ∧ t.head? ≠ some (.token .comma) :=
    ⟨head?_ne_word ht hw, head?_ne_of_begins ht fun _ _ ↦ by simp [word]⟩
  cases as with
  | nil =>
    cases bs with
    | nil => exact ⟨rfl, h⟩
    | cons b bs =>
      obtain rfl : r = _ := h
      exact absurd rfl (hbehind hr).1
  | cons a as =>
    cases bs with
    | nil =>
      obtain rfl : _ = r' := h
      exact absurd rfl (hbehind hr').1
    | cons b bs =>
      simp only [clause, List.map_cons, List.isEmpty_cons, Bool.false_eq_true, if_false,
        List.append_assoc, List.append_cancel_left_eq] at h
      exact separated_inj (by simp [word]) has hbs (by simp) (by simp)
        (unpointed_of_begins hr hpoint) (unpointed_of_begins hr' hpoint) (hbehind hr).2
        (hbehind hr').2 (by simpa using h)

end Symbol

end SqlBuilder
