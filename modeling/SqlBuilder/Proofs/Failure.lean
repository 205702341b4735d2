import SqlBuilder.Proofs.Success

/-!
# How a computation fails

A sequence of computations stops at its first fault, and that fault is its result. Whatever bounds
the faults of the parts therefore bounds the faults of the whole; what a part gave before another
one failed may be used for the bound of that other one.
-/

namespace SqlBuilder

variable {ε α β : Type}

/-- If the computation fails, then with a fault that satisfies `P`. -/
def FailsOnly (x : Except ε α) (P : ε → Prop) : Prop :=
  ∀ e, x = .error e → P e

variable {P Q : ε → Prop} {x : Except ε α} {e : ε}

theorem failsOnly_ok (a : α) : FailsOnly (.ok a) P :=
  fun _ h ↦ nomatch h

theorem failsOnly_error (h : P e) : FailsOnly (.error e : Except ε α) P := by
  rintro _ ⟨⟩
  exact h

namespace FailsOnly

theorem mono (h : FailsOnly x P) (hPQ : ∀ e, P e → Q e) : FailsOnly x Q :=
  fun e he ↦ hPQ e (h e he)

theorem bind {f : α → Except ε β} (hx : FailsOnly x P) (hf : ∀ a, x = .ok a → FailsOnly (f a) P) :
    FailsOnly (x >>= f) P := by
  intro e he
  cases hresult : x with
  | error e' =>
    rw [hresult] at he
    obtain rfl := Except.error.inj he
    exact hx _ hresult
  | ok a =>
    rw [hresult] at he
    exact hf a hresult e he

theorem map (h : FailsOnly x P) (f : α → β) : FailsOnly (f <$> x) P := by
  cases x with
  | ok a => exact failsOnly_ok (f a)
  | error e => exact failsOnly_error (h e rfl)

/-- A check in front of a computation. -/
theorem check {c : Prop} [Decidable c] (he : c → P e) (hx : ¬c → FailsOnly x P) :
    FailsOnly (if c then throw e else x) P := by
  by_cases hc : c
  · rw [if_pos hc]
    exact failsOnly_error (he hc)
  · rw [if_neg hc]
    exact hx hc

theorem mapM {f : α → Except ε β} {as : List α} (h : ∀ a ∈ as, FailsOnly (f a) P) :
    FailsOnly (as.mapM f) P := by
  induction as with
  | nil => exact failsOnly_ok []
  | cons a as ih =>
    obtain ⟨ha, has⟩ := List.forall_mem_cons.mp h
    rw [List.mapM_cons]
    exact ha.bind fun b _ ↦ (ih has).bind fun bs _ ↦ failsOnly_ok _

end FailsOnly

/-- The fault of a computation, if it fails. -/
def fault? : Except ε α → Option ε
  | .ok _ => none
  | .error e => some e

theorem fault?_eq_some_iff : fault? x = some e ↔ x = .error e := by
  cases x with
  | ok a => simp [fault?]
  | error e' => simp [fault?]

theorem fault?_eq_none_iff : fault? x = none ↔ ∃ a, x = .ok a := by
  cases x with
  | ok a => simp [fault?]
  | error e => simp [fault?]

theorem FailsOnly.of_fault? (h : FailsOnly x P) (he : fault? x = some e) : P e :=
  h e (fault?_eq_some_iff.mp he)

theorem failsOnly_of_fault?_eq_none (h : fault? x = none) : FailsOnly x P := by
  obtain ⟨a, rfl⟩ := fault?_eq_none_iff.mp h
  exact failsOnly_ok a

/-- A check of its own in front of a computation. -/
theorem fault?_unless (c : Bool) (e : ε) (x : Except ε α) :
    fault? (do
      unless c do throw e
      x) = if c then fault? x else some e := by
  cases c with
  | false => rfl
  | true => rfl

theorem fault?_discard (x : Except ε α) : fault? (discard x) = fault? x := by
  cases x with
  | ok a => rfl
  | error e => rfl

/-- A computation whose result is not looked at decides only whether there is one. -/
theorem bind_pure_eq_elim (x : Except ε α) (b : β) :
    (x >>= fun _ ↦ pure b) = (fault? x).elim (.ok b) .error := by
  cases x with
  | ok a => rfl
  | error e => rfl

/-- Turning the result into another one fails exactly as the computation does. -/
theorem bind_pure_eq_error_iff {g : α → β} :
    (x >>= fun a ↦ pure (g a)) = .error e ↔ x = .error e := by
  cases x with
  | ok a => simp [bind, Except.bind, pure, Except.pure]
  | error e' => simp [bind, Except.bind]

/-! ## The first of many faults -/

/-- The computation reports the first of the faults, and succeeds if there are none. -/
def ReportsFirst (x : Except ε α) (es : List ε) : Prop :=
  fault? x = es.head?

/-- The faults of a check: one, if what must not hold does. -/
def faultIf (c : Prop) [Decidable c] (e : ε) : List ε :=
  if c then [e] else []

theorem faultIf_eq_nil_iff {c : Prop} [Decidable c] : faultIf c e = [] ↔ ¬c := by
  by_cases hc : c
  · simp [faultIf, hc]
  · simp [faultIf, hc]

theorem reportsFirst_ok (a : α) : ReportsFirst (.ok a : Except ε α) [] :=
  rfl

/-- A check alone. -/
theorem reportsFirst_ite {c : Prop} [Decidable c] (a : α) :
    ReportsFirst (if c then .error e else .ok a : Except ε α) (faultIf c e) := by
  rw [ReportsFirst, faultIf]
  by_cases hc : c
  · rw [if_pos hc, if_pos hc]
    rfl
  · rw [if_neg hc, if_neg hc]
    rfl

namespace ReportsFirst

variable {es es' : List ε}

theorem eq_error_iff (h : ReportsFirst x es) : x = .error e ↔ es.head? = some e := by
  rw [← fault?_eq_some_iff, h]

theorem exists_eq_ok_iff (h : ReportsFirst x es) : (∃ a, x = .ok a) ↔ es = [] := by
  rw [← fault?_eq_none_iff, h, List.head?_eq_none_iff]

theorem bind {f : α → Except ε β} (hx : ReportsFirst x es)
    (hf : ∀ a, x = .ok a → ReportsFirst (f a) es') : ReportsFirst (x >>= f) (es ++ es') := by
  rw [ReportsFirst, List.head?_append, ← hx]
  cases hresult : x with
  | error e => rfl
  | ok a => exact hf a hresult

/-- What is done with the result of a computation fails for nothing else. -/
theorem bind_pure (hx : ReportsFirst x es) (f : α → β) :
    ReportsFirst (x >>= fun a ↦ pure (f a)) es := by
  have hbind := hx.bind fun a _ ↦ reportsFirst_ok (f a)
  rwa [List.append_nil] at hbind

/-- A check in front of a computation. -/
theorem check {c : Prop} [Decidable c] (hx : ¬c → ReportsFirst x es) :
    ReportsFirst (if c then throw e else x) (faultIf c e ++ es) := by
  rw [ReportsFirst, faultIf]
  by_cases hc : c
  · rw [if_pos hc, if_pos hc]
    rfl
  · rw [if_neg hc, if_neg hc]
    exact hx hc

theorem mapM {f : α → Except ε β} {g : α → List ε} {as : List α}
    (h : ∀ a ∈ as, ReportsFirst (f a) (g a)) : ReportsFirst (as.mapM f) (as.flatMap g) := by
  induction as with
  | nil => exact reportsFirst_ok []
  | cons a as ih =>
    obtain ⟨ha, has⟩ := List.forall_mem_cons.mp h
    rw [List.mapM_cons, List.flatMap_cons]
    exact ha.bind fun b _ ↦ (ih has).bind_pure (b :: ·)

end ReportsFirst

end SqlBuilder
