import SqlBuilder.Proofs.Pieces.Condition
import SqlBuilder.Proofs.Spelling.Expr

/-!
# What conditions write

The operands of a condition are the two sides of its comparisons, from left to right. Around them a
condition writes only operators, connectives and parentheses, so what stands between quotes and what
travels beside the text come from the operands alone.
-/

namespace SqlBuilder

open Reading

variable {T : Set QuotedText} {d : Dialect} {f : Fragment}

namespace Comparison

/-- The two sides of a comparison. -/
def operands (c : Comparison) : List Expr :=
  [c.left, c.right]

theorem fragment_eq_ok_iff {c : Comparison} :
    c.fragment d = .ok f ↔ ∃ l r, c.left.fragment d .operand = .ok l ∧
    c.right.fragment d .operand = .ok r ∧
      f = l ++ .text " " :: .text c.operator.symbol :: .text " " :: r := by
  simp only [fragment, bind_eq_ok_iff, pure_eq_ok_iff]
  constructor
  · rintro ⟨l, hl, r, hr, rfl⟩
    exact ⟨l, r, hl, hr, rfl⟩
  · rintro ⟨l, r, hl, hr, rfl⟩
    exact ⟨l, hl, r, hr, rfl⟩

theorem isText_symbol (o : Operator) : isText o.symbol := by
  cases o <;> decide

theorem sound_fragment (hd : d.Regular) {c : Comparison} (h : c.fragment d = .ok f)
    (hT : ∀ t ∈ c.operands.flatMap Expr.texts, t ∈ T) : f.Sound T := by
  obtain ⟨l, r, hl, hr, rfl⟩ := fragment_eq_ok_iff.mp h
  have hleft : l.Sound T := Expr.sound_fragment hd hl fun t ht ↦ hT t (by simp [operands, ht])
  have hright : r.Sound T := Expr.sound_fragment hd hr fun t ht ↦ hT t (by simp [operands, ht])
  exact hleft.append (Fragment.Tail.text (by decide)
    ((hright.text (by decide)).text (isText_symbol _)))

theorem binds_fragment {c : Comparison} (h : c.fragment d = .ok f) :
    f.binds = c.operands.flatMap Expr.binds := by
  obtain ⟨l, r, hl, hr, rfl⟩ := fragment_eq_ok_iff.mp h
  simp [operands, Expr.binds_fragment hl, Expr.binds_fragment hr]

end Comparison

namespace Predicate

theorem fragments_eq_ok_iff {ps : List Predicate} {fs : List Fragment} :
    fragments d ps = .ok fs ↔ List.Forall₂ (fun p f ↦ p.fragment d = .ok f) ps fs := by
  rw [fragments_eq_mapM, mapM_eq_ok_iff]

theorem fragment_group_eq_ok_iff {combinator : Combinator} {children : List Predicate} :
    (group combinator children).fragment d = .ok f
      ↔ ∃ fs, List.Forall₂ (fun p f ↦ p.fragment d = .ok f) children fs ∧
        f = enclosed children.length (Fragment.joined (separator combinator) fs) := by
  simp only [fragment, bind_eq_ok_iff, fragments_eq_ok_iff, pure_eq_ok_iff, @eq_comm _ f]

/-- The operands of a condition from left to right. -/
def operands (p : Predicate) : List Expr :=
  p.leaves.flatMap Comparison.operands

/-- The operands of conditions from left to right. -/
def operandsAll (ps : List Predicate) : List Expr :=
  ps.flatMap operands

theorem leavesAll_eq_flatMap (ps : List Predicate) : leavesAll ps = ps.flatMap leaves := by
  induction ps with
  | nil => rfl
  | cons p ps ih => rw [leavesAll, ih, List.flatMap_cons]

theorem operands_comparison (c : Comparison) : (comparison c).operands = c.operands := by
  simp [operands, leaves]

theorem operands_group (combinator : Combinator) (children : List Predicate) :
    (group combinator children).operands = operandsAll children := by
  rw [operands, leaves, leavesAll_eq_flatMap, List.flatMap_assoc]
  rfl

theorem isTailText_separator (c : Combinator) : isTailText (separator c) := by
  cases c <;> decide

theorem sound_joined {combinator : Combinator} {fs : List Fragment} (h : ∀ f ∈ fs, f.Sound T) :
    (Fragment.joined (separator combinator) fs).Sound T :=
  Fragment.Sound.joined (isTailText_separator combinator) h

theorem sound_enclosed {size : Nat} (h : f.Sound T) : (enclosed size f).Sound T := by
  rw [enclosed]
  split
  · exact (h.closed (by decide)).text (by decide)
  · exact h

theorem binds_enclosed (size : Nat) (f : Fragment) : (enclosed size f).binds = f.binds := by
  rw [enclosed]
  split
  · simp
  · rfl

theorem sound_fragment (hd : d.Regular) {p : Predicate} (h : p.fragment d = .ok f)
    (hT : ∀ t ∈ p.operands.flatMap Expr.texts, t ∈ T) : f.Sound T := by
  induction p using Predicate.induction generalizing f with
  | comparison c => exact Comparison.sound_fragment hd h (operands_comparison c ▸ hT)
  | group combinator children ih =>
    obtain ⟨fs, hfs, rfl⟩ := fragment_group_eq_ok_iff.mp h
    refine sound_enclosed (sound_joined (forall_mem_of_forall₂ hfs fun p hp f hf ↦ ih p hp hf ?_))
    rw [operands_group, operandsAll, List.flatMap_assoc] at hT
    exact fun t ht ↦ hT t (List.mem_flatMap_of_mem hp ht)

theorem binds_fragment {p : Predicate} (h : p.fragment d = .ok f) :
    f.binds = p.operands.flatMap Expr.binds := by
  induction p using Predicate.induction generalizing f with
  | comparison c => exact operands_comparison c ▸ Comparison.binds_fragment h
  | group combinator children ih =>
    obtain ⟨fs, hfs, rfl⟩ := fragment_group_eq_ok_iff.mp h
    rw [binds_enclosed, Fragment.binds_joined, operands_group, operandsAll, List.flatMap_assoc]
    exact flatMap_eq_of_forall₂ hfs fun p hp _ hf ↦ ih p hp hf

end Predicate

namespace WhereGroup

/-- The operands of a growing condition from left to right. -/
def operands (g : WhereGroup) : List Expr :=
  Predicate.operandsAll g.children

theorem fragment_eq_ok_iff {g : WhereGroup} :
    g.fragment d = .ok f ↔ ∃ fs, List.Forall₂ (fun p f ↦ p.fragment d = .ok f) g.children fs ∧
      f = Fragment.joined (Predicate.separator g.combinator) fs := by
  simp only [fragment, bind_eq_ok_iff, Predicate.fragments_eq_ok_iff, pure_eq_ok_iff, @eq_comm _ f]

theorem sound_fragment (hd : d.Regular) {g : WhereGroup} (h : g.fragment d = .ok f)
    (hT : ∀ t ∈ g.operands.flatMap Expr.texts, t ∈ T) : f.Sound T := by
  obtain ⟨fs, hfs, rfl⟩ := fragment_eq_ok_iff.mp h
  rw [operands, Predicate.operandsAll, List.flatMap_assoc] at hT
  refine Predicate.sound_joined (forall_mem_of_forall₂ hfs ?_)
  intro p hp f hf
  exact Predicate.sound_fragment hd hf fun t ht ↦ hT t (List.mem_flatMap_of_mem hp ht)

theorem binds_fragment {g : WhereGroup} (h : g.fragment d = .ok f) :
    f.binds = g.operands.flatMap Expr.binds := by
  obtain ⟨fs, hfs, rfl⟩ := fragment_eq_ok_iff.mp h
  rw [Fragment.binds_joined, operands, Predicate.operandsAll, List.flatMap_assoc]
  exact flatMap_eq_of_forall₂ hfs fun _ _ _ hf ↦ Predicate.binds_fragment hf

end WhereGroup

end SqlBuilder
