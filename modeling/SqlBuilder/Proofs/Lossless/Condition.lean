import SqlBuilder.Proofs.Condition.Leaves
import SqlBuilder.Proofs.Lossless.Expr
import SqlBuilder.Proofs.Symbols.Condition

/-!
# Conditions are legible up to groups with one child

A group with one child is written as the child, so the text cannot tell the two apart. It tells
apart everything else: a condition is compact if each of its groups has at least two children, every
condition without empty groups has a compact form that is written with the same symbols, and compact
conditions are legible.
-/

namespace SqlBuilder

open Reading SqlBuilder.Symbol

variable {d : Dialect}

/-! ## Comparisons -/

namespace Operator

/-- The words of an operator are no beginning of those of another one, unless a negation follows. -/
theorem eq_of_words_append {o o' : Operator} {ws : List String} (h : o'.words = o.words ++ ws) :
    o' = o ∧ ws = [] ∨ ws = ["NOT"] := by
  cases o <;> cases o' <;> simp_all [words]

theorem words_inj_of_prefix {o o' : Operator} {r r' t : List Symbol}
    (hr : r.head? ≠ some (word "NOT")) (hwords : o'.words.map word = o.words.map word ++ t)
    (hrest : r = t ++ r') : o = o' ∧ r = r' := by
  obtain ⟨ws, vs, hsplit, hws, rfl⟩ := List.map_eq_append_iff.mp hwords
  have hsame : ws = o.words := (List.map_injective_iff.mpr fun _ _ ↦ word_injective) hws
  rw [hsame] at hsplit
  obtain ⟨rfl, rfl⟩ | rfl := eq_of_words_append hsplit
  · exact ⟨rfl, hrest⟩
  · exact absurd (by rw [hrest]; rfl) hr

/-- The words of an operator are found again, since no operand begins with a negation. -/
theorem words_inj {o o' : Operator} {r r' : List Symbol} (hr : r.head? ≠ some (word "NOT"))
    (hr' : r'.head? ≠ some (word "NOT")) (h : o.words.map word ++ r = o'.words.map word ++ r') :
    o = o' ∧ r = r' := by
  obtain ⟨t, hwords, hrest⟩ | ⟨t, hwords, hrest⟩ := List.append_eq_append_iff.mp h
  · exact words_inj_of_prefix hr hwords hrest
  · obtain ⟨rfl, rfl⟩ := words_inj_of_prefix hr' hwords hrest
    exact ⟨rfl, rfl⟩

end Operator

namespace Comparison

/-- Both sides of the comparison can be written. -/
def IsWritable (d : Dialect) (c : Comparison) : Prop :=
  c.left.IsWritable d ∧ c.right.IsWritable d

theorem isWritable_of_fragment {c : Comparison} {f : Fragment} (h : c.fragment d = .ok f) :
    c.IsWritable d := by
  obtain ⟨l, r, hl, hr, -⟩ := fragment_eq_ok_iff.mp h
  exact ⟨⟨.operand, l, by simp, hl⟩, ⟨.operand, r, by simp, hr⟩⟩

/-- Comparisons are legible. -/
theorem legible (hd : d ∈ Dialect.builtIn) {c : Comparison} (hc : c.IsWritable d) :
    Legible (symbols d) (IsWritable d) c := by
  intro b r r' hb hr hr' h
  have hpoint (o : Operator) (t : List Symbol) : Unpointed (o.words.map word ++ t) := by
    cases o <;> exact unpointed_cons (by decide) _
  have hside {e : Expr} (he : e.IsWritable d) (t : List Symbol) :
      (e.symbols d ++ t).head? ≠ some (word "NOT") := by
    obtain ⟨s, ss, hs, hown⟩ := Expr.exists_symbols_eq_cons hd he
    rw [hs]
    rintro ⟨⟩
    exact absurd hown (by decide)
  simp only [symbols, List.append_assoc] at h
  obtain ⟨hleft, hrest⟩ := Expr.legible hd hc.1 hb.1 (hpoint _ _) (hpoint _ _) h
  obtain ⟨hoperator, hrest⟩ := Operator.words_inj (hside hc.2 r) (hside hb.2 r') hrest
  obtain ⟨hright, hrest⟩ := Expr.legible hd hc.2 hb.2 hr hr' hrest
  refine ⟨?_, hrest⟩
  cases c
  cases b
  simp_all

end Comparison

/-! ## Compact conditions -/

namespace Predicate

/-- The condition of the children, where one child stands for itself. -/
def collapse (c : Combinator) : List Predicate → Predicate
  | [p] => p
  | ps => .group c ps

mutual

/-- The condition with every group of one child replaced by the child. -/
def collapsed : Predicate → Predicate
  | .comparison c => .comparison c
  | .group c children => collapse c (collapsedAll children)

/-- The conditions with every group of one child replaced by the child. -/
def collapsedAll : List Predicate → List Predicate
  | [] => []
  | p :: ps => p.collapsed :: collapsedAll ps

end

theorem collapsedAll_eq_map (ps : List Predicate) : collapsedAll ps = ps.map collapsed := by
  induction ps with
  | nil => rfl
  | cons p ps ih => rw [collapsedAll, ih, List.map_cons]

theorem symbols_collapse (c : Combinator) (ps : List Predicate) :
    (collapse c ps).symbols d
      = Symbol.enclosed ps.length (separated (word c.keyword) (ps.map (symbols d))) := by
  match ps with
  | [] => rfl
  | [p] => rfl
  | p :: q :: ps => rw [collapse, symbols, symbolsAll_eq_map]; simp

/-- The compact form is written with the same symbols. -/
theorem symbols_collapsed (p : Predicate) : p.collapsed.symbols d = p.symbols d := by
  induction p using Predicate.induction with
  | comparison c => rfl
  | group c children ih =>
    have hchildren : (children.map collapsed).map (symbols d) = children.map (symbols d) := by
      rw [List.map_map]
      exact List.map_congr_left ih
    rw [collapsed, symbols_collapse, collapsedAll_eq_map, hchildren, List.length_map, symbols,
      symbolsAll_eq_map]

/-- Each group has at least two children, and every comparison can be written. -/
inductive IsCompact (d : Dialect) : Predicate → Prop
  | comparison {c : Comparison} (hc : c.IsWritable d) : IsCompact d (.comparison c)
  | group {c : Combinator} {children : List Predicate} (hlength : 2 ≤ children.length)
      (h : ∀ p ∈ children, IsCompact d p) : IsCompact d (.group c children)

theorem isCompact_collapsed {p : Predicate} (hfull : p.isFull) {f : Fragment}
    (h : p.fragment d = .ok f) : p.collapsed.IsCompact d := by
  induction p using Predicate.induction generalizing f with
  | comparison c => exact .comparison (Comparison.isWritable_of_fragment h)
  | group c children ih =>
    obtain ⟨hne, hall⟩ := isFull_group_iff.mp hfull
    obtain ⟨fs, hfs, -⟩ := fragment_group_eq_ok_iff.mp h
    have hcompact : ∀ p ∈ children.map collapsed, p.IsCompact d := by
      intro q hq
      obtain ⟨p, hp, rfl⟩ := List.mem_map.mp hq
      obtain ⟨f, hf⟩ := exists_of_forall₂ hfs p hp
      exact ih p hp (hall p hp) hf
    rw [collapsed, collapsedAll_eq_map]
    obtain ⟨p, ps, rfl⟩ := List.exists_cons_of_ne_nil hne
    cases ps with
    | nil => exact hcompact _ (by simp [collapse])
    | cons q ps => exact .group (by simp) hcompact

/-! ## Legibility -/

theorem keyword_inj {c c' : Combinator} (h : word c.keyword = word c'.keyword) : c = c' := by
  have hkeyword := word_injective h
  cases c <;> cases c' <;> simp_all [Combinator.keyword]

/-- Conditions with a connective between them are found again, and the connective too if there is
one. -/
theorem joined_inj {c c' : Combinator} {ps qs : List Predicate}
    (hps : ∀ p ∈ ps, Legible (symbols d) (IsCompact d) p) (hqs : ∀ q ∈ qs, q.IsCompact d)
    (hne : ps ≠ []) (hne' : qs ≠ []) {r r' : List Symbol} (hr : Unpointed r) (hr' : Unpointed r')
    (hend : ∀ c : Combinator, r.head? ≠ some (word c.keyword))
    (hend' : ∀ c : Combinator, r'.head? ≠ some (word c.keyword))
    (h : separated (word c.keyword) (ps.map (symbols d)) ++ r
      = separated (word c'.keyword) (qs.map (symbols d)) ++ r') :
    ps = qs ∧ r = r' ∧ (2 ≤ ps.length → c = c') := by
  have hkeyword (c : Combinator) : word c.keyword ≠ word "." := by
    cases c <;> decide
  obtain ⟨p, ps, rfl⟩ := List.exists_cons_of_ne_nil hne
  obtain ⟨q, qs, rfl⟩ := List.exists_cons_of_ne_nil hne'
  rw [List.forall_mem_cons] at hps hqs
  simp only [List.map_cons, separated_cons, List.append_assoc, List.flatMap_map] at h
  obtain ⟨rfl, hrest⟩ := hps.1 hqs.1 (unpointed_flatMap (hkeyword c) hr ps)
    (unpointed_flatMap (hkeyword c') hr' qs) h
  by_cases hc : c = c'
  · subst hc
    obtain ⟨rfl, hbehind⟩ := flatMap_inj (hkeyword c) hps.2 hqs.2 hr hr' (hend c) (hend' c) hrest
    exact ⟨rfl, hbehind, fun _ ↦ rfl⟩
  · -- With different connectives there can be no second condition on either side.
    cases ps with
    | nil =>
      cases qs with
      | nil => exact ⟨rfl, hrest, by simp⟩
      | cons q qs =>
        obtain rfl : r = _ := hrest
        exact absurd rfl (hend c')
    | cons p ps =>
      cases qs with
      | nil =>
        obtain rfl : _ = r' := hrest
        exact absurd rfl (hend' c)
      | cons q qs => exact absurd (keyword_inj (List.cons.inj hrest).1) hc

/-- Compact conditions are legible. -/
theorem legible (hd : d ∈ Dialect.builtIn) {p : Predicate} (hp : p.IsCompact d) :
    Legible (symbols d) (IsCompact d) p := by
  -- Only a group begins with a parenthesis.
  have hopening {c : Comparison} (hc : c.IsWritable d) {t t' : List Symbol} :
      c.symbols d ++ t ≠ .token .opening :: t' := by
    obtain ⟨s, ss, hs, hown⟩ := Expr.exists_symbols_eq_cons hd hc.1
    rw [Comparison.symbols, hs]
    rintro ⟨⟩
    exact absurd hown (by decide)
  have hgroup {c : Combinator} {children : List Predicate} (hlength : 2 ≤ children.length) :
      (group c children).symbols d = .token .opening
        :: (separated (word c.keyword) (children.map (symbols d)) ++ [.token .closing]) := by
    rw [symbols, symbolsAll_eq_map, Symbol.enclosed, if_pos (by omega)]
  induction p using Predicate.induction with
  | comparison c =>
    intro b r r' hb hr hr' h
    cases hp with
    | comparison hc =>
      cases hb with
      | comparison hc' =>
        obtain ⟨rfl, hrest⟩ := Comparison.legible hd hc hc' hr hr' h
        exact ⟨rfl, hrest⟩
      | group hlength _ =>
        rw [hgroup hlength] at h
        exact absurd h (hopening hc)
  | group c children ih =>
    intro b r r' hb hr hr' h
    cases hp with
    | group hlength hchildren =>
      rw [hgroup hlength] at h
      cases hb with
      | comparison hc' => exact absurd h.symm (hopening hc')
      | @group c' children' hlength' hchildren' =>
        rw [hgroup hlength'] at h
        simp only [List.cons_append, List.append_assoc, List.cons.injEq, true_and,
          List.nil_append] at h
        have hne {ps : List Predicate} (hps : 2 ≤ ps.length) : ps ≠ [] := by
          rintro rfl
          simp at hps
        obtain ⟨rfl, hrest, hc⟩ := joined_inj (fun p hmem ↦ ih p hmem (hchildren p hmem)) hchildren'
          (hne hlength) (hne hlength') (unpointed_cons (by decide) r)
          (unpointed_cons (by decide) r') (by simp [word]) (by simp [word]) h
        exact ⟨by rw [hc hlength], (List.cons.inj hrest).2⟩

end Predicate

end SqlBuilder
