import SqlBuilder.Proofs.Lossless.Condition
import SqlBuilder.Proofs.Symbols.Select

/-!
# A selection can be read back

The query that a selection gives determines the selection, up to what its text cannot show: a group
of one condition is the condition, and with a single condition nothing is joined.

The values of a query and the placeholders in its text together give the symbols back, and the
symbols are taken apart from left to right. Every clause begins with a word of its own, so each part
is known to end where the next one begins.
-/

namespace SqlBuilder

open Reading SqlBuilder.Symbol

variable {d : Dialect} {r r' : List Symbol}

/-! ## Parts of a selection -/

theorem Symbol.optional_inj {b b' : Bool} {w : String} (hr : r.head? ≠ some (word w))
    (hr' : r'.head? ≠ some (word w)) (h : optional b w ++ r = optional b' w ++ r') :
    b = b' ∧ r = r' := by
  rw [optional_eq_phrase, optional_eq_phrase] at h
  exact phrase_inj hr hr' h

theorem Symbol.number_inj {n n' : Option UInt64} {w : String} (hr : r.head? ≠ some (word w))
    (hr' : r'.head? ≠ some (word w)) (h : number w n ++ r = number w n' ++ r') :
    n = n' ∧ r = r' := by
  cases n with
  | none =>
    cases n' with
    | none => exact ⟨rfl, h⟩
    | some n' =>
      obtain rfl : r = _ := h
      exact absurd rfl hr
  | some n =>
    cases n' with
    | none =>
      obtain rfl : _ = r' := h
      exact absurd rfl hr'
    | some n' =>
      simp only [number, List.cons_append, List.nil_append, List.cons.injEq, true_and] at h
      have htext := Nat.repr_injective (word_injective h.1)
      exact ⟨by rw [UInt64.toNat_inj.mp htext], h.2⟩

namespace WhereGroup

/-- Two conditions with the same compact form, joined in the same way wherever the text
shows how. -/
structure Alike (g g' : WhereGroup) : Prop where
  /-- The conditions are the same, up to groups of one condition. -/
  children : g.children.map Predicate.collapsed = g'.children.map Predicate.collapsed
  /-- So is how they are joined. -/
  combinator : g.children.length ≠ 1 → g.combinator = g'.combinator

theorem symbols_eq_collapsed (g : WhereGroup) :
    g.symbols d = separated (word g.combinator.keyword)
      ((g.children.map Predicate.collapsed).map (Predicate.symbols d)) := by
  rw [symbols, List.map_map]
  congr 1
  exact List.map_congr_left fun p _ ↦ (Predicate.symbols_collapsed p).symm

theorem isCompact_collapsed {g : WhereGroup} (hg : g.IsFull) {f : Fragment}
    (h : g.fragment d = .ok f) : ∀ p ∈ g.children.map Predicate.collapsed, p.IsCompact d := by
  obtain ⟨fs, hfs, -⟩ := fragment_eq_ok_iff.mp h
  intro q hq
  obtain ⟨p, hp, rfl⟩ := List.mem_map.mp hq
  obtain ⟨f, hf⟩ := exists_of_forall₂ hfs p hp
  exact Predicate.isCompact_collapsed (hg p hp) hf

/-- What was collected is found again in front of words that do not go on with it. -/
theorem symbols_inj (hd : d ∈ Dialect.builtIn) {g g' : WhereGroup}
    (hg : ∀ p ∈ g.children.map Predicate.collapsed, p.IsCompact d)
    (hg' : ∀ p ∈ g'.children.map Predicate.collapsed, p.IsCompact d) (hne : g.children ≠ [])
    (hne' : g'.children ≠ []) {ws : List String} (hr : Begins ws r) (hr' : Begins ws r')
    (hws : ∀ w ∈ [".", "AND", "OR"], w ∉ ws) (h : g.symbols d ++ r = g'.symbols d ++ r') :
    g.children.map Predicate.collapsed = g'.children.map Predicate.collapsed ∧
      (2 ≤ g.children.length → g.combinator = g'.combinator) ∧ r = r' := by
  have hend {t : List Symbol} (ht : Begins ws t) (c : Combinator) :
      t.head? ≠ some (word c.keyword) := by
    cases c with
    | and => exact head?_ne_word ht (hws "AND" (by simp))
    | or => exact head?_ne_word ht (hws "OR" (by simp))
  have hpoint := hws "." (by simp)
  rw [symbols_eq_collapsed, symbols_eq_collapsed] at h
  obtain ⟨hchildren, hrest, hcombinator⟩ := Predicate.joined_inj
    (fun p hp ↦ Predicate.legible hd (hg p hp)) hg' (by simpa using hne) (by simpa using hne')
    (unpointed_of_begins hr hpoint) (unpointed_of_begins hr' hpoint) (hend hr) (hend hr') h
  exact ⟨hchildren, fun hlength ↦ hcombinator (by simpa using hlength), hrest⟩

/-- A step after which nothing is collected was a group to which nothing was added. -/
theorem step_eq_of_children_eq_nil {g : WhereGroup} {s : WhereStep} (h : (g.step s).children = []) :
    g.step s = g := by
  cases s with
  | compare c comparison => exact absurd h (children_push_ne_nil g c _)
  | push c p => exact absurd h (children_push_ne_nil g c p)
  | group c inner =>
    rw [step_group] at h ⊢
    split at h
    · next hinner => rw [if_pos hinner]
    · exact absurd h (children_push_ne_nil g c _)

theorem steps_eq_of_children_eq_nil {g : WhereGroup} {ss : List WhereStep}
    (h : (g.steps ss).children = []) : g.steps ss = g := by
  induction ss generalizing g with
  | nil => rfl
  | cons s ss ih =>
    rw [steps] at h ⊢
    have hrest := ih h
    rw [hrest] at h ⊢
    exact step_eq_of_children_eq_nil h

end WhereGroup

namespace Select

theorem begins_condition {ws : List String} (hw : "WHERE" ∈ ws) (g : WhereGroup) :
    Begins ws (conditionSymbols d g) := by
  rw [conditionSymbols]
  split
  · exact Begins.nil
  · exact Begins.word hw _

/-- The condition of a selection is found again, and also whether there is one. -/
theorem condition_inj (hd : d ∈ Dialect.builtIn) {g g' : WhereGroup} (hg : g.IsFull)
    (hg' : g'.IsFull) (hf : ∃ f, conditionFragment d g = .ok f)
    (hf' : ∃ f, conditionFragment d g' = .ok f) {ws : List String} (hr : Begins ws r)
    (hr' : Begins ws r') (hws : ∀ w ∈ [".", "WHERE", "AND", "OR"], w ∉ ws)
    (h : conditionSymbols d g ++ r = conditionSymbols d g' ++ r') :
    g.children.map Predicate.collapsed = g'.children.map Predicate.collapsed ∧
      (2 ≤ g.children.length → g.combinator = g'.combinator) ∧ r = r' := by
  have hwhere {t : List Symbol} (ht : Begins ws t) : t.head? ≠ some (word "WHERE") :=
    head?_ne_word ht (hws "WHERE" (by simp))
  obtain ⟨f, hf⟩ := hf
  obtain ⟨f', hf'⟩ := hf'
  rcases conditionFragment_eq_ok_iff.mp hf with ⟨hempty, -⟩ | ⟨hne, k, hk, -⟩
  · rcases conditionFragment_eq_ok_iff.mp hf' with ⟨hempty', -⟩ | ⟨hne', -⟩
    · rw [conditionSymbols_eq_nil hempty, conditionSymbols_eq_nil hempty'] at h
      exact ⟨by rw [hempty, hempty'], by simp [hempty], h⟩
    · rw [conditionSymbols_eq_nil hempty, conditionSymbols_eq_cons hne'] at h
      obtain rfl : r = _ := h
      exact absurd rfl (hwhere hr)
  · rcases conditionFragment_eq_ok_iff.mp hf' with ⟨hempty', -⟩ | ⟨hne', k', hk', -⟩
    · rw [conditionSymbols_eq_cons hne, conditionSymbols_eq_nil hempty'] at h
      obtain rfl : _ = r' := h
      exact absurd rfl (hwhere hr')
    · have hsubset : [".", "AND", "OR"] ⊆ [".", "WHERE", "AND", "OR"] := by decide
      rw [conditionSymbols_eq_cons hne, conditionSymbols_eq_cons hne'] at h
      exact WhereGroup.symbols_inj hd (WhereGroup.isCompact_collapsed hg hk)
        (WhereGroup.isCompact_collapsed hg' hk') hne hne' hr hr'
        (fun w hw ↦ hws w (hsubset hw)) (List.cons.inj h).2

/-! ## Clauses -/

/-- An item of the ordering is legible, since its direction is always written. -/
theorem legible_order (hd : d ∈ Dialect.builtIn) {item : Expr × Direction}
    (hitem : item.1.IsWritable d) :
    Legible (orderSymbols d) (fun item ↦ item.1.IsWritable d) item := by
  intro other r r' hother _ _ h
  have hkeyword (direction : Direction) : word direction.keyword ≠ word "." := by
    cases direction <;> decide
  simp only [orderSymbols, List.append_assoc, List.singleton_append] at h
  obtain ⟨hexpr, hrest⟩ := Expr.legible hd hitem hother (unpointed_cons (hkeyword item.2) r)
    (unpointed_cons (hkeyword other.2) r') h
  obtain ⟨hdirection, hbehind⟩ := List.cons.inj hrest
  refine ⟨Prod.ext hexpr ?_, hbehind⟩
  have hsame := word_injective hdirection
  revert hsame
  cases item.2 <;> cases other.2 <;> simp [Direction.keyword]

/-- Everything that the selection names can be written. -/
structure IsWritable (d : Dialect) (s : Select) : Prop where
  /-- Something is selected. -/
  items_ne_nil : s.items ≠ []
  /-- What is selected can be written. -/
  items : ∀ e ∈ s.items, e.IsWritable d
  /-- The condition can be written. -/
  condition : ∃ f, conditionFragment d s.condition = .ok f
  /-- What is grouped by can be written. -/
  grouping : ∀ e ∈ s.grouping, e.IsWritable d
  /-- What is ordered by can be written. -/
  ordering : ∀ item ∈ s.ordering, item.1.IsWritable d

theorem isWritable_of_fragment {s : Select} {f : Fragment} (h : s.fragment d = .ok f) :
    s.IsWritable d := by
  obtain ⟨hne, -, -, items, condition, grouping, ordering, hi, hc, hg, ho, -⟩ :=
    fragment_eq_ok_iff.mp h
  refine ⟨hne, ?_, ⟨condition, hc⟩, ?_, ?_⟩
  · intro e he
    obtain ⟨f, hf⟩ := exists_of_forall₂ hi e he
    exact ⟨.selectItem, f, by simp, hf⟩
  · intro e he
    obtain ⟨f, hf⟩ := exists_of_forall₂ hg e he
    exact ⟨.operand, f, by simp, hf⟩
  · intro item hitem
    obtain ⟨f, hf⟩ := exists_of_forall₂ ho item hitem
    obtain ⟨g, hg, -⟩ := orderFragment_eq_ok_iff.mp hf
    exact ⟨.operand, g, by simp, hg⟩

/-- The words, the list and the tables in front of the condition are found again. -/
theorem head_inj (hd : d ∈ Dialect.builtIn) {s s' : Select} (hs : s.IsWritable d)
    (hs' : s'.IsWritable d) {ws : List String} (hr : Begins ws r) (hr' : Begins ws r')
    (hws : "." ∉ ws) (hfrom : "FROM" ∉ ws) (h : s.headSymbols d ++ r = s'.headSymbols d ++ r') :
    s.distinct = s'.distinct ∧ s.items = s'.items ∧ s.tables = s'.tables ∧ r = r' := by
  -- The first item does not begin with the word that may stand in front of it.
  have hdistinct {s : Select} (hs : s.IsWritable d) (t : List Symbol) :
      (separated (.token .comma) (s.items.map (Expr.symbols d)) ++ t).head?
        ≠ some (word "DISTINCT") := by
    obtain ⟨e, es, hes⟩ := List.exists_cons_of_ne_nil hs.items_ne_nil
    obtain ⟨u, us, hu, hown⟩ := Expr.exists_symbols_eq_cons hd (hs.items e (by simp [hes]))
    rw [hes, List.map_cons, separated_cons, hu]
    rintro ⟨⟩
    exact absurd hown (by decide)
  have hbehind {t : List Symbol} (ns : List String) (ht : Begins ws t) :
      Begins ("FROM" :: ws) (Symbol.clause ["FROM"] (names ns) ++ t) :=
    (Begins.clause List.mem_cons_self [] _).append (ht.mono fun _ hw ↦ List.mem_cons_of_mem _ hw)
  have hpoint : "." ∉ "FROM" :: ws := by
    simpa using hws
  have hcomma {vs : List String} {t : List Symbol} (ht : Begins vs t) :
      t.head? ≠ some (.token .comma) :=
    head?_ne_of_begins ht fun _ _ ↦ by simp [word]
  simp only [headSymbols, List.cons_append, List.append_assoc, List.cons.injEq, true_and] at h
  obtain ⟨hasked, hlist⟩ := Symbol.optional_inj (hdistinct hs _) (hdistinct hs' _) h
  obtain ⟨hitems, hclause⟩ :=
    separated_inj (by simp [word]) (fun e he ↦ Expr.legible hd (hs.items e he)) hs'.items
    hs.items_ne_nil hs'.items_ne_nil (unpointed_of_begins (hbehind s.tables hr) hpoint)
    (unpointed_of_begins (hbehind s'.tables hr') hpoint) (hcomma (hbehind s.tables hr))
    (hcomma (hbehind s'.tables hr')) hlist
  obtain ⟨htables, hrest⟩ :=
    clause_inj (fun n _ ↦ Symbol.legible_name n) (fun _ _ ↦ trivial) hr hr' hws hfrom hclause
  exact ⟨hasked, hitems, htables, hrest⟩

/-- The clauses behind the condition are found again. -/
theorem tail_inj (hd : d ∈ Dialect.builtIn) {s s' : Select} (hs : s.IsWritable d)
    (hs' : s'.IsWritable d) (h : s.tailSymbols d = s'.tailSymbols d) :
    s.grouping = s'.grouping ∧ s.ordering = s'.ordering ∧ s.limit = s'.limit ∧
    s.offset = s'.offset := by
  have hoffset (t : Select) : Begins ["OFFSET"] (number "OFFSET" t.offset) :=
    begins_number (by simp) t.offset
  have hlimit (t : Select) :
      Begins ["LIMIT", "OFFSET"] (number "LIMIT" t.limit ++ number "OFFSET" t.offset) :=
    (begins_number (by simp) t.limit).append ((hoffset t).mono (by simp))
  have horder (t : Select) : Begins ["ORDER", "LIMIT", "OFFSET"]
      (Symbol.clause ["ORDER", "BY"] (t.ordering.map (orderSymbols d))
        ++ (number "LIMIT" t.limit ++ number "OFFSET" t.offset)) :=
    (Begins.clause (by simp) ["BY"] _).append ((hlimit t).mono (by simp))
  have hnolimit (t : Select) : (number "OFFSET" t.offset).head? ≠ some (word "LIMIT") :=
    head?_ne_word (hoffset t) (by decide)
  obtain ⟨hgrouping, hrest⟩ :=
    clause_inj (fun e he ↦ Expr.legible hd (hs.grouping e he)) hs'.grouping (horder s) (horder s')
    (by decide) (by decide) h
  obtain ⟨hordering, hnumbers⟩ :=
    clause_inj (fun item hitem ↦ legible_order hd (hs.ordering item hitem)) hs'.ordering (hlimit s)
    (hlimit s') (by decide) (by decide) hrest
  obtain ⟨hlimits, hnumber⟩ := Symbol.number_inj (hnolimit s) (hnolimit s') hnumbers
  have hend : ([] : List Symbol).head? ≠ some (word "OFFSET") := by
    simp
  obtain ⟨hoffsets, -⟩ := Symbol.number_inj hend hend (congrArg (· ++ []) hnumber)
  exact ⟨hgrouping, hordering, hlimits, hoffsets⟩

/-- Two selections that ask for the same, except that groups of one condition may stand for the
condition. -/
structure Alike (s s' : Select) : Prop where
  distinct : s.distinct = s'.distinct
  items : s.items = s'.items
  tables : s.tables = s'.tables
  condition : s.condition.Alike s'.condition
  grouping : s.grouping = s'.grouping
  ordering : s.ordering = s'.ordering
  limit : s.limit = s'.limit
  offset : s.offset = s'.offset

/-- A selection is found again in its symbols if its condition has no empty groups. Where there is
no condition at all, nothing tells how its parts would be joined. -/
theorem alike_of_symbols (hd : d ∈ Dialect.builtIn) {s s' : Select} (hs : s.IsWritable d)
    (hs' : s'.IsWritable d) (hfull : s.condition.IsFull) (hfull' : s'.condition.IsFull)
    (hnone : s.condition.children = [] → s'.condition.children = [] →
      s.condition.combinator = s'.condition.combinator)
    (h : s.symbols d = s'.symbols d) : s.Alike s' := by
  have hbehind (t : Select) : Begins ["WHERE", "GROUP", "ORDER", "LIMIT", "OFFSET"]
      (conditionSymbols d t.condition ++ t.tailSymbols d) :=
    (begins_condition (by simp) t.condition).append ((begins_tail d t).mono (by simp))
  obtain ⟨hdistinct, hitems, htables, hrest⟩ :=
    head_inj hd hs hs' (hbehind s) (hbehind s') (by decide) (by decide) h
  obtain ⟨hchildren, hcombinator, htail⟩ := condition_inj hd hfull hfull' hs.condition hs'.condition
    (begins_tail d s) (begins_tail d s') (by decide) hrest
  obtain ⟨hgrouping, hordering, hlimit, hoffset⟩ := tail_inj hd hs hs' htail
  refine ⟨hdistinct, hitems, htables, ⟨hchildren, fun hlength ↦ ?_⟩, hgrouping, hordering, hlimit,
    hoffset⟩
  rcases Nat.eq_zero_or_pos s.condition.children.length with hzero | hpos
  · have hempty := List.length_eq_zero_iff.mp hzero
    exact hnone hempty (by simpa [hempty] using hchildren.symm)
  · exact hcombinator (by omega)

/-! ## Queries -/

/-- **Losslessness.** Two selections that give the same query ask for the same. -/
theorem alike_of_draft (hd : d ∈ Dialect.builtIn) {cs cs' : List Clause}
    (hfull : (cs.foldl extend {}).condition.IsFull)
    (hfull' : (cs'.foldl extend {}).condition.IsFull) {q : Query}
    (h : Statement.draft d ({} : Select) cs = .ok q)
    (h' : Statement.draft d ({} : Select) cs' = .ok q) :
    (cs.foldl extend {}).Alike (cs'.foldl extend {}) := by
  have hregular := Dialect.regular_of_mem_builtIn hd
  obtain ⟨⟨f, hf⟩, hread, hbinds⟩ := readTokens_of_toQuery hregular h
  obtain ⟨⟨f', hf'⟩, hread', hbinds'⟩ := readTokens_of_toQuery hregular h'
  rw [content_addAll d _ rfl] at hf hread hbinds hf' hread' hbinds'
  refine alike_of_symbols hd (isWritable_of_fragment hf) (isWritable_of_fragment hf') hfull hfull'
    ?_ ?_
  · intro hempty hempty'
    rw [condition_foldl_extend] at hempty hempty' ⊢
    rw [condition_foldl_extend]
    rw [WhereGroup.steps_eq_of_children_eq_nil hempty,
      WhereGroup.steps_eq_of_children_eq_nil hempty']
  · -- The text tells the symbols up to the values, and the values are those of the query.
    exact numbered_injective hregular.placeholder_usual (writes hregular hf).unmistakable
      (writes hregular hf').unmistakable (Option.some.inj (hread.symm.trans hread'))
      (hbinds.symm.trans hbinds')

/-- A call that looks like the word in front of the select list, and a group of one condition. -/
def groupedClauses : List Clause :=
  [.items [.call "DISTINCT" [.column { name := "a" }]], .table "t",
    .condition (.compare .and ⟨.column { name := "a" }, .equal, .bind (.int 1)⟩),
    .condition (.group .or
      [.compare .and ⟨.call "NOT" [.column { name := "b" }], .is, .literal .null⟩]),
    .limit 3]

/-- The same in another order, with the condition of the group and without the group. -/
def plainClauses : List Clause :=
  [.limit 5, .table "t", .condition (.group .or []),
    .condition (.compare .or ⟨.column { name := "a" }, .equal, .bind (.int 1)⟩),
    .condition (.compare .or ⟨.call "NOT" [.column { name := "b" }], .is, .literal .null⟩),
    .items [.call "DISTINCT" [.column { name := "a" }]], .limit 3]

theorem alike_of_draft_groupedClauses :
    Dialect.postgresql ∈ Dialect.builtIn ∧ (groupedClauses.foldl extend {}).condition.IsFull ∧
      (plainClauses.foldl extend {}).condition.IsFull ∧
      Statement.draft .postgresql ({} : Select) groupedClauses = .ok
        ⟨"SELECT DISTINCT(\"a\") FROM \"t\" WHERE \"a\" = $1 OR NOT(\"b\") IS NULL LIMIT 3",
          [.int 1]⟩ ∧
      Statement.draft .postgresql ({} : Select) plainClauses = .ok
        ⟨"SELECT DISTINCT(\"a\") FROM \"t\" WHERE \"a\" = $1 OR NOT(\"b\") IS NULL LIMIT 3",
          [.int 1]⟩ ∧
      (groupedClauses.foldl extend {}).Alike (plainClauses.foldl extend {}) := by
  have hd : Dialect.postgresql ∈ Dialect.builtIn := by simp [Dialect.builtIn]
  have hfull : (groupedClauses.foldl extend {}).condition.IsFull := by
    unfold WhereGroup.IsFull
    decide
  have hfull' : (plainClauses.foldl extend {}).condition.IsFull := by
    unfold WhereGroup.IsFull
    decide
  have hdraft : Statement.draft .postgresql ({} : Select) groupedClauses = .ok
      ⟨"SELECT DISTINCT(\"a\") FROM \"t\" WHERE \"a\" = $1 OR NOT(\"b\") IS NULL LIMIT 3",
        [.int 1]⟩ := by
    decide +kernel
  have hdraft' : Statement.draft .postgresql ({} : Select) plainClauses = .ok
      ⟨"SELECT DISTINCT(\"a\") FROM \"t\" WHERE \"a\" = $1 OR NOT(\"b\") IS NULL LIMIT 3",
        [.int 1]⟩ := by
    decide +kernel
  exact ⟨hd, hfull, hfull', hdraft, hdraft', alike_of_draft hd hfull hfull' hdraft hdraft'⟩

end Select

end SqlBuilder
