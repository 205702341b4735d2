import SqlBuilder.Proofs.Symbols.Condition
import SqlBuilder.Proofs.Symbols.Draft

/-!
# The symbols of a selection

A selection is a word, the select list and the clauses that were asked for, each of which begins
with words of its own. Behind the select list nothing but a clause begins with a word of letters.
-/

namespace SqlBuilder

open Reading SqlBuilder.Symbol

variable {d : Dialect} {f : Fragment}

namespace Symbol

/-- A word, if it is asked for. -/
def optional (asked : Bool) (s : String) : List Symbol :=
  if asked then [word s] else []

theorem optional_eq_phrase (asked : Bool) (s : String) : optional asked s = phrase asked [s] := rfl

/-- The symbol of each name. -/
def names (ns : List String) : List (List Symbol) :=
  ns.map fun n ↦ [.token (.name n)]

/-- A keyword and a number, if there is one. -/
def number (keyword : String) : Option UInt64 → List Symbol
  | some n => [word keyword, word (toString n.toNat)]
  | none => []

end Symbol

namespace Select

/-- The symbols of an item of the ordering. -/
def orderSymbols (d : Dialect) (item : Expr × Direction) : List Symbol :=
  item.1.symbols d ++ [word item.2.keyword]

/-- The symbols of the condition, if anything was collected for it. -/
def conditionSymbols (d : Dialect) (g : WhereGroup) : List Symbol :=
  if g.isEmpty then [] else word "WHERE" :: g.symbols d

/-- The symbols in front of the condition. -/
def headSymbols (d : Dialect) (s : Select) : List Symbol :=
  word "SELECT" :: (Symbol.optional s.distinct "DISTINCT"
    ++ (separated (.token .comma) (s.items.map (Expr.symbols d))
    ++ Symbol.clause ["FROM"] (names s.tables)))

/-- The symbols behind the condition. -/
def tailSymbols (d : Dialect) (s : Select) : List Symbol :=
  Symbol.clause ["GROUP", "BY"] (s.grouping.map (Expr.symbols d))
    ++ (Symbol.clause ["ORDER", "BY"] (s.ordering.map (orderSymbols d))
    ++ (number "LIMIT" s.limit ++ number "OFFSET" s.offset))

/-- The symbols of a selection. -/
def symbols (d : Dialect) (s : Select) : List Symbol :=
  s.headSymbols d ++ (conditionSymbols d s.condition ++ s.tailSymbols d)

theorem conditionSymbols_eq_nil {g : WhereGroup} (h : g.children = []) :
    conditionSymbols d g = [] := by
  rw [conditionSymbols, WhereGroup.isEmpty, h, List.isEmpty_nil, if_pos rfl]

theorem conditionSymbols_eq_cons {g : WhereGroup} (h : g.children ≠ []) :
    conditionSymbols d g = word "WHERE" :: g.symbols d := by
  rw [conditionSymbols, WhereGroup.isEmpty, if_neg (by simpa using h)]

theorem begins_number {ws : List String} {keyword : String} (hkeyword : keyword ∈ ws)
    (n : Option UInt64) : Begins ws (number keyword n) := by
  cases n with
  | none => exact Begins.nil
  | some n => exact Begins.word hkeyword _

/-- What stands behind the condition begins with a keyword of its own. -/
theorem begins_tail (d : Dialect) (s : Select) :
    Begins ["GROUP", "ORDER", "LIMIT", "OFFSET"] (s.tailSymbols d) :=
  (Begins.clause (by simp) ["BY"] _).append ((Begins.clause (by simp) ["BY"] _).append
    ((begins_number (by simp) s.limit).append (begins_number (by simp) s.offset)))

theorem writes_names (ns : List String) :
    List.Forall₂ (Fragment.Writes d) (nameFragments ns) (names ns) := by
  rw [nameFragments, names, List.forall₂_map_left_iff, List.forall₂_map_right_iff,
    List.forall₂_same]
  exact fun n _ ↦ Fragment.Writes.name n

theorem writes_orderFragment (hd : d.Regular) {item : Expr × Direction}
    (h : orderFragment d item = .ok f) : f.Writes d (orderSymbols d item) := by
  obtain ⟨g, hg, rfl⟩ := orderFragment_eq_ok_iff.mp h
  have hkeyword : Fragment.Writes d [.text item.2.keyword] [word item.2.keyword] := by
    cases item.2 <;> exact Fragment.Writes.singleWord (by decide) (by decide) (by decide)
  have hblank : Fragment.Spells " " [] := @Fragment.spells_of_getLast? " " ' ' (by decide) rfl
  exact (Expr.writes hd hg).append ((hkeyword.text hblank (by simp)).trails (by decide))

theorem trails_numberFragment (keyword s : String)
    (hs : Fragment.Keywords keyword [s] ∧ Fragment.delimits keyword) (n : Option UInt64) :
    (numberFragment keyword n).Trails d (number s n) := by
  cases n with
  | none => exact Fragment.Trails.nil
  | some n =>
    have hliteral : Dialect.LiteralWord (toString n.toNat).toList := by
      rw [Nat.toString_eq_ofList_toDigits, String.toList_ofList]
      exact .numeral (unsignedNumeral_toDigits n.toNat).numeral
    have hne : toString n.toNat ≠ "" := by
      intro hempty
      exact hliteral.ne_nil (by rw [hempty, String.toList_empty])
    have hword : Fragment.Writes d _ _ :=
      Fragment.Writes.singleWord hne (List.all_eq_true.mpr hliteral.isWordPart)
        hliteral.not_isPlaceholder
    exact (hword.keywords keyword [s] hs.1).trails hs.2

theorem trails_condition (hd : d.Regular) {g : WhereGroup} (h : conditionFragment d g = .ok f) :
    f.Trails d (conditionSymbols d g) := by
  rcases conditionFragment_eq_ok_iff.mp h with ⟨hempty, rfl⟩ | ⟨hne, g', hg', rfl⟩
  · rw [conditionSymbols_eq_nil hempty]
    exact Fragment.Trails.nil
  · rw [conditionSymbols_eq_cons hne]
    exact ((WhereGroup.writes hd hg').keywords " WHERE " ["WHERE"] (by decide)).trails (by decide)

/-- A selection is read as its symbols. -/
theorem writes (hd : d.Regular) {s : Select} (h : s.fragment d = .ok f) :
    f.Writes d (s.symbols d) := by
  obtain ⟨-, -, -, items, condition, grouping, ordering, hi, hc, hg, ho, rfl⟩ :=
    fragment_eq_ok_iff.mp h
  -- Every part behind the select list begins with a blank, so each may follow the one before.
  have hitems := Fragment.Writes.commaList (Expr.writes_of_forall₂ hd hi)
  have hfrom := Fragment.Trails.clause " FROM " ["FROM"] (by decide)
    (@writes_names d s.tables)
  have hgroup := Fragment.Trails.clause " GROUP BY " ["GROUP", "BY"] (by decide)
    (Expr.writes_of_forall₂ hd hg)
  have horder := Fragment.Trails.clause " ORDER BY " ["ORDER", "BY"] (by decide)
    (forall₂_map_of_forall₂ ho fun item _ f hf ↦ @writes_orderFragment d f hd item hf)
  have hlimit := @trails_numberFragment d " LIMIT " "LIMIT" (by decide) s.limit
  have hoffset := @trails_numberFragment d " OFFSET " "OFFSET" (by decide) s.offset
  have htail := hgroup.append (horder.append (hlimit.append hoffset))
  have hbody := hitems.append (hfrom.append ((trails_condition hd hc).append htail))
  have hall := (hbody.phrase s.distinct "DISTINCT " ["DISTINCT"] (by decide)).keywords "SELECT "
    ["SELECT"] (by decide)
  rw [symbols, headSymbols, tailSymbols, Symbol.optional_eq_phrase]
  simpa only [List.map_cons, List.map_nil, List.cons_append, List.nil_append, List.append_assoc]
    using hall

theorem writesSymbols (hd : d.Regular) : Statement.WritesSymbols d (symbols d) :=
  fun s _ h ↦ ⟨writes hd h, {t | t ∈ s.texts}, sound_fragment hd h fun _ ht ↦ ht⟩

/-- What a draft gives is read as the symbols of its content, with its values beside them. -/
theorem readTokens_of_toQuery (hd : d.Regular) {b : Draft Select} {q : Query}
    (h : b.toQuery d = .ok q) : (∃ f, b.content.fragment d = .ok f) ∧
    readTokens d q.sql = some (numbered d 0 (b.content.symbols d)) ∧
      q.binds = values (b.content.symbols d) :=
  Draft.readTokens_of_writesSymbols hd (writesSymbols hd) h

/-! ## What a draft has collected -/

/-- The steps that the condition of a selection grows by. -/
def conditionSteps (cs : List Clause) : List WhereStep :=
  cs.filterMap fun
    | .condition s => some s
    | _ => none

theorem condition_foldl_extend (s : Select) (cs : List Clause) :
    (cs.foldl extend s).condition = s.condition.steps (conditionSteps cs) := by
  induction cs generalizing s with
  | nil => rfl
  | cons c cs ih =>
    rw [List.foldl_cons, ih]
    cases c <;> rfl

/-- The clauses of a selection are always accepted. -/
theorem content_addAll (d : Dialect) (b : Draft Select) (hb : b.stage = .building)
    (cs : List Clause) : (b.addAll d cs).content = cs.foldl extend b.content := by
  induction cs generalizing b with
  | nil => rfl
  | cons c cs ih =>
    have hadd : b.add d c = { b with content := b.content.extend c } := by
      rw [Draft.add, hb]
      rfl
    rw [Draft.addAll, List.foldl_cons, hadd]
    exact ih { b with content := b.content.extend c } hb

end Select

end SqlBuilder
