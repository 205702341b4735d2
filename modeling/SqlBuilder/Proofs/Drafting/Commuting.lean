import SqlBuilder.Proofs.Legality.Insert
import SqlBuilder.Proofs.Symbols.Select

/-!
# Clauses of different kinds commute

The clauses of a selection, of an insertion and of an index are of several kinds, and each kind
fills a part of the statement that no other kind touches. Some kinds are collected in the order of
the calls, of some the last call counts, and some are said or not said. So a list of clauses is
taken apart into one part for each kind, and these parts alone decide what is drafted: how the calls
of different kinds are mixed does not matter, nor how often something is said that counts once.
-/

namespace SqlBuilder

variable {d : Dialect}

namespace Draft

variable {α κ : Type} [Statement α κ] [Refusable κ] [ClauseWise α] {start : α} {ks ls : List κ}

/-- Two lists of clauses make the same of a draft if they add the same to it and if the first
refusal among them is the same. -/
theorem addAll_eq_addAll
    (hcontent : (acceptedClauses d ks).foldl ClauseWise.extended start
      = (acceptedClauses d ls).foldl ClauseWise.extended start)
    (hrefusal : ks.findSome? (refusal? d) = ls.findSome? (refusal? d)) :
    ({ content := start } : Draft α).addAll d ks
      = ({ content := start } : Draft α).addAll d ls := by
  have hparts {b b' : Draft α} (hcontent : b.content = b'.content) (hstage : b.stage = b'.stage)
      (hrefusal : b.refusal = b'.refusal) : b = b' := by
    cases b
    cases b'
    simp_all
  refine hparts ?_ ?_ ?_
  · rw [content_addAll rfl, content_addAll rfl, hcontent]
  · rw [stage_addAll, stage_addAll]
  · rw [refusal_addAll rfl, refusal_addAll rfl, hrefusal]

/-- If no clause is ever refused, what the lists add decides alone. -/
theorem addAll_eq_addAll_of_foldl (haccept : ∀ k : κ, refusal? d k = none)
    (hcontent : ks.foldl ClauseWise.extended start = ls.foldl ClauseWise.extended start) :
    ({ content := start } : Draft α).addAll d ks
      = ({ content := start } : Draft α).addAll d ls := by
  have haccepted (ks : List κ) : acceptedClauses d ks = ks :=
    acceptedClauses_eq_self fun k _ ↦ haccept k
  have hrefusal (ks : List κ) : ks.findSome? (refusal? d) = none :=
    List.findSome?_eq_none_iff.mpr fun k _ ↦ haccept k
  apply addAll_eq_addAll
  · rw [haccepted, haccepted, hcontent]
  · rw [hrefusal, hrefusal]

end Draft

/-! ## The last call counts -/

/-- The last thing that is said of a kind. -/
def lastSaid {κ β : Type} (said : κ → Option β) (ks : List κ) : Option β :=
  (ks.filterMap said).getLast?

@[simp] theorem lastSaid_nil {κ β : Type} (said : κ → Option β) : lastSaid said [] = none :=
  rfl

theorem lastSaid_cons {κ β : Type} (said : κ → Option β) (k : κ) (ks : List κ) :
    lastSaid said (k :: ks) = (lastSaid said ks).or (said k) := by
  rw [lastSaid, lastSaid, List.filterMap_cons]
  cases said k with
  | none => rw [Option.or_none]
  | some b =>
    rw [List.getLast?_cons]
    cases (ks.filterMap said).getLast? <;> rfl

/-! ## Selections -/

namespace Select

/-- The items that clauses select, in their order. -/
def itemsOf (cs : List Clause) : List Expr :=
  cs.flatMap fun
    | .items es => es
    | _ => []

/-- The tables that clauses name, in their order. -/
def tablesOf (cs : List Clause) : List String :=
  cs.filterMap fun
    | .table name => some name
    | _ => none

/-- What clauses group by, in their order. -/
def groupingOf (cs : List Clause) : List Expr :=
  cs.filterMap fun
    | .groupBy e => some e
    | _ => none

/-- What clauses order by, in their order. -/
def orderingOf (cs : List Clause) : List (Expr × Direction) :=
  cs.filterMap fun
    | .orderBy e direction => some (e, direction)
    | _ => none

/-- The last limit among clauses. -/
def limitOf : List Clause → Option UInt64 :=
  lastSaid fun
    | .limit n => some n
    | _ => none

/-- The last offset among clauses. -/
def offsetOf : List Clause → Option UInt64 :=
  lastSaid fun
    | .offset n => some n
    | _ => none

/-- Some clause asks for equal rows only once. -/
def asksDistinct (cs : List Clause) : Bool :=
  cs.any fun
    | .distinct => true
    | _ => false

/-- Each kind of clause says the same in both lists. -/
structure SameByKind (cs cs' : List Clause) : Prop where
  distinct : asksDistinct cs = asksDistinct cs'
  items : itemsOf cs = itemsOf cs'
  tables : tablesOf cs = tablesOf cs'
  condition : conditionSteps cs = conditionSteps cs'
  grouping : groupingOf cs = groupingOf cs'
  ordering : orderingOf cs = orderingOf cs'
  limit : limitOf cs = limitOf cs'
  offset : offsetOf cs = offsetOf cs'

theorem foldl_extend (s : Select) (cs : List Clause) : cs.foldl extend s
    = { distinct := s.distinct || asksDistinct cs
        items := s.items ++ itemsOf cs
        tables := s.tables ++ tablesOf cs
        condition := s.condition.steps (conditionSteps cs)
        grouping := s.grouping ++ groupingOf cs
        ordering := s.ordering ++ orderingOf cs
        limit := (limitOf cs).or s.limit
        offset := (offsetOf cs).or s.offset } := by
  induction cs generalizing s with
  | nil =>
    simp [asksDistinct, itemsOf, tablesOf, conditionSteps, groupingOf, orderingOf, limitOf,
      offsetOf, WhereGroup.steps]
  | cons c cs ih =>
    rw [List.foldl_cons, ih]
    cases c <;> simp [extend, asksDistinct, itemsOf, tablesOf, conditionSteps, groupingOf,
      orderingOf, limitOf, offsetOf, lastSaid_cons, WhereGroup.steps]

theorem SameByKind.foldl_eq {cs cs' : List Clause} (h : SameByKind cs cs') (s : Select) :
    cs.foldl extend s = cs'.foldl extend s := by
  rw [foldl_extend, foldl_extend, h.distinct, h.items, h.tables, h.condition, h.grouping,
    h.ordering, h.limit, h.offset]

/-- In any order of the kinds the draft is the same. -/
theorem SameByKind.addAll_eq {cs cs' : List Clause} (h : SameByKind cs cs') :
    ({ content := {} } : Draft Select).addAll d cs
      = ({ content := {} } : Draft Select).addAll d cs' :=
  Draft.addAll_eq_addAll_of_foldl (fun _ ↦ rfl) (h.foldl_eq {})

end Select

/-! ## Insertions -/

namespace Insert

/-- Each kind of clause says the same in both lists. -/
structure SameByKind (cs cs' : List Clause) : Prop where
  columns : columnsOf cs = columnsOf cs'
  rows : rowsOf cs = rowsOf cs'

/-- In any order of the kinds the draft is the same. -/
theorem SameByKind.addAll_eq {cs cs' : List Clause} (h : SameByKind cs cs') (table : String) :
    ({ content := { table } } : Draft Insert).addAll d cs
      = ({ content := { table } } : Draft Insert).addAll d cs' := by
  have hfoldl : cs.foldl extend { table } = cs'.foldl extend { table } := by
    rw [foldl_extend, foldl_extend, h.columns, h.rows]
  exact Draft.addAll_eq_addAll_of_foldl (fun _ ↦ rfl) hfoldl

end Insert

/-! ## Indexes -/

namespace CreateIndex

/-- The last table among clauses. -/
def tableOf : List Clause → Option String :=
  lastSaid fun
    | .on table => some table
    | _ => none

/-- The columns that clauses name, in their order. -/
def columnsOf (cs : List Clause) : List String :=
  cs.flatMap fun
    | .columns names => names
    | _ => []

/-- Some clause asks that no two rows agree. -/
def asksUnique (cs : List Clause) : Bool :=
  cs.any fun
    | .unique => true
    | _ => false

/-- Some clause asks that an index that exists is no fault. -/
def asksIfNotExists (cs : List Clause) : Bool :=
  cs.any fun
    | .ifNotExists => true
    | _ => false

/-- Each kind of clause says the same in both lists. -/
structure SameByKind (cs cs' : List Clause) : Prop where
  table : tableOf cs = tableOf cs'
  columns : columnsOf cs = columnsOf cs'
  unique : asksUnique cs = asksUnique cs'
  ifNotExists : asksIfNotExists cs = asksIfNotExists cs'

/-- Only one kind of clause is ever refused, and always for the same reason. -/
theorem findSome?_refusal? (cs : List Clause) : cs.findSome? (refusal? d)
    = if asksIfNotExists cs
      then Feature.createIndexIfNotExists.refusal? d d.hasIndexIfNotExists else none := by
  induction cs with
  | nil => rfl
  | cons c cs ih =>
    rw [List.findSome?_cons, ih]
    cases c with
    | ifNotExists =>
      have hasks : asksIfNotExists (.ifNotExists :: cs) = true := rfl
      rw [hasks, if_pos rfl]
      -- What was refused once is refused again for the same reason.
      cases hrefusal : refusal? d Clause.ifNotExists with
      | some e => exact hrefusal.symm
      | none =>
        change Feature.createIndexIfNotExists.refusal? d d.hasIndexIfNotExists = none at hrefusal
        simp [hrefusal]
    | _ => rfl

/-- Every kind adds what it says, but for a feature that the dialect does not have. -/
theorem foldl_extended (s : CreateIndex) (cs : List Clause) :
    (Draft.acceptedClauses d cs).foldl ClauseWise.extended s
      = { s with
          table := (tableOf cs).or s.table
          columns := s.columns ++ columnsOf cs
          unique := s.unique || asksUnique cs
          ifNotExists := s.ifNotExists || (asksIfNotExists cs && d.hasIndexIfNotExists) } := by
  induction cs generalizing s with
  | nil => simp [Draft.acceptedClauses, tableOf, columnsOf, asksUnique, asksIfNotExists]
  | cons c cs ih =>
    rw [Draft.acceptedClauses] at ih ⊢
    cases c with
    | ifNotExists =>
      have hrefusal : (refusal? d Clause.ifNotExists).isNone = d.hasIndexIfNotExists := by
        change (Feature.refusal? d _ d.hasIndexIfNotExists).isNone = _
        cases d.hasIndexIfNotExists <;> rfl
      rw [List.filter_cons, hrefusal]
      cases hhas : d.hasIndexIfNotExists with
      | true =>
        rw [if_pos rfl, List.foldl_cons, ih]
        simp [ClauseWise.extended, tableOf, columnsOf, asksUnique, asksIfNotExists, lastSaid_cons,
          hhas]
      | false =>
        rw [if_neg Bool.false_ne_true, ih]
        simp [tableOf, columnsOf, asksUnique, lastSaid_cons, hhas]
    | _ =>
      rw [List.filter_cons_of_pos rfl, List.foldl_cons, ih]
      simp [ClauseWise.extended, tableOf, columnsOf, asksUnique, asksIfNotExists, lastSaid_cons]

/-- In any order of the kinds the draft is the same, and so is what is refused. -/
theorem SameByKind.addAll_eq {cs cs' : List Clause} (h : SameByKind cs cs') (name : String) :
    ({ content := { name } } : Draft CreateIndex).addAll d cs
      = ({ content := { name } } : Draft CreateIndex).addAll d cs' := by
  apply Draft.addAll_eq_addAll
  · rw [foldl_extended, foldl_extended, h.table, h.columns, h.unique, h.ifNotExists]
  · rw [findSome?_refusal?, findSome?_refusal?, h.ifNotExists]

end CreateIndex

/-! ## All three -/

/-- **Commuting clauses.** Two lists of clauses for a new selection, insertion or index in which
each kind of clause says the same are answered the same, be it by a query or by a fault. -/
theorem Draft.clauses_commute (d : Dialect) :
    (∀ cs cs', Select.SameByKind cs cs' →
      Statement.draft d ({} : Select) cs = Statement.draft d ({} : Select) cs') ∧
    (∀ table cs cs', Insert.SameByKind cs cs' →
      Statement.draft d ({ table } : Insert) cs = Statement.draft d ({ table } : Insert) cs') ∧
    ∀ name cs cs', CreateIndex.SameByKind cs cs' →
      Statement.draft d ({ name } : CreateIndex) cs
        = Statement.draft d ({ name } : CreateIndex) cs' := by
  refine ⟨fun cs cs' h ↦ ?_, fun table cs cs' h ↦ ?_, fun name cs cs' h ↦ ?_⟩
  · rw [Statement.draft, h.addAll_eq, Statement.draft]
  · rw [Statement.draft, h.addAll_eq, Statement.draft]
  · rw [Statement.draft, h.addAll_eq, Statement.draft]

/-- All kinds of clauses of a selection, in the order of its text. -/
def orderedClauses : List Select.Clause :=
  [.distinct, .items [.column { name := "a" }], .items [.call "f" [.bind (.int 1)]], .table "t",
    .table "u", .condition (.compare .and ⟨.column { name := "a" }, .less, .bind (.int 2)⟩),
    .condition (.group .or [.compare .and ⟨.column { name := "b" }, .is, .literal .null⟩]),
    .groupBy (.column { name := "a" }), .orderBy (.column { name := "a" }) .desc, .limit 5,
    .offset 1]

/-- The same clauses mixed, with items in one call and limits that do not count. -/
def mixedClauses : List Select.Clause :=
  [.limit 9, .condition (.compare .and ⟨.column { name := "a" }, .less, .bind (.int 2)⟩),
    .offset 1, .orderBy (.column { name := "a" }) .desc, .limit 7, .distinct, .table "t",
    .items [.column { name := "a" }, .call "f" [.bind (.int 1)]],
    .condition (.group .or [.compare .and ⟨.column { name := "b" }, .is, .literal .null⟩]),
    .distinct, .table "u", .limit 5, .groupBy (.column { name := "a" })]

theorem Draft.clauses_commute_mixed :
    Select.SameByKind mixedClauses orderedClauses ∧
      Statement.draft .postgresql ({} : Select) mixedClauses = .ok
        ⟨"SELECT DISTINCT \"a\", f($1) FROM \"t\", \"u\" WHERE \"a\" < $2 OR \"b\" IS NULL"
          ++ " GROUP BY \"a\" ORDER BY \"a\" DESC LIMIT 5 OFFSET 1", [.int 1, .int 2]⟩ ∧
    Insert.SameByKind [.values [.bind (.int 1), .bind (.int 2)], .columns ["a"], .columns ["b"]]
        [.columns ["a", "b"], .values [.bind (.int 1), .bind (.int 2)]] ∧
      Statement.draft .mysql ({ table := "t" } : Insert)
          [.values [.bind (.int 1), .bind (.int 2)], .columns ["a"], .columns ["b"]]
        = .ok ⟨"INSERT INTO `t` (`a`, `b`) VALUES (?, ?)", [.int 1, .int 2]⟩ ∧
    CreateIndex.SameByKind [.ifNotExists, .on "u", .columns ["a"], .on "t", .unique, .unique]
        [.columns ["a"], .unique, .on "t", .ifNotExists, .ifNotExists] ∧
      Statement.draft .mysql ({ name := "i" } : CreateIndex)
          [.ifNotExists, .on "u", .columns ["a"], .on "t", .unique, .unique]
        = .error (.unsupportedFeature "mysql" .createIndexIfNotExists) := by
  have hselect : Select.SameByKind mixedClauses orderedClauses :=
    ⟨rfl, rfl, rfl, rfl, rfl, rfl, rfl, rfl⟩
  have hinsert : Insert.SameByKind
      [.values [.bind (.int 1), .bind (.int 2)], .columns ["a"], .columns ["b"]]
      [.columns ["a", "b"], .values [.bind (.int 1), .bind (.int 2)]] :=
    ⟨rfl, rfl⟩
  have hindex : CreateIndex.SameByKind
      [.ifNotExists, .on "u", .columns ["a"], .on "t", .unique, .unique]
      [.columns ["a"], .unique, .on "t", .ifNotExists, .ifNotExists] :=
    ⟨rfl, rfl, rfl, rfl⟩
  refine ⟨hselect, ?_, hinsert, ?_, hindex, ?_⟩
  · rw [(clauses_commute .postgresql).1 _ _ hselect]
    decide +kernel
  · rw [(clauses_commute .mysql).2.1 _ _ _ hinsert]
    decide +kernel
  · rw [(clauses_commute .mysql).2.2 _ _ _ hindex]
    decide +kernel

end SqlBuilder
