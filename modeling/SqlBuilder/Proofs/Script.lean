import SqlBuilder.Proofs.Condition.Leaves
import SqlBuilder.Proofs.Drafting.Draft
import SqlBuilder.Proofs.Spelling.Schema

/-!
# Scripts

A script is everything that a user says to draft one statement of any kind: the name it begins with
and the clauses in their order. Looking at a draft leaves no trace and a rendered draft gives
nothing any more, so the clauses alone decide what queries a draft can give.

What a script mentions is what its user wrote as a name or as a string literal. A draft holds
nothing else, because every accepted clause adds its own texts and no clause adds others.
-/

namespace SqlBuilder

open Reading

/-! ## What a draft holds -/

namespace Draft

variable {α κ β : Type} [Statement α κ] {d : Dialect}

/-- A draft mentions what it began with and what its clauses brought. -/
theorem texts_addAll {texts : α → List QuotedText} {given : κ → List QuotedText}
    (haccept : ∀ a c a', Statement.accept d a c = .ok a' → texts a' ⊆ texts a ++ given c)
    (b : Draft α) (cs : List κ) :
    texts (b.addAll d cs).content ⊆ texts b.content ++ cs.flatMap given := by
  induction cs generalizing b with
  | nil => simp [addAll]
  | cons c cs ih =>
    have hadd : texts (b.add d c).content ⊆ texts b.content ++ given c := by
      rcases content_add b c with hsame | hmore
      · rw [hsame]
        exact List.subset_append_left _ _
      · exact haccept _ _ _ hmore
    intro t ht
    rcases List.mem_append.mp (ih (b.add d c) ht) with ht | ht
    · rw [List.flatMap_cons, ← List.append_assoc]
      exact List.mem_append_left _ (hadd ht)
    · rw [List.flatMap_cons]
      exact List.mem_append_right _ (List.mem_append_right _ ht)

/-- A draft that gives a query gives a sound fragment spelled out, if its statement writes sound
fragments and every clause brings its own texts. -/
theorem exists_sound [Fragmented α] (texts : α → List QuotedText) (given : κ → List QuotedText)
    (expressions : α → List Expr)
    (haccept : ∀ a c a', Statement.accept d a c = .ok a' → texts a' ⊆ texts a ++ given c)
    (hwrites : ∀ a f, Fragmented.fragment d a = .ok f →
      f.Sound {t | t ∈ texts a} ∧ f.binds = (expressions a).flatMap Expr.binds)
    {start : α} {cs : List κ} {q : Query} (h : Statement.draft d start cs = .ok q) :
    ∃ f : Fragment, q = f.toQuery d ∧ f.Sound {t | t ∈ texts start ++ cs.flatMap given} ∧
      f.binds = (expressions (({ content := start } : Draft α).addAll d cs).content).flatMap
        Expr.binds := by
  obtain ⟨f, hf, hq⟩ := exists_fragment_of_toQuery h
  obtain ⟨hsound, hbinds⟩ := hwrites _ f hf
  have hmentions := texts_addAll haccept ({ content := start } : Draft α) cs
  exact ⟨f, hq, hsound.mono fun t ht ↦ hmentions ht, hbinds⟩

end Draft

/-! ## What clauses bring -/

/-- What a clause puts between quotes. -/
def CreateTable.Clause.texts : CreateTable.Clause → List QuotedText
  | .ifNotExists => []
  | .column c => c.texts

/-- What a clause puts between quotes. -/
def CreateIndex.Clause.texts : CreateIndex.Clause → List QuotedText
  | .on table => [.name table]
  | .columns names => names.map .name
  | .unique | .ifNotExists => []

/-- What a clause puts between quotes. -/
def Insert.Clause.texts : Insert.Clause → List QuotedText
  | .columns names => names.map .name
  | .values row => row.flatMap Expr.texts

/-- What a clause puts between quotes. -/
def Select.Clause.texts : Select.Clause → List QuotedText
  | .items es => es.flatMap Expr.texts
  | .table name => [.name name]
  | .condition s => (s.leaves.flatMap Comparison.operands).flatMap Expr.texts
  | .groupBy e | .orderBy e _ => e.texts
  | .distinct | .limit _ | .offset _ => []

variable {d : Dialect}

theorem DropTable.texts_accept {s s' : DropTable} {c : DropTable.Clause}
    (h : s.accept d c = .ok s') : s'.texts ⊆ s.texts := by
  cases c with
  | ifExists =>
    obtain ⟨-, rfl⟩ := ite_ok_eq_ok_iff.mp h
    exact List.Subset.refl _
  | cascade =>
    obtain ⟨-, rfl⟩ := ite_ok_eq_ok_iff.mp h
    exact List.Subset.refl _

theorem CreateTable.texts_accept {s s' : CreateTable} {c : CreateTable.Clause}
    (h : s.accept d c = .ok s') : s'.texts ⊆ s.texts ++ c.texts := by
  cases c with
  | ifNotExists =>
    obtain ⟨-, rfl⟩ := ite_ok_eq_ok_iff.mp h
    exact List.subset_append_left _ _
  | column c =>
    obtain ⟨_, -, rfl⟩ := bind_pure_eq_ok_iff.mp h
    simp [texts, Clause.texts]

theorem AlterTable.texts_accept {s s' : AlterTable} {op : AlterOperation}
    (h : s.accept d op = .ok s') : s'.texts ⊆ s.texts ++ op.texts := by
  obtain ⟨_, -, rfl⟩ := bind_pure_eq_ok_iff.mp h
  simp [texts]

theorem CreateIndex.texts_accept {s s' : CreateIndex} {c : CreateIndex.Clause}
    (h : s.accept d c = .ok s') : s'.texts ⊆ s.texts ++ c.texts := by
  cases c with
  | on table =>
    obtain rfl := Except.ok.inj h
    intro t ht
    simp only [texts, Clause.texts, List.mem_map, List.mem_cons, List.mem_append, Option.mem_toList,
      Option.some.injEq] at ht ⊢
    grind
  | columns names =>
    obtain rfl := Except.ok.inj h
    simp [texts, Clause.texts]
  | unique =>
    obtain rfl := Except.ok.inj h
    exact List.subset_append_left _ _
  | ifNotExists =>
    obtain ⟨-, rfl⟩ := ite_ok_eq_ok_iff.mp h
    exact List.subset_append_left _ _

theorem Insert.texts_extend (s : Insert) (c : Insert.Clause) :
    (s.extend c).texts ⊆ s.texts ++ c.texts := by
  intro t ht
  cases c with
  | columns names =>
    simp only [texts, extend, expressions, Clause.texts, List.mem_append, List.map_cons,
      List.map_append, List.mem_cons] at ht ⊢
    tauto
  | values row =>
    simp only [texts, extend, expressions, Clause.texts, List.mem_append, List.flatten_append,
      List.flatMap_append, List.flatten_singleton] at ht ⊢
    tauto

theorem Select.texts_extend (s : Select) (c : Select.Clause) :
    (s.extend c).texts ⊆ s.texts ++ c.texts := by
  intro t ht
  cases c with
  | condition step =>
    simp only [texts, extend, expressions, Clause.texts, WhereGroup.operands_eq_flatMap,
      WhereGroup.leaves_step, List.mem_append, List.flatMap_append] at ht ⊢
    tauto
  | _ =>
    simp only [texts, extend, expressions, Clause.texts, List.mem_append, List.map_append,
      List.flatMap_append, List.map_cons, List.map_nil, List.flatMap_cons, List.flatMap_nil,
      List.append_nil] at ht ⊢
    tauto

/-! ## Scripts -/

/-- How a statement is drafted: the name that the draft begins with, and the clauses. -/
inductive Script where
  | dropTable (table : String) (cs : List DropTable.Clause)
  | createTable (table : String) (cs : List CreateTable.Clause)
  | alterTable (table : String) (ops : List AlterOperation)
  | createIndex (name : String) (cs : List CreateIndex.Clause)
  | insert (table : String) (cs : List Insert.Clause)
  | select (cs : List Select.Clause)

namespace Script

/-- The draft of an alteration. -/
def altered (d : Dialect) (table : String) (ops : List AlterOperation) : Draft AlterTable :=
  ({ content := { table } } : Draft AlterTable).addAll d ops

/-- The queries that a script can give: the statement as one query, or each change of an alteration
as a query of its own. -/
inductive Gives (d : Dialect) : Script → Query → Prop
  | dropTable {table : String} {cs : List DropTable.Clause} {q : Query}
      (h : Statement.draft d ({ table } : DropTable) cs = .ok q) : Gives d (.dropTable table cs) q
  | createTable {table : String} {cs : List CreateTable.Clause} {q : Query}
      (h : Statement.draft d ({ table } : CreateTable) cs = .ok q) :
      Gives d (.createTable table cs) q
  | alterTable {table : String} {ops : List AlterOperation} {q : Query}
      (h : Statement.draft d ({ table } : AlterTable) ops = .ok q) :
      Gives d (.alterTable table ops) q
  | alterEach {table : String} {ops : List AlterOperation} {qs : List Query} {q : Query}
      (h : (altered d table ops).preview (AlterTable.toQueries d) = .ok qs) (hq : q ∈ qs) :
      Gives d (.alterTable table ops) q
  | createIndex {name : String} {cs : List CreateIndex.Clause} {q : Query}
      (h : Statement.draft d ({ name } : CreateIndex) cs = .ok q) : Gives d (.createIndex name cs) q
  | insert {table : String} {cs : List Insert.Clause} {q : Query}
      (h : Statement.draft d ({ table } : Insert) cs = .ok q) : Gives d (.insert table cs) q
  | select {cs : List Select.Clause} {q : Query}
      (h : Statement.draft d ({} : Select) cs = .ok q) : Gives d (.select cs) q

/-- What the user of a script wrote as a name or as a string literal. -/
def texts : Script → List QuotedText
  | .dropTable table _ => [.name table]
  | .createTable table cs => .name table :: cs.flatMap CreateTable.Clause.texts
  | .alterTable table ops => .name table :: ops.flatMap AlterOperation.texts
  | .createIndex name cs => .name name :: cs.flatMap CreateIndex.Clause.texts
  | .insert table cs => .name table :: cs.flatMap Insert.Clause.texts
  | .select cs => cs.flatMap Select.Clause.texts

/-- The expressions of the statement that a script drafts, in the order in which they
are written. -/
def expressions (d : Dialect) : Script → List Expr
  | .insert table cs => (({ content := { table } } : Draft Insert).addAll d cs).content.expressions
  | .select cs => (({ content := {} } : Draft Select).addAll d cs).content.expressions
  | _ => []

/-- What a script gives is a sound fragment spelled out. It puts nothing between quotes but what the
script mentions, and its values are the bound values of the expressions in their order. -/
theorem exists_sound {s : Script} {q : Query} (hd : d.Regular) (h : s.Gives d q) :
    ∃ f : Fragment, q = f.toQuery d ∧ f.Sound {t | t ∈ s.texts} ∧
      f.binds = (s.expressions d).flatMap Expr.binds := by
  cases h with
  | dropTable h =>
    obtain ⟨f, hq, hsound, hbinds⟩ := Draft.exists_sound DropTable.texts (fun _ ↦ []) (fun _ ↦ [])
      (fun a c a' ha ↦ by simpa using DropTable.texts_accept ha)
      (fun a f hf ↦ DropTable.sound_fragment hf fun t ht ↦ ht) h
    exact ⟨f, hq, hsound.mono (by simp [DropTable.texts, texts]), hbinds⟩
  | createTable h =>
    obtain ⟨f, hq, hsound, hbinds⟩ := Draft.exists_sound CreateTable.texts CreateTable.Clause.texts
      (fun _ ↦ []) (fun a c a' ↦ CreateTable.texts_accept)
      (fun a f hf ↦ CreateTable.sound_fragment hd hf fun t ht ↦ ht) h
    exact ⟨f, hq, hsound.mono (by simp [CreateTable.texts, texts]), hbinds⟩
  | alterTable h =>
    obtain ⟨f, hq, hsound, hbinds⟩ := Draft.exists_sound AlterTable.texts AlterOperation.texts
      (fun _ ↦ []) (fun a c a' ↦ AlterTable.texts_accept)
      (fun a f hf ↦
        AlterTable.sound_statement hd (AlterTable.statement_of_fragment hf) List.mem_cons_self
        fun op hop t ht ↦ List.mem_cons_of_mem _ (List.mem_flatMap_of_mem hop ht)) h
    exact ⟨f, hq, hsound.mono (by simp [AlterTable.texts, texts]), hbinds⟩
  | @alterEach table ops qs q h hq =>
    obtain ⟨-, -, h⟩ := Draft.preview_eq_ok_iff.mp h
    obtain ⟨-, fs, hfs, rfl⟩ := AlterTable.toQueries_eq_ok_iff.mp h
    obtain ⟨f, hf, rfl⟩ := List.mem_map.mp hq
    -- A single change writes no more than all of them.
    have hwrites : ∀ f ∈ fs, f.Sound {t | t ∈ (altered d table ops).content.texts} ∧
        f.binds = [] := by
      refine forall_mem_of_forall₂ hfs ?_
      intro op hop f hf
      apply AlterTable.sound_statement hd hf List.mem_cons_self
      intro op' hop' t ht
      obtain rfl := List.mem_singleton.mp hop'
      exact List.mem_cons_of_mem _ (List.mem_flatMap_of_mem hop ht)
    have hmentions : (altered d table ops).content.texts ⊆ texts (.alterTable table ops) :=
      Draft.texts_addAll (fun a c a' ↦ AlterTable.texts_accept)
        ({ content := { table } } : Draft AlterTable) ops
    exact ⟨f, rfl, (hwrites f hf).1.mono fun t ht ↦ hmentions ht, (hwrites f hf).2⟩
  | createIndex h =>
    obtain ⟨f, hq, hsound, hbinds⟩ := Draft.exists_sound CreateIndex.texts CreateIndex.Clause.texts
      (fun _ ↦ []) (fun a c a' ↦ CreateIndex.texts_accept)
      (fun a f hf ↦ CreateIndex.sound_fragment hf fun t ht ↦ ht) h
    exact ⟨f, hq, hsound.mono (by simp [CreateIndex.texts, texts]), hbinds⟩
  | insert h =>
    obtain ⟨f, hq, hsound, hbinds⟩ :=
      Draft.exists_sound Insert.texts Insert.Clause.texts Insert.expressions
      (fun a c a' ha ↦ Except.ok.inj ha ▸ Insert.texts_extend a c)
      (fun a f hf ↦ ⟨Insert.sound_fragment hd hf fun t ht ↦ ht, Insert.binds_fragment hf⟩) h
    exact ⟨f, hq, hsound.mono (by simp [Insert.texts, Insert.expressions, texts]), hbinds⟩
  | select h =>
    obtain ⟨f, hq, hsound, hbinds⟩ :=
      Draft.exists_sound Select.texts Select.Clause.texts Select.expressions
      (fun a c a' ha ↦ Except.ok.inj ha ▸ Select.texts_extend a c)
      (fun a f hf ↦ ⟨Select.sound_fragment hd hf fun t ht ↦ ht, Select.binds_fragment hf⟩) h
    have hempty : ({} : Select).texts = [] := by
      simp [Select.texts, Select.expressions, WhereGroup.operands, Predicate.operandsAll]
    exact ⟨f, hq, hsound.mono (by simp [hempty, texts]), hbinds⟩

end Script

end SqlBuilder
