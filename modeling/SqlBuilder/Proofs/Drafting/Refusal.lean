import SqlBuilder.Dialect.BuiltIn
import SqlBuilder.Proofs.Drafting.Lifecycle
import SqlBuilder.Proofs.Drafting.Refusable

/-!
# Refusals in a conversation

A draft keeps the first refusal and reports it instead of a statement, while later clauses that are
accepted still add to the content. As long as nothing is rendered, a conversation makes of a draft
what its clauses alone make of it, so both are proved for lists of clauses.
-/

namespace SqlBuilder

open BuildError

variable {d : Dialect} {P : BuildError → Prop}

/-! ## Drafts without a render -/

/-- The clause that a call brings. -/
def Call.clause? {κ ξ : Type} : Call κ ξ → Option κ
  | .clause k => some k
  | _ => none

/-- The clauses that calls bring, in their order. -/
def clausesOf {κ ξ : Type} (cs : List (Call κ ξ)) : List κ :=
  cs.filterMap Call.clause?

/-- No call that only one statement knows brings a clause. -/
class SpecialCall.Clauseless (ξ : Type) [SpecialCall ξ] : Prop where
  role_ne_clause (x : ξ) : SpecialCall.role x ≠ .clause

instance : SpecialCall.Clauseless Empty where
  role_ne_clause := nofun

instance : SpecialCall.Clauseless AlterCall where
  role_ne_clause x := by cases x <;> exact nofun

instance : SpecialCall.Clauseless SelectCall where
  role_ne_clause x := by cases x <;> exact nofun

namespace Draft

variable {α κ ξ σ ρ ε : Type} [Statement α κ] {b : Draft α}

theorem addAll_append (b : Draft α) (ks ls : List κ) :
    b.addAll d (ks ++ ls) = (b.addAll d ks).addAll d ls :=
  List.foldl_append

theorem stage_addAll (d : Dialect) (b : Draft α) (ks : List κ) :
    (b.addAll d ks).stage = b.stage := by
  induction ks generalizing b with
  | nil => rfl
  | cons k ks ih => exact (ih (b.add d k)).trans (stage_add d b k)

section

variable [SpecialCall ξ] [SpecialCall.Clauseless ξ] [Conversant α κ ξ] [Connection σ ρ ε]
  {db : Database σ} {b' : Draft α}

/-- A call that does not render a draft adds the clause that it brings, and does nothing else. -/
theorem eq_addAll_of_goesOn {c : Call κ ξ} {r : Reply ρ ε} (hc : ¬c.role.IsRender)
    (h : b.answer db c = .goesOn r b') : b' = b.addAll db.dialect c.clause?.toList := by
  have hleads := leads_answer db b c
  rw [h] at hleads
  cases c with
  | clause k => exact (Outcome.goesOn.inj h).2.symm
  | preview => exact (Outcome.goesOn.inj h).2.symm
  | stage => exact (Outcome.goesOn.inj h).2.symm
  | render => exact absurd ⟨.whole, rfl⟩ hc
  | run => exact nomatch h
  | special x =>
    have hclause : (Call.special x : Call κ ξ).role ≠ .clause :=
      SpecialCall.Clauseless.role_ne_clause x
    generalize (Call.special x : Call κ ξ).role = role at hc hclause hleads
    cases hleads with
    | clause k => exact absurd rfl hclause
    | look => rfl
    | preview f => rfl
    | render f => exact absurd ⟨f, rfl⟩ hc

/-- Where nothing is rendered, the clauses alone decide what a conversation makes of a draft. -/
theorem eq_addAll_of_after {cs : List (Call κ ξ)} (hcs : ∀ c ∈ cs, ¬c.role.IsRender)
    (h : b.after db cs = some b') : b' = b.addAll db.dialect (clausesOf cs) := by
  induction cs generalizing b with
  | nil => exact (Option.some.inj h).symm
  | cons c cs ih =>
    obtain ⟨hc, hcs⟩ := List.forall_mem_cons.mp hcs
    cases hanswer : b.answer db c with
    | ends r db' =>
      rw [after_cons_of_ends hanswer] at h
      exact nomatch h
    | goesOn r b₁ =>
      rw [after_cons_of_goesOn hanswer] at h
      rw [ih hcs h, eq_addAll_of_goesOn hc hanswer, ← addAll_append, clausesOf, clausesOf,
        List.filterMap_cons]
      cases c.clause? <;> rfl

/-- An open draft is what its clauses alone made of it. -/
theorem eq_addAll_of_building {cs : List (Call κ ξ)} (h : b.after db cs = some b')
    (hb : b'.stage = .building) : b' = b.addAll db.dialect (clausesOf cs) := by
  refine eq_addAll_of_after (fun c hc hrender ↦ ?_) h
  have hspent : b'.stage = .rendered := (stage_after h).mpr (Or.inr ⟨c, hc, hrender⟩)
  rw [hb] at hspent
  exact nomatch hspent

end

/-! ## Refusals in a draft -/

section

variable [Refusable κ] [ClauseWise α]

/-- The clauses that the dialect accepts, in their order. -/
def acceptedClauses (d : Dialect) (ks : List κ) : List κ :=
  ks.filter fun k ↦ (refusal? d k).isNone

theorem acceptedClauses_eq_self {ks : List κ} (h : ∀ k ∈ ks, refusal? d k = none) :
    acceptedClauses d ks = ks :=
  List.filter_eq_self.mpr fun k hk ↦ Option.isNone_iff_eq_none.mpr (h k hk)

theorem add_of_accepted (hb : b.stage = .building) {k : κ} (hk : refusal? d k = none) :
    b.add d k = { b with content := ClauseWise.extended b.content k } := by
  rw [add, hb, ClauseWise.accept_eq, hk]
  rfl

theorem add_of_refused (hb : b.stage = .building) {k : κ} {e : BuildError}
    (hk : refusal? d k = some e) : b.add d k = b.refuse e := by
  rw [add, hb, ClauseWise.accept_eq, hk]
  rfl

/-- Of all refusals a draft keeps the first one. -/
theorem refusal_addAll (hb : b.stage = .building) (ks : List κ) :
    (b.addAll d ks).refusal = b.refusal.or (ks.findSome? (refusal? d)) := by
  induction ks generalizing b with
  | nil => exact (Option.or_none).symm
  | cons k ks ih =>
    have hstage : (b.add d k).stage = .building := (stage_add d b k).trans hb
    have hrest : (b.addAll d (k :: ks)).refusal
        = (b.add d k).refusal.or (ks.findSome? (refusal? d)) := ih hstage
    rw [hrest, List.findSome?_cons]
    cases hk : refusal? d k with
    | none => rw [add_of_accepted hb hk]
    | some e =>
      rw [add_of_refused hb hk, refuse, Option.or_assoc]
      rfl

/-- A new draft reports nothing exactly if it accepts all clauses. -/
theorem refusal_addAll_eq_none_iff {start : α} {ks : List κ} :
    (({ content := start } : Draft α).addAll d ks).refusal = none
      ↔ ∀ k ∈ ks, refusal? d k = none := by
  rw [refusal_addAll rfl, Option.none_or, List.findSome?_eq_none_iff]

/-- Refused clauses leave no trace in the content, and every accepted one does. -/
theorem content_addAll (hb : b.stage = .building) (ks : List κ) :
    (b.addAll d ks).content = (acceptedClauses d ks).foldl ClauseWise.extended b.content := by
  induction ks generalizing b with
  | nil => rfl
  | cons k ks ih =>
    have hstage : (b.add d k).stage = .building := (stage_add d b k).trans hb
    have hrest : (b.addAll d (k :: ks)).content
        = (acceptedClauses d ks).foldl ClauseWise.extended (b.add d k).content := ih hstage
    rw [hrest, acceptedClauses, acceptedClauses, List.filter_cons]
    cases hk : refusal? d k with
    | none =>
      rw [add_of_accepted hb hk]
      rfl
    | some e =>
      rw [add_of_refused hb hk]
      rfl

end

/-! ## What is reported -/

theorem preview_of_refusal {β : Type} (hb : b.stage = .building) {e : BuildError}
    (h : b.refusal = some e) (build : α → Except BuildError β) : b.preview build = .error e := by
  rw [preview, hb, h]

theorem preview_of_accepted {β : Type} (hb : b.stage = .building) (h : b.refusal = none)
    (build : α → Except BuildError β) : b.preview build = build b.content := by
  rw [preview, hb, h]

variable [SpecialCall ξ] [Conversant α κ ξ] [Connection σ ρ ε]

/-- Previews and renders show what the draft gives. -/
theorem exists_reply_eq_shown {c : Call κ ξ} (hc : c.role.IsPreview ∨ c.role.IsRender)
    (db : Database σ) (b : Draft α) :
    ∃ f, (b.answer db c).reply = Conversant.shown db.dialect b f := by
  rcases hc with ⟨f, hf⟩ | ⟨f, hf⟩
  · exact ⟨f, by rw [answer_of_role_preview hf]; rfl⟩
  · exact ⟨f, by rw [answer_of_role_render hf]; rfl⟩

variable [Refusable κ] [ClauseWise α]

/-- How refusals come out in every conversation with a draft, up to its first render. -/
structure ReportsRefusals (db : Database σ) (start : Draft α) : Prop where
  /-- Whether a clause is refused depends on the clause and the dialect alone. -/
  accept_eq : ∀ (a : α) (k : κ), Statement.accept db.dialect a k =
    (refusal? db.dialect k).elim (.ok (ClauseWise.extended a k)) .error
  /-- Every clause that is not refused adds to the content, whatever was refused before. -/
  content_eq : ∀ cs b, start.after db cs = some b → (∀ c ∈ cs, ¬c.role.IsRender) →
    b.content = (acceptedClauses db.dialect (clausesOf cs)).foldl ClauseWise.extended start.content
  /-- The first refusal is the answer to every preview and to the first render. -/
  refused : ∀ cs b c e, start.after db cs = some b → (∀ c ∈ cs, ¬c.role.IsRender) →
    c.role.IsPreview ∨ c.role.IsRender →
    (clausesOf cs).findSome? (refusal? db.dialect) = some e →
    (b.answer db c).reply = .failed (.build e)
  /-- If nothing was refused, what is left are the faults of no single clause. -/
  accepted : ∀ cs b c x, start.after db cs = some b → (∀ c ∈ cs, ¬c.role.IsRender) →
    c.role.IsPreview ∨ c.role.IsRender →
    (clausesOf cs).findSome? (refusal? db.dialect) = none →
    (b.answer db c).reply = .failed x → ∃ e, x = .build e ∧ e.IsLate (Statement.kind α)

theorem reportsRefusals [SpecialCall.Clauseless ξ] (db : Database σ) (start : α)
    (Holds : α → Prop) (hstart : Holds start)
    (hextended : ∀ a k, refusal? db.dialect k = none → Holds a → Holds (ClauseWise.extended a k))
    (hrefused : ∀ (b : Draft α) f e, b.stage = .building → b.refusal = some e →
      (Conversant.shown db.dialect b f : Reply ρ ε) = .failed (.build e))
    (hlate : ∀ (b : Draft α) f x, b.stage = .building → b.refusal = none → Holds b.content →
      (Conversant.shown db.dialect b f : Reply ρ ε) = .failed x →
      ∃ e, x = .build e ∧ e.IsLate (Statement.kind α)) :
    ReportsRefusals db ({ content := start } : Draft α) where
  accept_eq := ClauseWise.accept_eq _
  content_eq cs b h hcs := by
    rw [eq_addAll_of_after hcs h, content_addAll rfl]
  refused cs b c e h hcs hc he := by
    obtain rfl := eq_addAll_of_after hcs h
    obtain ⟨f, hf⟩ := exists_reply_eq_shown hc db
      (({ content := start } : Draft α).addAll db.dialect (clausesOf cs))
    rw [hf]
    refine hrefused _ f e (stage_addAll _ _ _) ?_
    rw [refusal_addAll rfl, he]
    rfl
  accepted cs b c x h hcs hc hnone hx := by
    obtain rfl := eq_addAll_of_after hcs h
    obtain ⟨f, hf⟩ := exists_reply_eq_shown hc db
      (({ content := start } : Draft α).addAll db.dialect (clausesOf cs))
    rw [hf] at hx
    refine hlate _ f x (stage_addAll _ _ _) ?_ ?_ hx
    · rw [refusal_addAll rfl, hnone]
      rfl
    · rw [content_addAll rfl]
      refine List.foldlRecOn _ _ hstart fun a ha k hk ↦ hextended a k ?_ ha
      exact Option.isNone_iff_eq_none.mp (List.mem_filter.mp hk).2

/-! ## Open drafts -/

section

variable [SpecialCall.Clauseless ξ] {db : Database σ} {start : α} {cs : List (Call κ ξ)}

/-- If no clause is ever refused, then an open draft has all of them. -/
theorem content_of_building (haccept : ∀ k : κ, refusal? db.dialect k = none)
    (h : ({ content := start } : Draft α).after db cs = some b) (hb : b.stage = .building) :
    b.content = (clausesOf cs).foldl ClauseWise.extended start := by
  rw [eq_addAll_of_building h hb, content_addAll rfl,
    acceptedClauses_eq_self fun k _ ↦ haccept k]

/-- If no clause is ever refused, then an open draft gives the query of its content. -/
theorem toQuery_of_building (haccept : ∀ k : κ, refusal? db.dialect k = none)
    (h : ({ content := start } : Draft α).after db cs = some b) (hb : b.stage = .building) :
    b.toQuery db.dialect = Statement.toQuery db.dialect b.content := by
  have hfirst : b.refusal = none := by
    rw [eq_addAll_of_building h hb, refusal_addAll_eq_none_iff]
    exact fun k _ ↦ haccept k
  rw [toQuery, preview_of_accepted hb hfirst]

end

end Draft

/-! ## All statements about tables -/

section

variable {σ ρ ε : Type}

theorem Reply.ofQuery_eq_failed_iff {q : Except BuildError Query} {x : Failure ε} :
    (.ofQuery q : Reply ρ ε) = .failed x ↔ ∃ e, x = .build e ∧ q = .error e := by
  cases q with
  | ok q => simp [ofQuery]
  | error e => simp [ofQuery, eq_comm]

theorem Reply.ofQueries_eq_failed_iff {qs : Except BuildError (List Query)} {x : Failure ε} :
    (.ofQueries qs : Reply ρ ε) = .failed x ↔ ∃ e, x = .build e ∧ qs = .error e := by
  cases qs with
  | ok qs => simp [ofQueries]
  | error e => simp [ofQueries, eq_comm]

namespace Draft

variable {α κ : Type} [Statement α κ]

theorem failsOnly_toQuery [Fragmented α] {a : α} (h : FailsOnly (Fragmented.fragment d a) P) :
    FailsOnly (Statement.toQuery d a) P := by
  rw [Statement.toQuery_eq]
  exact h.bind fun _ _ ↦ failsOnly_ok _

/-- Statements that have one form. -/
theorem reportsRefusals_plain [Fragmented α] [Refusable κ] [ClauseWise α] [Conversant α κ Empty]
    [Connection σ ρ ε] (db : Database σ) (start : α) (Holds : α → Prop) (hstart : Holds start)
    (hextended : ∀ a k, refusal? db.dialect k = none → Holds a → Holds (ClauseWise.extended a k))
    (hshown : ∀ (b : Draft α) f,
      (Conversant.shown db.dialect b f : Reply ρ ε) = .ofQuery (b.toQuery db.dialect))
    (hlate : ∀ a, Holds a →
      FailsOnly (Fragmented.fragment db.dialect a) (IsLate (Statement.kind α))) :
    ReportsRefusals db ({ content := start } : Draft α) := by
  refine reportsRefusals db start Holds hstart hextended (fun b f e hb he ↦ ?_)
    fun b f x hb hnone ha hx ↦ ?_
  · rw [hshown, toQuery, preview_of_refusal hb he]
    rfl
  · rw [hshown, toQuery, preview_of_accepted hb hnone] at hx
    obtain ⟨e, rfl, he⟩ := Reply.ofQuery_eq_failed_iff.mp hx
    exact ⟨e, rfl, failsOnly_toQuery (hlate _ ha) e he⟩

variable [Connection σ ρ ε]

theorem reportsRefusals_createTable (db : Database σ) (table : String) :
    ReportsRefusals db ({ content := { table } } : Draft CreateTable) := by
  refine reportsRefusals_plain db _
    (fun s ↦ ∀ c ∈ s.columns, c.refusal? db.dialect = none)
    (fun _ h ↦ nomatch h) (fun s k hk hs ↦ ?_) (fun _ _ ↦ rfl)
    fun s hs ↦ CreateTable.failsOnly_fragment hs
  cases k with
  | ifNotExists => exact hs
  | column c =>
    intro c' hc'
    rcases List.mem_append.mp hc' with hold | hnew
    · exact hs c' hold
    · obtain rfl := List.mem_singleton.mp hnew
      exact hk

theorem reportsRefusals_alterTable (db : Database σ) (table : String) :
    ReportsRefusals db ({ content := { table } } : Draft AlterTable) := by
  refine reportsRefusals db _ (fun s ↦ ∀ op ∈ s.operations, refusal? db.dialect op = none)
    (fun _ h ↦ nomatch h) (fun s op hop hs op' hop' ↦ ?_) (fun b f e hb he ↦ ?_)
    fun b f x hb hnone hs hx ↦ ?_
  · rcases List.mem_append.mp hop' with hold | hnew
    · exact hs op' hold
    · obtain rfl := List.mem_singleton.mp hnew
      exact hop
  · cases f with
    | whole =>
      refine Reply.ofQuery_eq_failed_iff.mpr ⟨e, rfl, preview_of_refusal hb he _⟩
    | each => exact Reply.ofQueries_eq_failed_iff.mpr ⟨e, rfl, preview_of_refusal hb he _⟩
  · cases f with
    | whole =>
      obtain ⟨e, rfl, he⟩ := Reply.ofQuery_eq_failed_iff.mp hx
      rw [toQuery, preview_of_accepted hb hnone] at he
      exact ⟨e, rfl, failsOnly_toQuery (AlterTable.failsOnly_fragment hs) e he⟩
    | each =>
      obtain ⟨e, rfl, he⟩ := Reply.ofQueries_eq_failed_iff.mp hx
      rw [preview_of_accepted hb hnone] at he
      exact ⟨e, rfl, AlterTable.failsOnly_toQueries hs e he⟩

/-- **Refusals.** Every statement about tables reports the first clause that the dialect refuses,
and without one it fails for no fault of a clause. -/
theorem refusals_reported (db : Database σ) :
    (∀ table, ReportsRefusals db ({ content := { table } } : Draft DropTable)) ∧
    (∀ table, ReportsRefusals db ({ content := { table } } : Draft CreateTable)) ∧
    (∀ name, ReportsRefusals db ({ content := { name } } : Draft CreateIndex)) ∧
    ∀ table, ReportsRefusals db ({ content := { table } } : Draft AlterTable) :=
  ⟨fun _ ↦ reportsRefusals_plain db _ (fun _ ↦ True) trivial (fun _ _ _ _ ↦ trivial)
      (fun _ _ ↦ rfl) fun s _ ↦ DropTable.failsOnly_fragment s,
    reportsRefusals_createTable db,
    fun _ ↦ reportsRefusals_plain db _ (fun _ ↦ True) trivial (fun _ _ _ _ ↦ trivial)
      (fun _ _ ↦ rfl) fun s _ ↦ CreateIndex.failsOnly_fragment s,
    reportsRefusals_alterTable db⟩

/-- A dialect with a rule of its own for literals, which spells no truth values. -/
def truthless : Dialect :=
  { Dialect.sqlite with
    ownRenderLiteral := some fun
      | .boolean _ => .error (.invalidTypeToken "BOOLEAN")
      | l => .ok (Dialect.sqlite.usualText l) }

/-- A column that goes, a column with a truth value, and a change of type that the dialect does not
know either. -/
def flagCalls : List (Call AlterOperation AlterCall) :=
  [.clause (.dropColumn "a"),
    .clause (.addColumn
      { name := "b", dataType := .int, constraints := [.default (.boolean true)] }),
    .preview, .clause (.modifyColumn "c" .text)]

/-- The draft that `flagCalls` leave. -/
def flagDraft : Draft AlterTable where
  content := { table := "t", operations := [.dropColumn "a"] }
  refusal := some (.invalidTypeToken "BOOLEAN")

theorem refusals_reported_truthless :
    ({ content := { table := "t" } } : Draft AlterTable).after
        { dialect := truthless, connection := ({} : DryRun) } flagCalls = some flagDraft ∧
      (∀ c ∈ flagCalls, ¬c.role.IsRender) ∧
      (clausesOf flagCalls).findSome? (refusal? truthless) = some (.invalidTypeToken "BOOLEAN") ∧
      (flagDraft.answer { dialect := truthless, connection := ({} : DryRun) }
        (.special .renderEach)).reply = .failed (.build (.invalidTypeToken "BOOLEAN")) := by
  have hafter : ({ content := { table := "t" } } : Draft AlterTable).after
      { dialect := truthless, connection := ({} : DryRun) } flagCalls = some flagDraft := by
    rfl
  have hopen : ∀ c ∈ flagCalls, ¬c.role.IsRender := by decide
  have hfirst : (clausesOf flagCalls).findSome? (refusal? truthless)
      = some (.invalidTypeToken "BOOLEAN") := by
    rfl
  have hreports := (refusals_reported { dialect := truthless, connection := ({} : DryRun) }).2.2.2
  exact ⟨hafter, hopen, hfirst,
    (hreports "t").refused flagCalls flagDraft _ _ hafter hopen (Or.inr ⟨.each, rfl⟩) hfirst⟩

/-- The second refusal is forgotten, and the change between them is kept. -/
example (connection : σ) :
    (({ content := { table := "t" } } : Draft AlterTable).answers
      { dialect := .sqlite, connection }
      [.clause (.modifyColumn "a" .text), .clause (.dropColumn "b"),
        .clause (.addColumn { name := "c", dataType := .uuid }), .special .operations,
        .special .renderEach]).1.drop 3 =
      [.operations [.dropColumn "b"],
        .failed (.build (.unsupportedAlter "sqlite" .modifyColumn))] := by
  rfl

end Draft

end

end SqlBuilder
