import Mathlib.Data.List.Basic
import SqlBuilder.Dialect.BuiltIn
import SqlBuilder.Proofs.Drafting.Conversation

/-!
# The life of a draft

A draft is open until the first call that renders it, and spent from then on, whether or not that
call gave anything. What matters is only that such a call was made: a spent draft keeps what its
clauses made of it and answers every preview and every render with the message that it was rendered.
Previews leave no trace at all, so a conversation without them goes as it would have gone with them.

Everything is proved for one call first, by the roles of calls, and then along the conversation.
-/

namespace SqlBuilder

namespace Draft

variable {α κ ξ σ ρ ε : Type} [Statement α κ] [SpecialCall ξ] [Conversant α κ ξ]
  [Connection σ ρ ε]

variable {db db' : Database σ} {b b' : Draft α} {c : Call κ ξ} {cs : List (Call κ ξ)}
  {r : Reply ρ ε} {f : Form}

/-! ## One call -/

/-- A conversation goes on with one more clause, with the same draft, or with a spent one. -/
theorem next_of_goesOn (h : b.answer db c = .goesOn r b') :
    (¬c.role.IsRender ∧ ∃ k, b' = b.add db.dialect k) ∨ (¬c.role.IsRender ∧ b' = b) ∨
      (c.role.IsRender ∧ b' = { b with stage := .rendered }) := by
  have hleads := leads_answer db b c
  rw [h] at hleads
  generalize c.role = role at hleads ⊢
  cases hleads with
  | clause k => exact Or.inl ⟨by simp [Role.IsRender], k, rfl⟩
  | look => exact Or.inr (Or.inl ⟨by simp [Role.IsRender], rfl⟩)
  | preview f => exact Or.inr (Or.inl ⟨by simp [Role.IsRender], rfl⟩)
  | render f => exact Or.inr (Or.inr ⟨⟨f, rfl⟩, rfl⟩)

/-- Only a call that renders makes a draft spent. -/
theorem stage_of_goesOn (h : b.answer db c = .goesOn r b') :
    b'.stage = .rendered ↔ b.stage = .rendered ∨ c.role.IsRender := by
  rcases next_of_goesOn h with ⟨hc, k, rfl⟩ | ⟨hc, rfl⟩ | ⟨hc, rfl⟩
  · rw [stage_add, or_iff_left hc]
  · rw [or_iff_left hc]
  · exact iff_of_true rfl (Or.inr hc)

/-- A spent draft keeps its content. -/
theorem content_of_goesOn (hb : b.stage = .rendered) (h : b.answer db c = .goesOn r b') :
    b'.content = b.content := by
  rcases next_of_goesOn h with ⟨-, k, rfl⟩ | ⟨-, rfl⟩ | ⟨-, rfl⟩
  · exact content_add_of_rendered hb _ _
  · rfl
  · rfl

/-- A preview shows what the draft gives and leaves the draft as it is. -/
theorem answer_of_role_preview (h : c.role = .preview f) (db : Database σ) (b : Draft α) :
    b.answer db c = .goesOn (Conversant.shown db.dialect b f) b := by
  have hleads := leads_answer db b c
  rw [h] at hleads
  generalize b.answer db c = outcome at hleads ⊢
  cases hleads
  rfl

theorem answer_of_role_render (h : c.role = .render f) (db : Database σ) (b : Draft α) :
    b.answer db c =
      .goesOn (Conversant.shown db.dialect b f) { b with stage := .rendered } := by
  have hleads := leads_answer db b c
  rw [h] at hleads
  generalize b.answer db c = outcome at hleads ⊢
  cases hleads
  rfl

/-- A render gives what the preview in the same form shows. -/
theorem reply_render_eq_preview {p : Call κ ξ} (hc : c.role = .render f) (hp : p.role = .preview f)
    (db : Database σ) (b : Draft α) : (b.answer db c).reply = (b.answer db p).reply := by
  rw [answer_of_role_render hc, answer_of_role_preview hp]
  rfl

/-- A spent draft answers previews and renders with the message that it was rendered. -/
theorem reply_of_rendered (hb : b.stage = .rendered) (hc : c.role.IsPreview ∨ c.role.IsRender)
    (db : Database σ) :
    (b.answer db c).reply = .failed (.build (.alreadyRendered (Statement.kind α))) := by
  have hshown := Conversant.shown_of_rendered (ρ := ρ) (ε := ε) db.dialect b
  rcases hc with ⟨f, hf⟩ | ⟨f, hf⟩
  · rw [answer_of_role_preview hf]
    exact hshown f hb
  · rw [answer_of_role_render hf]
    exact hshown f hb

/-! ## Along a conversation -/

theorem stage_after (h : b.after db cs = some b') :
    b'.stage = .rendered ↔ b.stage = .rendered ∨ ∃ c ∈ cs, c.role.IsRender := by
  induction cs generalizing b with
  | nil =>
    obtain rfl := Option.some.inj h
    simp
  | cons c cs ih =>
    cases hc : b.answer db c with
    | goesOn r b₁ =>
      rw [after_cons_of_goesOn hc] at h
      rw [ih h, stage_of_goesOn hc, List.exists_mem_cons_iff, or_assoc]
    | ends r db' =>
      rw [after_cons_of_ends hc] at h
      exact nomatch h

/-- What every call keeps from which a conversation goes on is kept along a conversation. -/
theorem after_invariant {P : Draft α → Prop}
    (hstep : ∀ (b b' : Draft α) (c : Call κ ξ) (r : Reply ρ ε), b.answer db c = .goesOn r b' →
      P b → P b')
    (hb : P b) (h : b.after db cs = some b') : P b' := by
  induction cs generalizing b with
  | nil =>
    obtain rfl := Option.some.inj h
    exact hb
  | cons c cs ih =>
    cases hc : b.answer db c with
    | goesOn r b₁ =>
      rw [after_cons_of_goesOn hc] at h
      exact ih (hstep _ _ _ _ hc hb) h
    | ends r db' =>
      rw [after_cons_of_ends hc] at h
      exact nomatch h

/-- A spent draft keeps its content along a conversation. -/
theorem content_after (hb : b.stage = .rendered) (h : b.after db cs = some b') :
    b'.content = b.content := by
  have hspent : b'.stage = .rendered ∧ b'.content = b.content := by
    refine after_invariant (P := fun x ↦ x.stage = .rendered ∧ x.content = b.content)
      (fun x x' c r hc hx ↦ ⟨(stage_of_goesOn hc).mpr (Or.inl hx.1), ?_⟩) ⟨hb, rfl⟩ h
    rw [content_of_goesOn hx.1 hc, hx.2]
  exact hspent.2

theorem transcript_cons_of_goesOn (h : b.answer db c = .goesOn r b') :
    b.transcript db (c :: cs) = (c, r) :: b'.transcript db cs := by
  rw [transcript, answers_cons_of_goesOn h, List.zip_cons_cons, transcript]

theorem transcript_cons_of_ends (h : b.answer db c = .ends r db') :
    b.transcript db (c :: cs) = [(c, r)] := by
  rw [transcript, answers_cons_of_ends h, List.zip_cons_cons, List.zip_nil_right]

/-- A conversation without its previews gets the same answers otherwise and leaves the same
database. -/
theorem answers_filter (db : Database σ) (b : Draft α) (cs : List (Call κ ξ)) :
    (b.transcript db (cs.filter fun c ↦ ¬c.role.IsPreview) =
        (b.transcript db cs).filter fun x ↦ ¬x.1.role.IsPreview) ∧
      (b.answers db (cs.filter fun c ↦ ¬c.role.IsPreview)).2 = (b.answers db cs).2 := by
  induction cs generalizing b with
  | nil => exact ⟨rfl, rfl⟩
  | cons c cs ih =>
    by_cases hc : c.role.IsPreview
    · obtain ⟨f, hf⟩ := id hc
      have hanswer := answer_of_role_preview hf db b
      rw [List.filter_cons_of_neg (by simpa using hc), transcript_cons_of_goesOn hanswer,
        List.filter_cons_of_neg (by simpa using hc), answers_cons_of_goesOn hanswer]
      exact ih b
    · rw [List.filter_cons_of_pos (by simpa using hc)]
      cases hanswer : b.answer db c with
      | goesOn r b' =>
        rw [transcript_cons_of_goesOn hanswer, transcript_cons_of_goesOn hanswer,
          List.filter_cons_of_pos (by simpa using hc), answers_cons_of_goesOn hanswer,
          answers_cons_of_goesOn hanswer, (ih b').1]
        exact ⟨rfl, (ih b').2⟩
      | ends r db' =>
        rw [transcript_cons_of_ends hanswer, transcript_cons_of_ends hanswer,
          List.filter_cons_of_pos (by simpa using hc), List.filter_nil,
          answers_cons_of_ends hanswer, answers_cons_of_ends hanswer]
        exact ⟨rfl, rfl⟩

/-! ## The whole life -/

/-- How every conversation with a new draft of a statement goes. -/
structure Lifecycle (db : Database σ) (kind : StatementKind) (start : Draft α) : Prop where
  /-- It goes on until a call uses the draft up. -/
  lasts : ∀ cs, (∀ c ∈ cs, c.role ≠ .finish) → ∃ b, start.after db cs = some b
  /-- The draft is spent exactly when some call rendered it. -/
  rendered_iff : ∀ cs b, start.after db cs = some b →
    (b.stage = .rendered ↔ ∃ c ∈ cs, c.role.IsRender)
  /-- A render gives what the preview in its place would have shown. -/
  render_eq_preview : ∀ cs b f (c p : Call κ ξ), start.after db cs = some b →
    c.role = .render f → p.role = .preview f → (b.answer db c).reply = (b.answer db p).reply
  /-- Behind a render, every preview and every render is refused. -/
  refused : ∀ cs b c, start.after db cs = some b → (∃ c ∈ cs, c.role.IsRender) →
    c.role.IsPreview ∨ c.role.IsRender →
    (b.answer db c).reply = .failed (.build (.alreadyRendered kind))
  /-- Behind a render, the content stays. -/
  kept : ∀ cs b cs' b', start.after db cs = some b → (∃ c ∈ cs, c.role.IsRender) →
    start.after db (cs ++ cs') = some b' → b'.content = b.content
  /-- A preview leaves the draft as it is. -/
  preview_keeps : ∀ cs b c, start.after db cs = some b → c.role.IsPreview →
    start.after db (cs ++ [c]) = some b
  /-- Conversations that differ only in previews differ only in the answers to them. -/
  preview_unseen : ∀ cs cs',
    (cs.filter fun c ↦ ¬c.role.IsPreview) = (cs'.filter fun c ↦ ¬c.role.IsPreview) →
    ((start.transcript db cs).filter fun x ↦ ¬x.1.role.IsPreview) =
        ((start.transcript db cs').filter fun x ↦ ¬x.1.role.IsPreview) ∧
      (start.answers db cs).2 = (start.answers db cs').2

theorem lifecycle (db : Database σ) (start : α) :
    Lifecycle db (Statement.kind α) ({ content := start } : Draft α) where
  lasts _ h := exists_after db _ h
  rendered_iff cs b h := by
    rw [stage_after h, or_iff_right (nomatch ·)]
  render_eq_preview _ b _ _ _ _ hc hp := reply_render_eq_preview hc hp db b
  refused cs b c h hrender hc := by
    have hspent : b.stage = .rendered := (stage_after h).mpr (Or.inr hrender)
    exact reply_of_rendered hspent hc db
  kept cs b cs' b' h hrender h' := by
    have hspent : b.stage = .rendered := (stage_after h).mpr (Or.inr hrender)
    rw [after_append, h, Option.bind_some] at h'
    exact content_after hspent h'
  preview_keeps cs b c h hc := by
    obtain ⟨f, hf⟩ := hc
    rw [after_append, h, Option.bind_some, after_cons_of_goesOn (answer_of_role_preview hf db b)]
    rfl
  preview_unseen cs cs' h := by
    obtain ⟨htranscript, hdatabase⟩ := answers_filter db ({ content := start } : Draft α) cs
    obtain ⟨htranscript', hdatabase'⟩ := answers_filter db ({ content := start } : Draft α) cs'
    rw [← htranscript, ← htranscript', ← hdatabase, ← hdatabase', h]
    exact ⟨rfl, rfl⟩

/-- The drafts of all statements have the same life, each with the message of its own statement. -/
theorem lifecycle_statements (db : Database σ) :
    (∀ table, Lifecycle db .dropTable ({ content := { table } } : Draft DropTable)) ∧
    (∀ table, Lifecycle db .createTable ({ content := { table } } : Draft CreateTable)) ∧
    (∀ table, Lifecycle db .alterTable ({ content := { table } } : Draft AlterTable)) ∧
    (∀ name, Lifecycle db .createIndex ({ content := { name } } : Draft CreateIndex)) ∧
    (∀ table, Lifecycle db .insert ({ content := { table } } : Draft Insert)) ∧
    Lifecycle db .select ({ content := {} } : Draft Select) :=
  ⟨fun _ ↦ lifecycle db _, fun _ ↦ lifecycle db _, fun _ ↦ lifecycle db _, fun _ ↦ lifecycle db _,
    fun _ ↦ lifecycle db _, lifecycle db _⟩

/-- A change of type that is refused, a render that reports the refusal, and a clause too late. -/
def spentCalls : List (Call AlterOperation AlterCall) :=
  [.clause (.modifyColumn "a" .text), .render, .clause (.dropColumn "b")]

/-- The draft that `spentCalls` leave in a dialect that changes no types. -/
def spentDraft : Draft AlterTable where
  content := { table := "t" }
  stage := .rendered
  refusal := some (.unsupportedAlter "sqlite" .modifyColumn)

theorem lifecycle_statements_spent :
    ({ content := { table := "t" } } : Draft AlterTable).after
        { dialect := .sqlite, connection := ({} : DryRun) } spentCalls = some spentDraft ∧
      (∃ c ∈ spentCalls, c.role.IsRender) ∧ spentDraft.stage = .rendered ∧
      (spentDraft.answer { dialect := .sqlite, connection := ({} : DryRun) }
        (.special .previewEach)).reply = .failed (.build (.alreadyRendered .alterTable)) := by
  have hafter : ({ content := { table := "t" } } : Draft AlterTable).after
      { dialect := .sqlite, connection := ({} : DryRun) } spentCalls = some spentDraft := by
    rfl
  have hrender : ∃ c ∈ spentCalls, c.role.IsRender := ⟨.render, by simp [spentCalls], .whole, rfl⟩
  obtain ⟨-, -, halter, -⟩ :=
    lifecycle_statements { dialect := .sqlite, connection := ({} : DryRun) }
  exact ⟨hafter, hrender, ((halter "t").rendered_iff _ _ hafter).mpr hrender,
    (halter "t").refused _ _ (.special .previewEach) hafter hrender (Or.inl ⟨.each, rfl⟩)⟩

/-- A render that fails ends the draft as well. -/
example (db : Database DryRun) :
    (({ content := { table := "t" } } : Draft AlterTable).answers db
      [.render, .stage, .clause (.dropColumn "a"), .special .operations, .special .previewEach]).1 =
      [.failed (.build (.noColumns .alterTable)), .stage .rendered,
        .altered .rendered (.error (.alreadyRendered .alterTable))
          (.error (.alreadyRendered .alterTable)) [],
        .operations [], .failed (.build (.alreadyRendered .alterTable))] := by
  rfl

end Draft

end SqlBuilder
