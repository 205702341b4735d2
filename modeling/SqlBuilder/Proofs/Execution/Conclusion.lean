import SqlBuilder.Proofs.Execution.Submission

/-!
# What a conversation hands over

Only the call that uses a draft up hands anything over, and what it hands over is known before: it
is what a preview in its place shows, in the form of that call. The draft in that place is told by
the calls in front of it. As none of them touches the database, the dialect alone decides how they
change the draft. What a step of a session hands over is known from the step in the same way.
-/

namespace SqlBuilder

variable {σ ρ ε : Type}

/-! ## Calls that use a draft up -/

/-- The queries that an answer shows. -/
def Reply.queriesShown : Reply ρ ε → List Query
  | .query q => [q]
  | .queries qs => qs
  | _ => []

theorem Reply.queriesShown_ofQuery (x : Except BuildError Query) :
    (.ofQuery x : Reply ρ ε).queriesShown = x.toOption.toList := by
  cases x with
  | ok q => rfl
  | error e => rfl

theorem Reply.queriesShown_ofQueries (x : Except BuildError (List Query)) :
    (.ofQueries x : Reply ρ ε).queriesShown = x.toOption.getD [] := by
  cases x with
  | ok qs => rfl
  | error e => rfl

/-- Statements whose calls that use a draft up hand over what the draft shows in a form, and nothing
if that is a fault. -/
class Submitting (α : Type) {κ ξ : outParam Type} [Statement α κ] [SpecialCall ξ]
    [Conversant α κ ξ] where
  /-- The form in which a call hands over. -/
  form : ξ → Form
  /-- The call hands over what a preview in the form shows. -/
  submits_special {σ ρ ε : Type} [Connection σ ρ ε] {db db' : Database σ} {x : ξ} {b : Draft α}
    {r : Reply ρ ε} (h : Conversant.special db x b = .ends r db') :
    db.Submits (Conversant.shown db.dialect b (form x) : Reply Empty Empty).queriesShown db'
  /-- A call that is answered by a fault does nothing. -/
  eq_of_isFault {σ ρ ε : Type} [Connection σ ρ ε] {db db' : Database σ} {x : ξ} {b : Draft α}
    {r : Reply ρ ε} (h : Conversant.special db x b = .ends r db') (hr : r.IsFault) : db' = db

/-- A statement that knows no calls of its own. -/
@[reducible] def Submitting.plain {α κ : Type} [Statement α κ] [Conversant α κ Empty] :
    Submitting α where
  form := nofun
  submits_special {_ _ _ _ _ _ x _ _} := nomatch x
  eq_of_isFault {_ _ _ _ _ _ x _ _} := nomatch x

instance : Submitting DropTable := .plain
instance : Submitting CreateTable := .plain
instance : Submitting CreateIndex := .plain
instance : Submitting Insert := .plain

/-- The form in which a call for an alteration hands over. -/
def AlterCall.form : AlterCall → Form
  | .runEach | .previewEach | .renderEach => .each
  | .operations => .whole

instance : Submitting AlterTable where
  form := AlterCall.form
  submits_special {_ _ _ _ db db' x b r} h := by
    cases x with
    | operations => exact nomatch h
    | previewEach => exact nomatch h
    | renderEach => exact nomatch h
    | runEach =>
      obtain ⟨-, rfl⟩ := Outcome.ends.inj h
      have hshown := Reply.queriesShown_ofQueries (ρ := Empty) (ε := Empty)
        (b.preview (AlterTable.toQueries db.dialect))
      change db.Submits (Reply.ofQueries _).queriesShown _
      rw [hshown]
      exact db.submits_submitEach _ _
  eq_of_isFault {_ _ _ _ db db' x b r} h hr := by
    cases x with
    | operations => exact nomatch h
    | previewEach => exact nomatch h
    | renderEach => exact nomatch h
    | runEach =>
      have hanswer : b.answer db (.special .runEach) = .ends r db' := h
      cases hqueries : b.preview (AlterTable.toQueries db.dialect) with
      | ok qs =>
        rw [AlterTable.answer_runEach_of_ok hqueries] at hanswer
        obtain ⟨rfl, -⟩ := Outcome.ends.inj hanswer
        exact absurd hr (db.not_isFault_sendEach _ qs)
      | error e =>
        rw [AlterTable.answer_runEach_of_error hqueries] at hanswer
        exact (Outcome.ends.inj hanswer).2.symm

instance : Submitting Select where
  form _ := .whole
  submits_special {_ _ _ _ db db' x b r} h := by
    have hdb : db' = (db.stream (b.toQuery db.dialect)).2 := by
      cases x with
      | fetch => exact (Outcome.ends.inj h).2.symm
      | all => exact (Outcome.ends.inj h).2.symm
      | first => exact (Outcome.ends.inj h).2.symm
    change db.Submits (Reply.ofQuery (b.toQuery db.dialect)).queriesShown _
    rw [Reply.queriesShown_ofQuery, hdb]
    exact db.submits_stream _
  eq_of_isFault {_ _ _ _ db db' x b r} h hr := by
    obtain ⟨items, hstream⟩ : ∃ items, db.stream (b.toQuery db.dialect) = (items, db') := by
      cases x with
      | fetch => exact ⟨_, Prod.ext rfl (Outcome.ends.inj h).2⟩
      | all => exact ⟨_, Prod.ext rfl (Outcome.ends.inj h).2⟩
      | first => exact ⟨_, Prod.ext rfl (Outcome.ends.inj h).2⟩
    obtain ⟨hfetch, hall, hfirst⟩ := Select.answer_of_stream hstream
    cases hquery : b.toQuery db.dialect with
    | error e =>
      rw [hquery] at hstream
      exact (Prod.mk.inj hstream).2.symm
    | ok q =>
      rw [hquery] at hstream
      have hitems : (db.fetch q).1 = items := congrArg Prod.fst hstream
      have hfaultless := Database.not_isFault_of_rows items fun e ↦ by
        rw [← hitems]
        exact db.ne_build_of_mem_fetch q e
      cases x with
      | fetch =>
        obtain ⟨rfl, -⟩ := Outcome.ends.inj (hfetch.symm.trans h)
        exact absurd hr hfaultless.1
      | all =>
        obtain ⟨rfl, -⟩ := Outcome.ends.inj (hall.symm.trans h)
        exact absurd hr hfaultless.2.1
      | first =>
        obtain ⟨rfl, -⟩ := Outcome.ends.inj (hfirst.symm.trans h)
        exact absurd hr hfaultless.2.2

/-! ## Conversations -/

/-- The form in which a call hands over, if it uses the draft up. -/
def Call.form (α : Type) {κ ξ : Type} [Statement α κ] [SpecialCall ξ] [Conversant α κ ξ]
    [Submitting α] : Call κ ξ → Form
  | .special x => Submitting.form α x
  | _ => .whole

namespace Draft

variable {α κ ξ : Type} [Statement α κ] [SpecialCall ξ]

/-- The draft behind a call, unless the call uses it up. Of the database only the dialect
matters. -/
def next (d : Dialect) (b : Draft α) (c : Call κ ξ) : Option (Draft α) :=
  match c.clause? with
  | some k => some (b.add d k)
  | none =>
    match c.role with
    | .render _ => some { b with stage := .rendered }
    | .finish => none
    | .clause | .look | .preview _ => some b

section

variable [Conversant α κ ξ] [Connection σ ρ ε] {db db' : Database σ} {b b' : Draft α}
  {c : Call κ ξ} {cs : List (Call κ ξ)} {r : Reply ρ ε}

/-- What a call makes of a draft is known from the call. -/
theorem next_eq_some [SpecialCall.Clauseless ξ] (h : b.answer db c = .goesOn r b') :
    b.next db.dialect c = some b' := by
  have hleads := leads_answer db b c
  rw [h] at hleads
  cases c with
  | clause k => exact congrArg some (Outcome.goesOn.inj h).2
  | preview => exact congrArg some (Outcome.goesOn.inj h).2
  | render => exact congrArg some (Outcome.goesOn.inj h).2
  | stage => exact congrArg some (Outcome.goesOn.inj h).2
  | run => exact nomatch h
  | special x =>
    have hclause : SpecialCall.role x ≠ .clause := SpecialCall.Clauseless.role_ne_clause x
    change (match SpecialCall.role x with
      | .render _ => some { b with stage := .rendered }
      | .finish => none
      | .clause | .look | .preview _ => some b) = some b'
    change b.Leads _ _ (SpecialCall.role x) _ at hleads
    generalize SpecialCall.role x = role at hclause hleads
    cases hleads with
    | clause k => exact absurd rfl hclause
    | look => rfl
    | preview f => rfl
    | render f => rfl

/-- A call that uses a draft up is known as such. -/
theorem next_eq_none (h : b.answer db c = .ends r db') : b.next db.dialect c = none := by
  have hleads := leads_answer db b c
  rw [h] at hleads
  have hclause : c.clause? = none := by
    cases c with
    | clause k => exact nomatch h
    | preview | render | stage | run | special x => rfl
  rw [next, hclause]
  generalize c.role = role at hleads
  cases hleads
  rfl

end

variable [Conversant α κ ξ] [Submitting α]

/-- The queries that calls on a draft hand over, if the connection grants them: what the draft shows
in the place of the call that uses it up. -/
def handedOver (d : Dialect) (b : Draft α) : List (Call κ ξ) → List Query
  | [] => []
  | c :: cs =>
    match b.next d c with
    | some b' => handedOver d b' cs
    | none => (Conversant.shown d b (c.form α) : Reply Empty Empty).queriesShown

variable [Connection σ ρ ε] {db db' : Database σ} {b : Draft α} {c : Call κ ξ}
  {r : Reply ρ ε}

/-- A call that uses a draft up hands over what the draft shows in the form of the call. -/
theorem submits_answer (h : b.answer db c = .ends r db') :
    db.Submits (Conversant.shown db.dialect b (c.form α) : Reply Empty Empty).queriesShown
      db' := by
  cases c with
  | clause k => exact nomatch h
  | preview => exact nomatch h
  | render => exact nomatch h
  | stage => exact nomatch h
  | run =>
    obtain ⟨-, rfl⟩ := Outcome.ends.inj h
    have hshown : (Conversant.shown db.dialect b .whole : Reply Empty Empty) =
        .ofQuery (b.toQuery db.dialect) := Conversant.shown_whole db.dialect b
    change db.Submits (Conversant.shown db.dialect b .whole : Reply Empty Empty).queriesShown _
    rw [hshown, Reply.queriesShown_ofQuery]
    exact db.submits_submit _
  | special x => exact Submitting.submits_special h

/-- A call that uses a draft up and is answered by a fault does nothing. -/
theorem eq_of_isFault (h : b.answer db c = .ends r db') (hr : r.IsFault) : db' = db := by
  cases c with
  | clause k => exact nomatch h
  | preview => exact nomatch h
  | render => exact nomatch h
  | stage => exact nomatch h
  | run =>
    obtain ⟨rfl, rfl⟩ := Outcome.ends.inj h
    cases hquery : b.toQuery db.dialect with
    | ok q =>
      change (.ofUnit (db.submit (b.toQuery db.dialect)).1 : Reply ρ ε).IsFault at hr
      rw [hquery] at hr
      exact absurd hr (db.not_isFault_execute q)
    | error e =>
      change (db.submit (b.toQuery db.dialect)).2 = db
      rw [hquery]
      rfl
  | special x => exact Submitting.eq_of_isFault h hr

/-- A conversation hands over its queries. -/
theorem submits_answers [SpecialCall.Clauseless ξ] (db : Database σ) (b : Draft α)
    (cs : List (Call κ ξ)) :
    db.Submits (b.handedOver db.dialect cs) (b.answers db cs).2 := by
  induction cs generalizing b with
  | nil => exact db.submits_nil
  | cons c cs ih =>
    rw [handedOver]
    cases h : b.answer db c with
    | goesOn r b' =>
      rw [next_eq_some h, answers_cons_of_goesOn h]
      exact ih b'
    | ends r db' =>
      rw [next_eq_none h, answers_cons_of_ends h]
      exact submits_answer h

end Draft

/-! ## Steps of a session -/

/-- The queries that a step hands over, if the connection grants them. -/
def Step.handedOver (d : Dialect) : Step → List Query
  | .execute q | .fetch q => [q]
  | .queries | .take | .clone | .describe => []
  | .dropTable table calls => ({ content := { table } } : Draft DropTable).handedOver d calls
  | .createTable table calls => ({ content := { table } } : Draft CreateTable).handedOver d calls
  | .alterTable table calls => ({ content := { table } } : Draft AlterTable).handedOver d calls
  | .createIndex name calls => ({ content := { name } } : Draft CreateIndex).handedOver d calls
  | .insert table calls => ({ content := { table } } : Draft Insert).handedOver d calls
  | .select calls => ({ content := {} } : Draft Select).handedOver d calls

namespace Database

variable [Connection σ ρ ε] [Recording σ]

/-- A step hands over its queries, unless it empties the record: that is no request. -/
theorem submits_perform (db : Database σ) {s : Step} (hs : s ≠ .take) :
    db.Submits (s.handedOver db.dialect) (db.perform s).2 := by
  cases s with
  | take => exact absurd rfl hs
  | execute q => exact db.submits_after (.execute q)
  | fetch q => exact db.submits_after (.fetch q)
  | queries => exact db.submits_nil
  | clone => exact db.submits_nil
  | describe => exact db.submits_nil
  | dropTable table calls => exact Draft.submits_answers db _ calls
  | createTable table calls => exact Draft.submits_answers db _ calls
  | alterTable table calls => exact Draft.submits_answers db _ calls
  | createIndex name calls => exact Draft.submits_answers db _ calls
  | insert table calls => exact Draft.submits_answers db _ calls
  | select calls => exact Draft.submits_answers db _ calls

/-- A session is in one dialect. -/
theorem dialect_perform (db : Database σ) (s : Step) :
    (db.perform s).2.dialect = db.dialect := by
  by_cases hs : s = .take
  · subst hs
    rfl
  · obtain ⟨rs, hover, -⟩ := db.submits_perform hs
    exact hover.dialect

end Database

end SqlBuilder
