import SqlBuilder.Proofs.Drafting.Draft
import SqlBuilder.Session

/-!
# Conversations

A conversation is what one draft is asked, call by call, with the answers. The statements differ in
what can be asked of them, but a call can do only five things to a draft, and which one it does is
known from the call: its role. What is proved about conversations is proved from the roles, once for
all statements.
-/

namespace SqlBuilder

/-! ## Roles -/

/-- The forms in which a draft can be written. Only an alteration has the second one. -/
inductive Form where
  /-- All of it in one query. -/
  | whole
  /-- Each change in a query of its own. -/
  | each
deriving DecidableEq, Repr

/-- What a call does to a draft. -/
inductive Role where
  /-- It gives one more clause. -/
  | clause
  /-- It asks for something other than a query. -/
  | look
  /-- It asks for what rendering would give. -/
  | preview (f : Form)
  /-- It renders the draft. -/
  | render (f : Form)
  /-- It uses the draft up. -/
  | finish
deriving DecidableEq, Repr

namespace Role

/-- The call is a preview. -/
def IsPreview (r : Role) : Prop :=
  ∃ f, r = preview f

/-- The call renders. -/
def IsRender (r : Role) : Prop :=
  ∃ f, r = render f

instance : DecidablePred IsPreview
  | preview f => isTrue ⟨f, rfl⟩
  | clause | look | render _ | finish => isFalse nofun

instance : DecidablePred IsRender
  | render f => isTrue ⟨f, rfl⟩
  | clause | look | preview _ | finish => isFalse nofun

end Role

/-- Calls that only one statement knows. -/
class SpecialCall (ξ : Type) where
  /-- What the call does. -/
  role : ξ → Role

instance : SpecialCall Empty where
  role := nofun

instance : SpecialCall AlterCall where
  role
    | .operations => .look
    | .previewEach => .preview .each
    | .renderEach => .render .each
    | .runEach => .finish

instance : SpecialCall SelectCall where
  role
    | .fetch | .all | .first => .finish

/-- What a call does. -/
def Call.role {κ ξ : Type} [SpecialCall ξ] : Call κ ξ → Role
  | .clause _ => .clause
  | .preview => .preview .whole
  | .render => .render .whole
  | .stage => .look
  | .run => .finish
  | .special x => SpecialCall.role x

/-! ## Statements that can be asked -/

/-- What a call with a given role leads to, if `shown` is what the draft gives in a form. -/
inductive Draft.Leads {α κ σ ρ ε : Type} [Statement α κ] (d : Dialect) (shown : Form → Reply ρ ε)
    (b : Draft α) : Role → Outcome α σ ρ ε → Prop
  | clause (c : κ) (r : Reply ρ ε) : Leads d shown b .clause (.goesOn r (b.add d c))
  | look (r : Reply ρ ε) : Leads d shown b .look (.goesOn r b)
  | preview (f : Form) : Leads d shown b (.preview f) (.goesOn (shown f) b)
  | render (f : Form) :
    Leads d shown b (.render f) (.goesOn (shown f) { b with stage := .rendered })
  | finish (r : Reply ρ ε) (db : Database σ) : Leads d shown b .finish (.ends r db)

/-- Statements whose drafts are asked by calls. A draft gives what it holds in several forms, and
nothing but the message that it was rendered once it was. -/
class Conversant (α : Type) (κ ξ : outParam Type) [Statement α κ] [SpecialCall ξ] where
  /-- The answer to one more clause. -/
  reply {ρ ε : Type} : Dialect → Draft α → Reply ρ ε
  /-- Answers the calls that only this statement knows. -/
  special {σ ρ ε : Type} [Connection σ ρ ε] : Database σ → ξ → Draft α → Outcome α σ ρ ε
  /-- What the draft gives in a form if it is rendered now. -/
  shown {ρ ε : Type} : Dialect → Draft α → Form → Reply ρ ε
  /-- The first form is the query. -/
  shown_whole {ρ ε : Type} (d : Dialect) (b : Draft α) :
    (shown d b .whole : Reply ρ ε) = .ofQuery (b.toQuery d)
  /-- A rendered draft gives nothing. -/
  shown_of_rendered {ρ ε : Type} (d : Dialect) (b : Draft α) (f : Form) (h : b.stage = .rendered) :
    (shown d b f : Reply ρ ε) = .failed (.build (.alreadyRendered (Statement.kind α)))
  /-- The calls do what their role says. -/
  leads_special {σ ρ ε : Type} [Connection σ ρ ε] (db : Database σ) (x : ξ) (b : Draft α) :
    b.Leads db.dialect (shown db.dialect b) (SpecialCall.role x) (special db x b)

section

variable {α κ ρ ε : Type} [Statement α κ] {d : Dialect} {b : Draft α}

theorem Draft.ofQuery_of_rendered (h : b.stage = .rendered) :
    (.ofQuery (b.toQuery d) : Reply ρ ε) =
      .failed (.build (.alreadyRendered (Statement.kind α))) := by
  rw [toQuery, preview_of_rendered h]
  rfl

/-- A statement that knows no calls of its own has one form. -/
@[reducible] def Conversant.plain : Conversant α κ Empty where
  reply := Draft.reply
  special _ := nofun
  shown d b _ := .ofQuery (b.toQuery d)
  shown_whole _ _ := rfl
  shown_of_rendered _ _ _ := Draft.ofQuery_of_rendered
  leads_special _ := nofun

end

instance : Conversant DropTable DropTable.Clause Empty := .plain
instance : Conversant CreateTable CreateTable.Clause Empty := .plain
instance : Conversant CreateIndex CreateIndex.Clause Empty := .plain
instance : Conversant Insert Insert.Clause Empty := .plain

/-- What an alteration gives in a form. -/
def AlterTable.shown {ρ ε : Type} (d : Dialect) (b : Draft AlterTable) : Form → Reply ρ ε
  | .whole => .ofQuery (b.toQuery d)
  | .each => .ofQueries (b.preview (AlterTable.toQueries d))

instance : Conversant AlterTable AlterOperation AlterCall where
  reply := AlterTable.reply
  special := AlterTable.special
  shown := AlterTable.shown
  shown_whole _ _ := rfl
  shown_of_rendered d b f h := by
    cases f with
    | whole => exact Draft.ofQuery_of_rendered h
    | each =>
      rw [AlterTable.shown, Draft.preview_of_rendered h]
      rfl
  leads_special db x b := by
    cases x with
    | operations => exact .look _
    | previewEach => exact .preview .each
    | renderEach => exact .render .each
    | runEach => exact .finish _ _

instance : Conversant Select Select.Clause SelectCall where
  reply := Draft.reply
  special := Select.special
  shown d b _ := .ofQuery (b.toQuery d)
  shown_whole _ _ := rfl
  shown_of_rendered _ _ _ := Draft.ofQuery_of_rendered
  leads_special db x b := by
    cases x with
    | fetch => exact .finish _ _
    | all => exact .finish _ _
    | first => exact .finish _ _

/-! ## Answers -/

/-- The answer that a call gets. -/
def Outcome.reply {α σ ρ ε : Type} : Outcome α σ ρ ε → Reply ρ ε
  | goesOn r _ => r
  | ends r _ => r

namespace Draft

variable {α κ ξ σ ρ ε : Type} [Statement α κ] [SpecialCall ξ] [Conversant α κ ξ]
  [Connection σ ρ ε]

/-- What a call on the draft leads to. -/
def answer (db : Database σ) (b : Draft α) (c : Call κ ξ) : Outcome α σ ρ ε :=
  b.call db (Conversant.reply db.dialect) (Conversant.special db) c

/-- The answers to calls, and the database behind them. -/
def answers (db : Database σ) (b : Draft α) (cs : List (Call κ ξ)) :
    List (Reply ρ ε) × Database σ :=
  b.converse db (Conversant.reply db.dialect) (Conversant.special db) cs

/-- The draft behind calls, unless one of them uses it up. -/
def after (db : Database σ) (b : Draft α) : List (Call κ ξ) → Option (Draft α)
  | [] => some b
  | c :: cs =>
    match b.answer db c with
    | .goesOn _ b' => after db b' cs
    | .ends _ _ => none

/-- The calls with their answers. -/
def transcript (db : Database σ) (b : Draft α) (cs : List (Call κ ξ)) :
    List (Call κ ξ × Reply ρ ε) :=
  cs.zip (b.answers db cs).1

variable {db : Database σ} {b b' : Draft α}

/-- Every call does what its role says. -/
theorem leads_answer (db : Database σ) (b : Draft α) (c : Call κ ξ) :
    b.Leads db.dialect (Conversant.shown db.dialect b) c.role (b.answer db c) := by
  cases c with
  | clause c => exact .clause c _
  | preview =>
    change b.Leads _ _ _ (.goesOn (.ofQuery (b.toQuery db.dialect)) b)
    rw [← Conversant.shown_whole]
    exact .preview .whole
  | render =>
    change b.Leads _ _ _ (.goesOn (.ofQuery (b.toQuery db.dialect)) { b with stage := .rendered })
    rw [← Conversant.shown_whole]
    exact .render .whole
  | stage => exact .look _
  | run => exact .finish _ _
  | special x => exact Conversant.leads_special db x b

/-! ### Call by call -/

variable {c : Call κ ξ} {cs : List (Call κ ξ)} {r : Reply ρ ε} {db' : Database σ}

theorem after_cons_of_goesOn (h : b.answer db c = .goesOn r b') :
    b.after db (c :: cs) = b'.after db cs := by
  rw [after, h]

theorem after_cons_of_ends (h : b.answer db c = .ends r db') : b.after db (c :: cs) = none := by
  rw [after, h]

theorem answers_cons_of_goesOn (h : b.answer db c = .goesOn r b') :
    b.answers db (c :: cs) = (r :: (b'.answers db cs).1, (b'.answers db cs).2) := by
  rw [answer] at h
  rw [answers, converse, h]
  rfl

theorem answers_cons_of_ends (h : b.answer db c = .ends r db') :
    b.answers db (c :: cs) = ([r], db') := by
  rw [answer] at h
  rw [answers, converse, h]

/-- What is asked behind other calls is asked of the draft behind them. -/
theorem after_append (db : Database σ) (b : Draft α) (cs ds : List (Call κ ξ)) :
    b.after db (cs ++ ds) = (b.after db cs).bind (·.after db ds) := by
  induction cs generalizing b with
  | nil => rfl
  | cons c cs ih =>
    rw [List.cons_append]
    cases h : b.answer db c with
    | goesOn r b' => rw [after_cons_of_goesOn h, after_cons_of_goesOn h, ih]
    | ends r db' => rw [after_cons_of_ends h, after_cons_of_ends h, Option.bind_none]

theorem answers_append (h : b.after db cs = some b') (ds : List (Call κ ξ)) :
    b.answers db (cs ++ ds) =
      ((b.answers db cs).1 ++ (b'.answers db ds).1, (b'.answers db ds).2) := by
  induction cs generalizing b with
  | nil =>
    obtain rfl := Option.some.inj h
    rfl
  | cons c cs ih =>
    rw [List.cons_append]
    cases hc : b.answer db c with
    | goesOn r b₁ =>
      rw [after_cons_of_goesOn hc] at h
      rw [answers_cons_of_goesOn hc, answers_cons_of_goesOn hc, ih h, List.cons_append]
    | ends r db' =>
      rw [after_cons_of_ends hc] at h
      exact nomatch h

/-- A conversation goes on until a call uses the draft up. -/
theorem exists_after (db : Database σ) (b : Draft α) (h : ∀ c ∈ cs, c.role ≠ .finish) :
    ∃ b', b.after db cs = some b' := by
  induction cs generalizing b with
  | nil => exact ⟨b, rfl⟩
  | cons c cs ih =>
    obtain ⟨hc, hcs⟩ := List.forall_mem_cons.mp h
    have hleads := leads_answer db b c
    cases hanswer : b.answer db c with
    | goesOn r b' =>
      rw [after_cons_of_goesOn hanswer]
      exact ih b' hcs
    | ends r db' =>
      rw [hanswer] at hleads
      generalize c.role = role at hc hleads
      cases hleads
      exact absurd rfl hc

/-! ### The end of a conversation -/

/-- Behind the calls `cs` the call `c` is answered by `r` and uses the draft up: the database is
`db'` then, whatever else would have been asked. -/
def EndsWith (db : Database σ) (b : Draft α) (cs : List (Call κ ξ)) (c : Call κ ξ)
    (r : Reply ρ ε) (db' : Database σ) : Prop :=
  ∀ ds, b.answers db (cs ++ c :: ds) = ((b.answers db cs).1 ++ [r], db')

theorem endsWith_of_ends (h : b.after db cs = some b') (hc : b'.answer db c = .ends r db') :
    b.EndsWith db cs c r db' := by
  intro ds
  rw [answers_append h, answers_cons_of_ends hc]

end Draft

end SqlBuilder
