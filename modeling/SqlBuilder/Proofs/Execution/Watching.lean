import SqlBuilder.Proofs.Drafting.Conversation
import SqlBuilder.Proofs.Execution.Handover
import SqlBuilder.Workload.Planets

/-!
# Watching a connection

Not every connection keeps a record, and a record can be emptied. A watcher stands in front of any
connection, passes on what is asked and answered, and writes down every request. Nothing that runs
on a database can tell whether the connection is watched: whatever is done on a watched database
is done on the database without the watcher, with the same answers. What the watcher wrote down is
therefore what the connection itself is handed.
-/

namespace SqlBuilder

variable {σ ρ ε : Type}

/-- A connection, and the requests that it received. -/
structure Watched (σ : Type) where
  /-- The connection itself. -/
  connection : σ
  /-- The requests so far, oldest first. -/
  requests : List Request := []

namespace Watched

instance [Connection σ ρ ε] : Connection (Watched σ) ρ ε where
  execute c q :=
    let answer := Connection.execute c.connection q
    (answer.1, { connection := answer.2, requests := c.requests ++ [.execute q] })
  fetch c q :=
    let answer := Connection.fetch c.connection q
    (answer.1, { connection := answer.2, requests := c.requests ++ [.fetch q] })
  refusalText := Connection.refusalText σ

/-- The record is that of the connection. Emptying it leaves what the watcher wrote down. -/
instance [Recording σ] : Recording (Watched σ) where
  queries c := Recording.queries c.connection
  cleared c := { c with connection := Recording.cleared c.connection }
  describe c := Recording.describe c.connection

theorem requests_after [Connection σ ρ ε] (c : Watched σ) (rs : List Request) :
    (Connection.after c rs).requests = c.requests ++ rs := by
  induction rs generalizing c with
  | nil => exact (List.append_nil _).symm
  | cons r rs ih =>
    have hreceive : (Connection.receive c r).requests = c.requests ++ [r] := by
      cases r with
      | execute q => rfl
      | fetch q => rfl
    have hrest := ih (Connection.receive c r)
    rw [hreceive, ← List.append_cons] at hrest
    exact hrest

end Watched

namespace Database

/-- The database without the watcher. -/
def unwatched (db : Database (Watched σ)) : Database σ where
  dialect := db.dialect
  connection := db.connection.connection
  events := db.events

/-! ## Single requests and statements -/

section

variable [Connection σ ρ ε] (db : Database (Watched σ))

theorem unwatched_submit (x : Except BuildError Query) :
    db.unwatched.submit x = (db.submit x).map id unwatched := by
  cases x with
  | ok q => rfl
  | error e => rfl

theorem unwatched_stream (x : Except BuildError Query) :
    db.unwatched.stream x = (db.stream x).map id unwatched := by
  cases x with
  | ok q => rfl
  | error e => rfl

theorem unwatched_sendEach (table : String) (total applied : Nat) (qs : List Query) :
    db.unwatched.sendEach table total applied qs =
      (db.sendEach table total applied qs).map id unwatched := by
  induction qs generalizing db applied with
  | nil => rfl
  | cons q qs ih =>
    have hafter : db.unwatched.after [.execute q] = (db.after [.execute q]).unwatched := rfl
    cases h : (Connection.execute db.connection q).1 with
    | ok u =>
      have hwithout : (Connection.execute db.unwatched.connection q).1 = .ok u := h
      rw [sendEach_cons_of_ok h, sendEach_cons_of_ok hwithout, hafter, ih]
    | error x =>
      have hwithout : (Connection.execute db.unwatched.connection q).1 = .error x := h
      rw [sendEach_cons_of_error h, sendEach_cons_of_error hwithout, hafter]
      split
      · rfl
      · rfl

theorem unwatched_submitEach (table : String) (x : Except BuildError (List Query)) :
    db.unwatched.submitEach table x = (db.submitEach table x).map id unwatched := by
  cases x with
  | ok qs => exact unwatched_sendEach db table qs.length 0 qs
  | error e => rfl

end

end Database

/-! ## Conversations -/

/-- What a call leads to, without the watcher. -/
def Outcome.unwatched {α : Type} : Outcome α (Watched σ) ρ ε → Outcome α σ ρ ε
  | goesOn r b => goesOn r b
  | ends r db => ends r db.unwatched

/-- Statements whose own calls do not notice a watcher. -/
class Unaware (α : Type) {κ ξ : outParam Type} [Statement α κ] [SpecialCall ξ]
    [Conversant α κ ξ] : Prop where
  unwatched_special {σ ρ ε : Type} [Connection σ ρ ε] (db : Database (Watched σ)) (x : ξ)
    (b : Draft α) :
    Conversant.special db.unwatched x b =
      (Conversant.special db x b : Outcome α (Watched σ) ρ ε).unwatched

instance : Unaware DropTable := ⟨fun _ ↦ nofun⟩
instance : Unaware CreateTable := ⟨fun _ ↦ nofun⟩
instance : Unaware CreateIndex := ⟨fun _ ↦ nofun⟩
instance : Unaware Insert := ⟨fun _ ↦ nofun⟩

instance : Unaware AlterTable where
  unwatched_special db x b := by
    cases x with
    | operations => rfl
    | previewEach => rfl
    | renderEach => rfl
    | runEach =>
      change Outcome.ends (.ofUnit (db.unwatched.submitEach _ _).1) _ = _
      rw [Database.unwatched_submitEach]
      rfl

instance : Unaware Select where
  unwatched_special db x b := by
    have hstream := db.unwatched_stream (b.renderQuery db.unwatched.dialect).1
    cases x with
    | fetch =>
      change Outcome.ends (.items (db.unwatched.stream _).1) _ = _
      rw [hstream]
      rfl
    | all =>
      change Outcome.ends (.ofRows (allRows (db.unwatched.stream _).1)) _ = _
      rw [hstream]
      rfl
    | first =>
      change Outcome.ends (.ofRow (firstRow (db.unwatched.stream _).1)) _ = _
      rw [hstream]
      rfl

namespace Draft

variable {α κ ξ : Type} [Statement α κ] [SpecialCall ξ] [Conversant α κ ξ] [Unaware α]
  [Connection σ ρ ε]

theorem unwatched_answer (db : Database (Watched σ)) (b : Draft α) (c : Call κ ξ) :
    b.answer db.unwatched c = (b.answer db c).unwatched := by
  cases c with
  | clause k => rfl
  | preview => rfl
  | render => rfl
  | stage => rfl
  | run =>
    change Outcome.ends (.ofUnit (db.unwatched.submit _).1) _ = _
    rw [Database.unwatched_submit]
    rfl
  | special x => exact Unaware.unwatched_special db x b

theorem unwatched_answers (db : Database (Watched σ)) (b : Draft α) (cs : List (Call κ ξ)) :
    b.answers db.unwatched cs = (b.answers db cs).map id Database.unwatched := by
  induction cs generalizing b with
  | nil => rfl
  | cons c cs ih =>
    have hstep := unwatched_answer db b c
    cases h : b.answer db c with
    | goesOn r b' =>
      rw [h] at hstep
      rw [answers_cons_of_goesOn h, answers_cons_of_goesOn hstep, ih]
      rfl
    | ends r db' =>
      rw [h] at hstep
      rw [answers_cons_of_ends h, answers_cons_of_ends hstep]
      rfl

end Draft

/-! ## Sessions and workloads -/

namespace Database

variable [Connection σ ρ ε]

theorem unwatched_perform [Recording σ] (db : Database (Watched σ)) (s : Step) :
    db.unwatched.perform s = (db.perform s).map id unwatched := by
  have hdraft {α κ ξ : Type} [Statement α κ] [SpecialCall ξ] [Conversant α κ ξ] [Unaware α]
      (start : α) (cs : List (Call κ ξ)) :
      (({ content := start } : Draft α).answers db.unwatched cs).map Answer.replies id =
        ((({ content := start } : Draft α).answers db cs).map Answer.replies id).map id
          unwatched := by
    rw [Draft.unwatched_answers]
    rfl
  cases s with
  | execute q => rfl
  | fetch q => rfl
  | queries => rfl
  | take => rfl
  | clone => rfl
  | describe => rfl
  | dropTable table calls => exact hdraft ({ table } : DropTable) calls
  | createTable table calls => exact hdraft ({ table } : CreateTable) calls
  | alterTable table calls => exact hdraft ({ table } : AlterTable) calls
  | createIndex name calls => exact hdraft ({ name } : CreateIndex) calls
  | insert table calls => exact hdraft ({ table } : Insert) calls
  | select calls => exact hdraft ({} : Select) calls

theorem unwatched_performAll [Recording σ] (db : Database (Watched σ)) (ss : List Step) :
    db.unwatched.performAll ss = (db.performAll ss).map id unwatched := by
  induction ss generalizing db with
  | nil => rfl
  | cons s ss ih =>
    rw [performAll, unwatched_perform]
    change ((_, _) :: ((db.perform s).2.unwatched.performAll ss).1,
      ((db.perform s).2.unwatched.performAll ss).2) = _
    rw [ih]
    rfl

end Database

namespace Task

variable [Connection σ ρ ε]

theorem unwatched_perform (db : Database (Watched σ)) (t : Task) :
    t.perform db.unwatched = (t.perform db).map id Database.unwatched := by
  cases t with
  | announce message fields => rfl
  | execute statement => exact db.unwatched_submit statement
  | count message statement =>
    rw [perform, perform, db.unwatched_stream, Prod.map_fst, Prod.map_snd, id]
    cases allRows (db.stream statement).1 with
    | ok rows => rfl
    | error f => rfl

theorem unwatched_performAll (db : Database (Watched σ)) (ts : List Task) :
    performAll db.unwatched ts = (performAll db ts).map id Database.unwatched := by
  induction ts generalizing db with
  | nil => rfl
  | cons t ts ih =>
    have hstep := unwatched_perform db t
    rw [performAll, performAll, hstep]
    rcases t.perform db with ⟨_ | _, db'⟩
    · rfl
    · exact ih db'

end Task

theorem Planets.unwatched_perform [Connection σ ρ ε] (db : Database (Watched σ)) :
    perform db.unwatched = (perform db).map id Database.unwatched :=
  Task.unwatched_performAll db (tasks db.dialect)

end SqlBuilder
