import SqlBuilder.Proofs.Workload.Course
import SqlBuilder.Workload.Planets

/-!
# Workloads that are interrupted

A recorder that refuses the query at a position stops a workload there. As the course of a workload
does not depend on the answers of the connection, what was received is the beginning of what a
recorder that refuses nothing would have received, up to and with the refused query. Neither the
rows of the recorder nor how many of them it yields before a refusal can be told from that.
-/

namespace SqlBuilder

namespace Recorder

/-! ## What a recorder refuses -/

/-- The refusal of the query at a position from one. -/
def refusalAt (position : Nat) : String :=
  "statement " ++ toString position ++ " rejected"

variable {c : Recorder} {rs : List Request} {n : Nat}

/-- A recorder refuses by its count alone, whatever it is asked and whatever rows it yields. -/
theorem refusal?_eq (c : Recorder) (r : Request) :
    Connection.refusal? c r = if c.refusesNext then some c.refusal else none := by
  cases r with
  | execute q =>
    change fault? (if c.refusesNext then .error c.refusal else .ok ()) = _
    cases c.refusesNext with
    | false => rfl
    | true => rfl
  | fetch q =>
    have hrows (rows : List String) :
        (rows.map (.ok : String → Except String String)).findSome? fault? = none := by
      rw [List.findSome?_map]
      exact List.findSome?_eq_none_iff.mpr fun _ _ ↦ rfl
    change (if c.refusesNext then (c.rows.take c.failAfterRows).map .ok ++ [.error c.refusal]
      else c.rows.map .ok).findSome? fault? = _
    cases c.refusesNext with
    | false => exact hrows c.rows
    | true =>
      rw [if_pos rfl, if_pos rfl, List.findSome?_append, hrows]
      rfl

theorem receive_eq (c : Recorder) (r : Request) :
    Connection.receive c r = c.receive r.query := by
  cases r with
  | execute q => rfl
  | fetch q => rfl

theorem firstRefusal?_eq_none (h : ∀ n < rs.length, c.failAt ≠ c.received + n + 1) :
    Connection.firstRefusal? c rs = none := by
  induction rs generalizing c with
  | nil => rfl
  | cons r rs ih =>
    have hgranted : Connection.refusal? c r = none := by
      have hnow : c.failAt ≠ c.received + 1 := h 0 (Nat.zero_lt_succ _)
      rw [refusal?_eq, refusesNext, if_neg (by simpa using hnow.symm)]
    rw [Connection.firstRefusal?_cons_of_none hgranted, receive_eq, Option.map_eq_none_iff]
    refine ih fun n hn ↦ ?_
    have hlater : c.failAt ≠ c.received + (n + 1) + 1 := h (n + 1) (Nat.succ_lt_succ hn)
    simp only [receive]
    omega

theorem firstRefusal?_eq_some (hn : n < rs.length) (h : c.failAt = c.received + n + 1) :
    Connection.firstRefusal? c rs =
      some (n, refusalAt c.failAt) := by
  induction rs generalizing c n with
  | nil => exact absurd hn (Nat.not_lt_zero n)
  | cons r rs ih =>
    cases n with
    | zero =>
      have hrefused : Connection.refusal? c r = some c.refusal := by
        rw [refusal?_eq, refusesNext, if_pos (by simpa using h.symm)]
      rw [Connection.firstRefusal?_cons_of_some hrefused, refusal, refusalAt, h]
    | succ n =>
      have hgranted : Connection.refusal? c r = none := by
        have hnow : c.received + 1 ≠ c.failAt := by omega
        rw [refusal?_eq, refusesNext, if_neg (by simpa using hnow)]
      have hlater : (c.receive r.query).failAt = (c.receive r.query).received + n + 1 := by
        simp only [receive]
        omega
      rw [Connection.firstRefusal?_cons_of_none hgranted, receive_eq,
        ih (Nat.lt_of_succ_lt_succ hn) hlater]
      rfl

/-! ## Runs on new recorders -/

/-- How a run ends on a new recorder and what the recorder receives, as far as `seen` tells,
compared with the recorder that refuses nothing. -/
structure StopsAtRefusal (seen : Recorder → Except (Failure String) Unit × List Query) :
    Prop where
  /-- A query of the undisturbed run that is refused ends the run with that refusal, and the queries
  up to that one were received. -/
  refused : ∀ rows failAt failAfterRows, 1 ≤ failAt → failAt ≤ (seen {}).2.length →
    seen { rows, failAt, failAfterRows } =
      (.error (.execution (refusalAt failAt)), (seen {}).2.take failAt)
  /-- Otherwise the run is the undisturbed one. -/
  undisturbed : ∀ rows failAt failAfterRows, ¬(1 ≤ failAt ∧ failAt ≤ (seen {}).2.length) →
    seen { rows, failAt, failAfterRows } = seen {}
  /-- The rows that are yielded, before a refusal or without one, make no difference. -/
  rows_unseen : ∀ rows rows' failAt failAfterRows failAfterRows',
    seen { rows, failAt, failAfterRows } =
      seen { rows := rows', failAt, failAfterRows := failAfterRows' }

/-- It is enough to know the queries `qs` and the end `r` of the undisturbed run. -/
theorem stopsAtRefusal_of_eq {seen : Recorder → Except (Failure String) Unit × List Query}
    (r : Except (Failure String) Unit) (qs : List Query)
    (hrefused : ∀ rows failAt failAfterRows, 1 ≤ failAt → failAt ≤ qs.length →
      seen { rows, failAt, failAfterRows } =
        (.error (.execution (refusalAt failAt)), qs.take failAt))
    (hundisturbed : ∀ rows failAt failAfterRows, ¬(1 ≤ failAt ∧ failAt ≤ qs.length) →
      seen { rows, failAt, failAfterRows } = (r, qs)) : StopsAtRefusal seen := by
  have hstart : seen {} = (r, qs) :=
    hundisturbed [] 0 0 fun h ↦ Nat.not_succ_le_zero 0 h.1
  refine ⟨fun rows k n hfirst hlast ↦ ?_, fun rows k n hk ↦ ?_, fun rows rows' k n n' ↦ ?_⟩
  · rw [hstart] at hlast ⊢
    exact hrefused rows k n hfirst hlast
  · rw [hstart] at hk ⊢
    exact hundisturbed rows k n hk
  · by_cases hk : 1 ≤ k ∧ k ≤ qs.length
    · rw [hrefused rows k n hk.1 hk.2, hrefused rows' k n' hk.1 hk.2]
    · rw [hundisturbed rows k n hk, hundisturbed rows' k n' hk]

end Recorder

/-- Tasks that are done in order stop at the first refusal. -/
theorem Task.stopsAtRefusal (d : Dialect) (ts : List Task) :
    Recorder.StopsAtRefusal fun c ↦
      let run := performAll { dialect := d, connection := c } ts
      (run.1, run.2.connection.queries) := by
  have hcourse (c : Recorder) := followsCourse { dialect := d, connection := c } ts
  refine Recorder.stopsAtRefusal_of_eq (verdict ts) ((requests ts).map Request.query)
    (fun rows k n hfirst hlast ↦ ?_) fun rows k n hk ↦ ?_
  · obtain ⟨m, rfl⟩ := Nat.exists_eq_add_of_le' hfirst
    rw [List.length_map] at hlast
    obtain ⟨hresult, hover⟩ := (hcourse { rows, failAt := m + 1, failAfterRows := n }).refused m _
      (Recorder.firstRefusal?_eq_some hlast (Nat.zero_add (m + 1)).symm)
    have hrecord := hover.queries
    rw [List.map_take] at hrecord
    exact Prod.ext hresult hrecord
  · rw [List.length_map] at hk
    obtain ⟨hresult, hover⟩ := (hcourse { rows, failAt := k, failAfterRows := n }).undisturbed
      (Recorder.firstRefusal?_eq_none fun m hm ↦ by simp only; omega)
    exact Prod.ext hresult hover.queries

/-- **Interruption.** In every dialect the planets workload stops at the first query that is
refused, and everything before it goes as if nothing were refused. -/
theorem Planets.stops_at_refusal (d : Dialect) :
    Recorder.StopsAtRefusal fun c ↦
      let run := perform { dialect := d, connection := c }
      (run.1, run.2.connection.queries) :=
  Task.stopsAtRefusal d (tasks d)

/-- The undisturbed run begins with the two removals, so a recorder that refuses the second query
has received these. -/
theorem Planets.stops_at_refusal_second :
    let run (c : Recorder) := perform { dialect := .sqlite, connection := c }
    let removals : List Query :=
      [⟨"DROP TABLE IF EXISTS \"planets\"", []⟩, ⟨"DROP TABLE IF EXISTS \"galaxies\"", []⟩]
    (run {}).2.connection.queries.take 2 = removals ∧ 2 < (run {}).2.connection.queries.length ∧
      (run { failAt := 2 }).1 = .error (.execution "statement 2 rejected") ∧
      (run { failAt := 2 }).2.connection.queries = removals := by
  intro run removals
  have hfront : (run {}).2.connection.queries.take 2 = removals := by decide +kernel
  have hlength : 2 < (run {}).2.connection.queries.length := by decide +kernel
  have hstops := (stops_at_refusal .sqlite).refused [] 2 0 (by decide) (Nat.le_of_lt hlength)
  exact ⟨hfront, hlength, congrArg Prod.fst hstops, (congrArg Prod.snd hstops).trans hfront⟩

end SqlBuilder
