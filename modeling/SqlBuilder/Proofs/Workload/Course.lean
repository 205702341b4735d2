import SqlBuilder.Proofs.Execution.Transfer
import SqlBuilder.Proofs.Workload.Run

/-!
# The course of a workload

The tasks alone decide which requests a workload makes as long as nothing is refused, and how it
ends then: they are done up to the first statement that could not be built. What a connection
refuses can only cut this course short. The run hands over the requests up to the first one that is
refused, reports that refusal, and does nothing else.
-/

namespace SqlBuilder.Task

variable {σ ρ ε : Type} [Connection σ ρ ε]

/-! ## The undisturbed course -/

/-- The request of a task whose statement could be built. -/
def request? : Task → Option Request
  | execute (.ok q) => some (.execute q)
  | count _ (.ok q) => some (.fetch q)
  | _ => none

/-- The fault of the statement of a task, if it could not be built. -/
def buildFault? (t : Task) : Option BuildError :=
  t.statement?.bind fault?

/-- The requests of tasks, up to the first statement that could not be built. -/
def requests : List Task → List Request
  | [] => []
  | t :: ts => if t.buildFault?.isSome then [] else t.request?.toList ++ requests ts

/-- How tasks end as long as nothing is refused. -/
def verdict : List Task → Except (Failure ε) Unit
  | [] => .ok ()
  | t :: ts =>
    match t.buildFault? with
    | some e => .error (.build e)
    | none => verdict ts

variable {db : Database σ} {t : Task} {ts : List Task} {e : BuildError}

theorem requests_cons_of_built (h : t.buildFault? = none) (ts : List Task) :
    requests (t :: ts) = t.request?.toList ++ requests ts := by
  rw [requests, h]
  rfl

theorem requests_cons_of_fault (h : t.buildFault? = some e) (ts : List Task) :
    requests (t :: ts) = [] := by
  rw [requests, h]
  rfl

theorem verdict_cons_of_built (h : t.buildFault? = none) (ts : List Task) :
    (verdict (t :: ts) : Except (Failure ε) Unit) = verdict ts := by
  rw [verdict, h]

theorem verdict_cons_of_fault (h : t.buildFault? = some e) (ts : List Task) :
    (verdict (t :: ts) : Except (Failure ε) Unit) = .error (.build e) := by
  rw [verdict, h]

/-! ## One task -/

/-- A task without a statement fails for that, and does nothing. -/
theorem perform_of_fault (h : t.buildFault? = some e) (db : Database σ) :
    t.perform db = (.error (.build e), db) := by
  cases t with
  | announce message fields => exact nomatch h
  | execute statement =>
    obtain rfl : statement = .error e := fault?_eq_some_iff.mp h
    rfl
  | count message statement =>
    obtain rfl : statement = .error e := fault?_eq_some_iff.mp h
    rfl

/-- Any other task hands its request over, if it has one, and fails exactly if that is refused. -/
theorem perform_of_built (h : t.buildFault? = none) (db : Database σ) :
    fault? (t.perform db).1 =
        (t.request?.bind (Connection.refusal? db.connection)).map .execution ∧
      db.HandsOver t.request?.toList (t.perform db).2 := by
  cases t with
  | announce message fields => exact ⟨rfl, (Database.handsOver_nil db).log (by simp)⟩
  | execute statement =>
    obtain ⟨q, rfl⟩ : ∃ q, statement = .ok q := fault?_eq_none_iff.mp h
    exact ⟨Database.fault?_execute db q, Database.handsOver_after db [.execute q]⟩
  | count message statement =>
    obtain ⟨q, rfl⟩ : ∃ q, statement = .ok q := fault?_eq_none_iff.mp h
    have hfault := Database.fault?_allRows_fetch db q
    have hover : db.HandsOver [.fetch q] (db.fetch q).2 := Database.handsOver_after db [.fetch q]
    rw [perform, Database.stream]
    cases hrows : allRows (db.fetch q).1 with
    | ok rows =>
      rw [hrows] at hfault
      exact ⟨hfault, hover.log (by simp)⟩
    | error f =>
      rw [hrows] at hfault
      exact ⟨hfault, hover⟩

/-! ## All tasks -/

/-- How a run ends and what it handed over: the undisturbed course if nothing is refused, and
otherwise its requests up to the first one that is refused. -/
structure FollowsCourse (db : Database σ) (ts : List Task) (result : Except (Failure ε) Unit)
    (db' : Database σ) : Prop where
  /-- Nothing was refused. -/
  undisturbed : Connection.firstRefusal? db.connection (requests ts) = none →
    result = verdict ts ∧ db.HandsOver (requests ts) db'
  /-- The request at position `n` from zero was refused. -/
  refused : ∀ n x, Connection.firstRefusal? db.connection (requests ts) = some (n, x) →
    result = .error (.execution x) ∧ db.HandsOver ((requests ts).take (n + 1)) db'

/-- A task in front that makes no request and is done changes nothing in what follows. -/
theorem FollowsCourse.of_silent {db₁ db' : Database σ} {result : Except (Failure ε) Unit}
    (hbuilt : t.buildFault? = none) (hsilent : t.request? = none) (hover : db.HandsOver [] db₁)
    (h : FollowsCourse db₁ ts result db') : FollowsCourse db (t :: ts) result db' := by
  have hrequests : requests (t :: ts) = requests ts := by
    rw [requests_cons_of_built hbuilt, hsilent, Option.toList_none, List.nil_append]
  have hconnection : db₁.connection = db.connection := hover.connection
  refine ⟨fun hnone ↦ ?_, fun n x hsome ↦ ?_⟩
  · rw [hrequests, ← hconnection] at hnone
    obtain ⟨hresult, hrest⟩ := h.undisturbed hnone
    rw [hrequests, verdict_cons_of_built hbuilt]
    exact ⟨hresult, hover.trans hrest⟩
  · rw [hrequests, ← hconnection] at hsome
    obtain ⟨hresult, hrest⟩ := h.refused n x hsome
    rw [hrequests]
    exact ⟨hresult, hover.trans hrest⟩

/-- Behind a request that is granted the course goes on. -/
theorem FollowsCourse.of_granted {db₁ db' : Database σ} {result : Except (Failure ε) Unit}
    {r : Request} (hbuilt : t.buildFault? = none) (hr : t.request? = some r)
    (hgranted : Connection.refusal? db.connection r = none) (hover : db.HandsOver [r] db₁)
    (h : FollowsCourse db₁ ts result db') : FollowsCourse db (t :: ts) result db' := by
  have hrequests : requests (t :: ts) = r :: requests ts := by
    rw [requests_cons_of_built hbuilt, hr, Option.toList_some, List.singleton_append]
  have hconnection : db₁.connection = Connection.receive db.connection r := hover.connection
  have hfirst := Connection.firstRefusal?_cons_of_none hgranted (requests ts)
  rw [← hconnection] at hfirst
  refine ⟨fun hnone ↦ ?_, fun n x hsome ↦ ?_⟩
  · rw [hrequests, hfirst, Option.map_eq_none_iff] at hnone
    obtain ⟨hresult, hrest⟩ := h.undisturbed hnone
    rw [hrequests, verdict_cons_of_built hbuilt]
    exact ⟨hresult, hover.trans hrest⟩
  · rw [hrequests, hfirst, Option.map_eq_some_iff] at hsome
    obtain ⟨⟨m, y⟩, hm, hpair⟩ := hsome
    obtain ⟨rfl, rfl⟩ := Prod.mk.inj hpair
    obtain ⟨hresult, hrest⟩ := h.refused m y hm
    rw [hrequests, List.take_succ_cons]
    exact ⟨hresult, hover.trans hrest⟩

/-- A request that is refused ends the course. -/
theorem FollowsCourse.of_refused {db' : Database σ} {r : Request} {x : ε}
    (hbuilt : t.buildFault? = none) (hr : t.request? = some r)
    (hrefused : Connection.refusal? db.connection r = some x) (hover : db.HandsOver [r] db')
    (ts : List Task) : FollowsCourse db (t :: ts) (.error (.execution x)) db' := by
  have hrequests : requests (t :: ts) = r :: requests ts := by
    rw [requests_cons_of_built hbuilt, hr, Option.toList_some, List.singleton_append]
  have hfirst := Connection.firstRefusal?_cons_of_some hrefused (requests ts)
  refine ⟨fun hnone ↦ ?_, fun n y hsome ↦ ?_⟩
  · rw [hrequests, hfirst] at hnone
    exact nomatch hnone
  · rw [hrequests, hfirst] at hsome
    obtain ⟨rfl, rfl⟩ := Prod.mk.inj (Option.some.inj hsome)
    rw [hrequests]
    exact ⟨rfl, hover⟩

/-- Every run follows the course of its tasks until something is refused. -/
theorem followsCourse (db : Database σ) (ts : List Task) :
    FollowsCourse db ts (performAll db ts).1 (performAll db ts).2 := by
  induction ts generalizing db with
  | nil => exact ⟨fun _ ↦ ⟨rfl, Database.handsOver_nil db⟩, fun _ _ h ↦ nomatch h⟩
  | cons t ts ih =>
    cases hfault : t.buildFault? with
    | some e =>
      rw [performAll_cons_of_error (perform_of_fault hfault db)]
      refine ⟨fun _ ↦ ?_, fun n x h ↦ ?_⟩
      · rw [requests_cons_of_fault hfault, verdict_cons_of_fault hfault]
        exact ⟨rfl, Database.handsOver_nil db⟩
      · rw [requests_cons_of_fault hfault] at h
        exact nomatch h
    | none =>
      obtain ⟨hresult, hover⟩ := perform_of_built hfault db
      rcases performAll_cons db t ts with ⟨db₁, hperform, hrest⟩ | ⟨f, db₁, hperform, hrest⟩
      · rw [hperform] at hresult hover
        have hgranted := Option.map_eq_none_iff.mp hresult.symm
        rw [hrest]
        cases hrequest : t.request? with
        | none =>
          rw [hrequest] at hover
          exact (ih db₁).of_silent hfault hrequest hover
        | some r =>
          rw [hrequest] at hover hgranted
          exact (ih db₁).of_granted hfault hrequest hgranted hover
      · rw [hperform] at hresult hover
        obtain ⟨x, hx, rfl⟩ := Option.map_eq_some_iff.mp hresult.symm
        obtain ⟨r, hrequest, hrefused⟩ := Option.bind_eq_some_iff.mp hx
        rw [hrest]
        rw [hrequest] at hover
        exact .of_refused hfault hrequest hrefused hover ts

end SqlBuilder.Task
