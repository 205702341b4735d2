import SqlBuilder.Proofs.Failure
import SqlBuilder.Proofs.Pieces.Fragment

/-!
# Writing up to the first fault

A writer checks while it writes, so a fault may come when a part is written already, and that part
stays. It realizes a computation of fragments if both agree: the writer succeeds where the
computation does and has then written its pieces, behind whatever was written before, and it fails
with the same fault. Whether it succeeds or not, it only appends.

What realizes what is closed under everything that writers are put together from, so that each
writer of an expression, a condition or a statement has a fragment by the steps it takes.
-/

namespace SqlBuilder

variable {d : Dialect}

/-! ## Writing pieces -/

namespace Query

variable (d) in
/-- What is written once one more piece is. -/
def push (q : Query) : Piece → Query
  | .text s => { q with sql := q.sql ++ s }
  | .name s => { q with sql := q.sql ++ d.quoteIdentifier s }
  | .literal l => { q with sql := q.sql ++ d.literalText l }
  | .bind v =>
    { sql := q.sql ++ d.placeholder (q.binds.length + 1)
      binds := q.binds ++ [v] }

variable (d) in
/-- What is written once the pieces of a fragment are, in their order. -/
def pushAll (q : Query) (f : Fragment) : Query :=
  f.foldl (push d) q

variable (d) in
/-- Writing appends to the text and to the values, and changes nothing of what was written. -/
theorem pushAll_eq (q : Query) (f : Fragment) : q.pushAll d f =
    ⟨q.sql ++ String.ofList (f.chars d q.binds.length), q.binds ++ f.binds⟩ := by
  induction f generalizing q with
  | nil => simp [pushAll, Fragment.chars]
  | cons p f ih =>
    have hstep : q.pushAll d (p :: f) = (q.push d p).pushAll d f := rfl
    rw [hstep, ih]
    cases p with
    | text s => simp [push, Fragment.chars, String.append_assoc]
    | name s => simp [push, Fragment.chars, String.append_assoc]
    | literal l => simp [push, Fragment.chars, String.append_assoc]
    | bind v => simp [push, Fragment.chars, String.append_assoc]

theorem pushAll_append (q : Query) (f g : Fragment) :
    q.pushAll d (f ++ g) = (q.pushAll d f).pushAll d g :=
  List.foldl_append

/-- What is written now is what was written before, with more behind it. -/
def Continues (q' q : Query) : Prop :=
  ∃ s vs, q' = ⟨q.sql ++ s, q.binds ++ vs⟩

theorem continues_pushAll (q : Query) (f : Fragment) : (q.pushAll d f).Continues q :=
  ⟨_, _, pushAll_eq d q f⟩

end Query

/-- Without bound values a fragment reads the same behind everything. -/
theorem Fragment.pushAll_of_binds_eq_nil {f : Fragment} (h : f.binds = []) (q : Query) :
    q.pushAll d f = ⟨q.sql ++ (f.toQuery d).sql, q.binds⟩ := by
  rw [Query.pushAll_eq, chars_of_binds_eq_nil d h, h, List.append_nil, toQuery]

/-! ## Writers that realize computations -/

namespace Writer

/-- The writer writes what the computation gives, and fails as it does. -/
structure Realizes (d : Dialect) (w : Writer Unit) (x : Except BuildError Fragment) : Prop where
  /-- Without a fault everything is written. -/
  of_ok : ∀ f, x = .ok f → ∀ q, w.behind q = (.ok (), q.pushAll d f)
  /-- A fault comes behind some pieces. -/
  of_error : ∀ e, x = .error e → ∀ q, ∃ f, w.behind q = (.error e, q.pushAll d f)

variable {α : Type} {w w' : Writer Unit} {x y : Except BuildError Fragment} {q : Query}

theorem behind_bind_of_ok {q' : Query} (h : behind w q = (.ok (), q')) :
    behind (do w; w') q = behind w' q' := by
  change (match behind w q with
    | (r, q') => (ExceptT.bindCont (fun _ ↦ w') r : StateM Query _) q') = _
  rw [h]
  rfl

theorem behind_bind_of_error {e : BuildError} {q' : Query} (h : behind w q = (.error e, q')) :
    behind (do w; w') q = (.error e, q') := by
  change (match behind w q with
    | (r, q') => (ExceptT.bindCont (fun _ ↦ w') r : StateM Query _) q') = _
  rw [h]
  rfl

namespace Realizes

theorem congr (h : Realizes d w x) (hxy : x = y) : Realizes d w y :=
  hxy ▸ h

/-! ### One piece -/

theorem nil : Realizes d (pure ()) (.ok []) where
  of_ok _ h _ := by
    obtain rfl := Except.ok.inj h
    rfl
  of_error _ h := nomatch h

theorem fault (e : BuildError) : Realizes d (throw e) (.error e) where
  of_ok _ h := nomatch h
  of_error _ h _ := by
    obtain rfl := Except.error.inj h
    exact ⟨[], rfl⟩

theorem text (s : String) : Realizes d (Writer.text s) (.ok [.text s]) where
  of_ok _ h _ := by
    obtain rfl := Except.ok.inj h
    rfl
  of_error _ h := nomatch h

theorem value (v : Value) : Realizes d (Writer.value d v) (.ok [.bind v]) where
  of_ok _ h _ := by
    obtain rfl := Except.ok.inj h
    rfl
  of_error _ h := nomatch h

theorem name (s : String) : Realizes d (Writer.name d s) (Fragment.ofName s) := by
  by_cases hs : s = ""
  · have hwriter : Writer.name d s = throw .emptyIdentifier := by
      rw [Writer.name, if_pos hs]
      rfl
    rw [hwriter, Fragment.ofName, if_pos hs]
    exact fault _
  · have hwriter : Writer.name d s = Writer.text (d.quoteIdentifier s) := by
      rw [Writer.name, if_neg hs]
    rw [hwriter, Fragment.ofName, if_neg hs]
    constructor
    · intro f hf q
      obtain rfl := Except.ok.inj hf
      rfl
    · intro e he
      cases he

/-! ### One thing after another -/

/-- Behind a check that succeeds a writer goes on with what the check gives. -/
theorem check {w : α → Writer Unit} {x : α → Except BuildError Fragment}
    (c : Except BuildError α) (h : ∀ a, c = .ok a → Realizes d (w a) (x a)) :
    Realizes d (do w (← Writer.check c)) (do x (← c)) := by
  cases c with
  | ok a => exact h a rfl
  | error e => exact fault e

/-- A writer goes on unless what must not be is the case. -/
theorem guarded {c : Prop} [Decidable c] {e : BuildError} (h : ¬c → Realizes d w x) :
    Realizes d (if c then throw e else w) (if c then throw e else x) := by
  by_cases hc : c
  · rw [if_pos hc, if_pos hc]
    exact fault e
  · rw [if_neg hc, if_neg hc]
    exact h hc

/-- What is written first stands in front, and a fault of the first writer is met first. -/
theorem seq (h : Realizes d w x) (h' : Realizes d w' y) :
    Realizes d (do w; w') (do return (← x) ++ (← y)) where
  of_ok f hf q := by
    obtain ⟨g, hg, hrest⟩ := bind_eq_ok_iff.mp hf
    obtain ⟨g', hg', rfl⟩ := bind_pure_eq_ok_iff.mp hrest
    rw [behind_bind_of_ok (h.of_ok g hg q), h'.of_ok g' hg', Query.pushAll_append]
  of_error e he q := by
    cases hx : x with
    | error e' =>
      rw [hx] at he
      obtain rfl := Except.error.inj he
      obtain ⟨f, hf⟩ := h.of_error _ hx q
      exact ⟨f, behind_bind_of_error hf⟩
    | ok g =>
      rw [hx] at he
      obtain ⟨f, hf⟩ := h'.of_error e (bind_pure_eq_error_iff.mp he) (q.pushAll d g)
      exact ⟨g ++ f, by rw [behind_bind_of_ok (h.of_ok g hx q), hf, Query.pushAll_append]⟩

/-! ### Lists -/

variable {as : List α} {writer : α → Writer Unit} {fragment : α → Except BuildError Fragment}

/-- Writers one after another write what each of them writes. -/
theorem forM (h : ∀ a ∈ as, Realizes d (writer a) (fragment a)) :
    Realizes d (as.forM writer) (do return (← as.mapM fragment).flatten) := by
  induction as with
  | nil => exact nil
  | cons a as ih =>
    obtain ⟨ha, has⟩ := List.forall_mem_cons.mp h
    refine (ha.seq (ih has)).congr ?_
    simp only [List.mapM_cons, bind_assoc, pure_bind, List.flatten_cons]

theorem joined (separator : String) (h : ∀ a ∈ as, Realizes d (writer a) (fragment a)) :
    Realizes d (Writer.joined separator (as.map writer))
      (do return Fragment.joined separator (← as.mapM fragment)) := by
  induction as with
  | nil => exact nil
  | cons a as ih =>
    obtain ⟨ha, has⟩ := List.forall_mem_cons.mp h
    cases as with
    | nil =>
      refine ha.congr ?_
      simp only [List.mapM_cons, List.mapM_nil, bind_assoc, pure_bind, Fragment.joined, bind_pure]
    | cons b bs =>
      refine (ha.seq ((text separator).seq (ih has))).congr ?_
      simp only [List.mapM_cons, bind_assoc, pure_bind, ok_bind, Fragment.joined,
        List.singleton_append]

theorem commaList (h : ∀ a ∈ as, Realizes d (writer a) (fragment a)) :
    Realizes d (Writer.commaList (as.map writer))
      (do return Fragment.commaList (← as.mapM fragment)) :=
  joined ", " h

theorem names (ss : List String) : Realizes d (Writer.names d ss) (Fragment.ofNames ss) :=
  commaList fun s _ ↦ name s

theorem optional (asked : Bool) (s : String) :
    Realizes d (Writer.optional asked s) (.ok (Fragment.optional asked s)) := by
  cases asked with
  | false => exact nil
  | true => exact text s

theorem clause (keywords : String) (h : ∀ a ∈ as, Realizes d (writer a) (fragment a)) :
    Realizes d (Writer.clause keywords (as.map writer))
      (do return Fragment.clause keywords (← as.mapM fragment)) := by
  cases as with
  | nil => exact nil
  | cons a as =>
    refine ((text keywords).seq (commaList h)).congr ?_
    simp only [List.mapM_cons, bind_assoc, pure_bind, ok_bind, Fragment.clause, List.isEmpty_cons,
      Bool.false_eq_true, if_false, List.singleton_append]

/-! ### What is written altogether -/

/-- What was written before does not decide how a writer ends. -/
theorem ends_eq (h : Realizes d w x) (q : Query) : (behind w q).1 = discard x := by
  cases hx : x with
  | ok f =>
    rw [h.of_ok f hx]
    rfl
  | error e =>
    obtain ⟨f, hf⟩ := h.of_error e hx q
    rw [hf]
    rfl

/-- Whether it succeeds or not, a writer only appends. -/
theorem continues (h : Realizes d w x) (q : Query) : (behind w q).2.Continues q := by
  cases hx : x with
  | ok f =>
    rw [h.of_ok f hx]
    exact q.continues_pushAll f
  | error e =>
    obtain ⟨f, hf⟩ := h.of_error e hx q
    rw [hf]
    exact q.continues_pushAll f

/-- A writer behind nothing spells the fragment out. -/
theorem query_eq (h : Realizes d w x) : w.query = (do return (← x).toQuery d) := by
  cases hx : x with
  | ok f =>
    have hspelled : Query.pushAll d ⟨"", []⟩ f = f.toQuery d := by
      simp [Query.pushAll_eq, Fragment.toQuery]
    rw [query, h.of_ok f hx, hspelled]
    rfl
  | error e =>
    obtain ⟨f, hf⟩ := h.of_error e hx ⟨"", []⟩
    rw [query, hf]
    rfl

end Realizes

end Writer

end SqlBuilder
