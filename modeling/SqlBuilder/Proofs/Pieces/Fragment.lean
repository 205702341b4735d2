import SqlBuilder.Writer

/-!
# Fragments of a statement

A writer spells as it goes. What it writes can also be given as a whole, as the pieces that are
written, and only the last step spells the pieces out in a dialect and numbers the placeholders. A
fragment knows neither how a dialect spells nor what was written before it, so fragments are joined
by `++` and mean the same wherever they stand.
-/

namespace SqlBuilder

/-- The smallest part of a statement. -/
inductive Piece where
  /-- Text that is written as it stands. -/
  | text (s : String)
  /-- A name, which is quoted. -/
  | name (s : String)
  /-- A literal. -/
  | literal (l : Literal)
  /-- A placeholder and the value that travels for it. -/
  | bind (v : Value)
deriving DecidableEq, Repr

/-- A part of a statement. -/
abbrev Fragment := List Piece

/-- What a literal reads as once it is written. A literal that the dialect's own rule refuses is
written nowhere, so its text does not matter. -/
def Dialect.literalText (d : Dialect) (l : Literal) : String :=
  match d.ownRenderLiteral with
  | some rule => (rule l).toOption.getD ""
  | none => d.usualText l

theorem Dialect.literalText_of_renderLiteral {d : Dialect} {l : Literal} {s : String}
    (h : d.renderLiteral l = .ok s) : d.literalText l = s := by
  rw [renderLiteral] at h
  rw [literalText]
  cases hrule : d.ownRenderLiteral with
  | some rule =>
    rw [hrule] at h
    exact congrArg (·.toOption.getD "") h
  | none =>
    rw [hrule] at h
    dsimp only at h
    cases hfinite : l.ensureFinite with
    | error e =>
      rw [hfinite] at h
      cases h
    | ok u =>
      rw [hfinite] at h
      exact Except.ok.inj h

namespace Fragment

/-! ## Fragments together -/

/-- A name that is not empty. -/
def ofName (name : String) : Except BuildError Fragment :=
  if name = "" then .error .emptyIdentifier else .ok [.name name]

/-- The fragments one after another with the separator between them. -/
def joined (separator : String) : List Fragment → Fragment
  | [] => []
  | [f] => f
  | f :: fs => f ++ .text separator :: joined separator fs

/-- The fragments as a list with commas. -/
def commaList (fs : List Fragment) : Fragment :=
  joined ", " fs

/-- The text, if it is asked for. -/
def optional (asked : Bool) (s : String) : Fragment :=
  if asked then [.text s] else []

/-- Keywords and a list with commas behind them; nothing at all if the list is empty. -/
def clause (keywords : String) (fs : List Fragment) : Fragment :=
  if fs.isEmpty then [] else .text keywords :: commaList fs

/-- Names as a list with commas; none of them may be empty. -/
def ofNames (names : List String) : Except BuildError Fragment :=
  return commaList (← names.mapM ofName)

/-! ## Spelling fragments out -/

/-- The values that travel for the placeholders of a fragment. -/
def binds (f : Fragment) : List Value :=
  f.filterMap fun
    | .bind v => some v
    | _ => none

/-- The characters of a fragment in a dialect, when `before` placeholders stand to its left. -/
def chars (d : Dialect) (before : Nat) : Fragment → List Char
  | [] => []
  | .text s :: f => s.toList ++ chars d before f
  | .name s :: f => (d.quoteIdentifier s).toList ++ chars d before f
  | .literal l :: f => (d.literalText l).toList ++ chars d before f
  | .bind _ :: f => (d.placeholder (before + 1)).toList ++ chars d (before + 1) f

/-- The statement that a fragment spells in a dialect. -/
def toQuery (d : Dialect) (f : Fragment) : Query where
  sql := String.ofList (f.chars d 0)
  binds := f.binds

/-! ## What is written together -/

@[simp] theorem binds_nil : binds [] = [] := rfl

@[simp] theorem binds_text (s : String) (f : Fragment) : binds (.text s :: f) = binds f := rfl

@[simp] theorem binds_name (s : String) (f : Fragment) : binds (.name s :: f) = binds f := rfl

@[simp] theorem binds_literal (l : Literal) (f : Fragment) : binds (.literal l :: f) = binds f :=
  rfl

@[simp] theorem binds_bind (v : Value) (f : Fragment) : binds (.bind v :: f) = v :: binds f := rfl

@[simp] theorem binds_append (f g : Fragment) : binds (f ++ g) = binds f ++ binds g := by
  simp [binds]

theorem binds_flatten (fs : List Fragment) : binds fs.flatten = fs.flatMap binds := by
  induction fs with
  | nil => rfl
  | cons f fs ih => rw [List.flatten_cons, binds_append, ih, List.flatMap_cons]

theorem binds_joined (separator : String) (fs : List Fragment) :
    (joined separator fs).binds = fs.flatMap binds := by
  fun_induction joined separator fs with
  | case1 => rfl
  | case2 f => simp
  | case3 f fs _ ih => rw [binds_append, binds_text, ih, List.flatMap_cons]

@[simp] theorem binds_commaList (fs : List Fragment) : (commaList fs).binds = fs.flatMap binds :=
  binds_joined _ _

@[simp] theorem binds_optional (b : Bool) (s : String) : (optional b s).binds = [] := by
  cases b <;> rfl

@[simp] theorem binds_clause (keywords : String) (fs : List Fragment) :
    (clause keywords fs).binds = fs.flatMap binds := by
  rw [clause]
  split
  · next h => rw [List.isEmpty_iff.mp h]; rfl
  · simp

/-- Two fragments written together read as each on its own, except that the placeholders of the
second are numbered after those of the first. -/
theorem chars_append (d : Dialect) (before : Nat) (f g : Fragment) :
    chars d before (f ++ g) = chars d before f ++ chars d (before + (binds f).length) g := by
  induction f generalizing before with
  | nil => simp [chars]
  | cons p f ih =>
    cases p with
    | text s => simp [chars, binds, ih]
    | name s => simp [chars, binds, ih]
    | literal l => simp [chars, binds, ih]
    | bind v => simp [chars, binds, ih, Nat.add_assoc, Nat.add_comm 1]

/-! ## Without bound values -/

variable (d : Dialect)

/-- Without bound values nothing is counted. -/
theorem chars_of_binds_eq_nil {f : Fragment} (h : f.binds = []) (before : Nat) :
    f.chars d before = f.chars d 0 := by
  induction f with
  | nil => rfl
  | cons p f ih =>
    cases p with
    | text s => rw [chars, ih h, chars]
    | name s => rw [chars, ih h, chars]
    | literal l => rw [chars, ih h, chars]
    | bind v => simp at h

theorem toQuery_of_binds_eq_nil {f : Fragment} (h : f.binds = []) :
    f.toQuery d = ⟨(f.toQuery d).sql, []⟩ := by
  rw [toQuery, h]

/-! ## Texts written together -/

variable {d} {f : Fragment}

theorem sql_text (s : String) (f : Fragment) :
    (toQuery d (.text s :: f)).sql = s ++ (f.toQuery d).sql := by
  simp [toQuery, chars]

theorem sql_name (s : String) (f : Fragment) :
    (toQuery d (.name s :: f)).sql = d.quoteIdentifier s ++ (f.toQuery d).sql := by
  simp [toQuery, chars]

/-- Behind a fragment without bound values another one reads as it does alone. -/
theorem sql_append (h : f.binds = []) (g : Fragment) :
    (toQuery d (f ++ g)).sql = (f.toQuery d).sql ++ (g.toQuery d).sql := by
  simp [toQuery, chars_append, h]

theorem sql_optional (asked : Bool) (s : String) :
    (toQuery d (optional asked s)).sql = if asked then s else "" := by
  cases asked with
  | false => rfl
  | true => simp [optional, toQuery, chars]

end Fragment

end SqlBuilder
