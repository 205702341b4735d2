import SqlBuilder.Proofs.Legality.DottedName
import SqlBuilder.Proofs.Spelling.Closed
import SqlBuilder.Proofs.Spelling.Numbering

/-!
# Calls in expressions

The name of a function is written as it stands, without quotes, so it has to be one that cannot be
taken for anything else. Then a call is found again in the text of the expression around it, however
deep it stands: its name, a parenthesis directly behind it, the arguments in their order with commas
between them, and another parenthesis, which is the partner of the first.

A part of an expression is told by its path, which says for each call around the part which of the
arguments it stands in. What is written in front of the part is read off the path.
-/

namespace SqlBuilder

open Reading Writer

variable {d : Dialect} {f : Fragment} {place : Place}

/-! ## Names of functions -/

namespace Text

/-- A separator ends one piece and begins another. -/
theorem splitAt_append_cons (sep : Char) (front back : List Char) :
    splitAt sep (front ++ sep :: back) = splitAt sep front ++ splitAt sep back := by
  induction front with
  | nil => exact if_pos rfl
  | cons c front ih =>
    rw [List.cons_append, splitAt, splitAt, ih]
    by_cases hc : c = sep
    · rw [if_pos hc, if_pos hc, List.cons_append]
    · have hne : splitAt sep front ≠ [] := splitAt_eq_splitOn sep front ▸ List.splitOn_ne_nil _ _
      obtain ⟨w, ws, hw⟩ := List.exists_cons_of_ne_nil hne
      rw [if_neg hc, if_neg hc, hw]
      rfl

/-- What can be said of a dotted name character by character. -/
structure IsPlainlyDotted (name : String) : Prop where
  /-- No other characters than those of ASCII occur. -/
  isAscii : ∀ c ∈ name.toList, c.toNat < 128
  /-- No dot stands at the beginning, at the end or in front of another one. -/
  between : ∀ front back, name.toList = front ++ '.' :: back →
    front ≠ [] ∧ back ≠ [] ∧ back.head? ≠ some '.'

theorem toNat_lt_of_isAlpha {c : Char} (h : c.isAlpha) : c.toNat < 128 := by
  have hlast : c.toNat ≤ 'Z'.toNat ∨ c.toNat ≤ 'z'.toNat := by
    rcases Bool.or_eq_true_iff.mp h with hupper | hlower
    · exact Or.inl (And.right (of_decide_eq_true hupper))
    · exact Or.inr (of_decide_eq_true (Bool.and_eq_true_iff.mp hlower).2)
  rcases hlast with hupper | hlower
  · exact Nat.lt_of_le_of_lt hupper (by decide)
  · exact Nat.lt_of_le_of_lt hlower (by decide)

theorem toNat_lt_of_isWordChar {c : Char} (h : isWordChar c) : c.toNat < 128 := by
  rcases isWordChar_iff.mp h with halpha | hdigit | rfl
  · exact toNat_lt_of_isAlpha halpha
  · exact Nat.lt_of_le_of_lt (Char.isDigit_iff_toNat.mp hdigit).2 (by decide)
  · decide

/-- None of the pieces of a dotted name is empty. -/
theorem nil_notMem_splitAt {name : String} (h : isDottedName name) :
    [] ∉ splitAt '.' name.toList := by
  intro hmem
  rw [isDottedName, List.all_eq_true] at h
  exact absurd (h [] hmem) Bool.false_ne_true

theorem IsFunctionName.isPlainlyDotted {name : String} (h : IsFunctionName name) :
    IsPlainlyDotted name := by
  have hdotted := isDottedName_iff.mpr h
  constructor
  · intro c hc
    rcases mem_dottedName hdotted hc with rfl | hword
    · decide
    · exact toNat_lt_of_isWordChar hword
  · intro front back hsplit
    have hnil := nil_notMem_splitAt hdotted
    rw [hsplit, splitAt_append_cons, List.mem_append, not_or] at hnil
    -- A dot in a wrong place leaves an empty piece at its side.
    refine ⟨?_, ?_, ?_⟩
    · rintro rfl
      exact hnil.1 List.mem_cons_self
    · rintro rfl
      exact hnil.2 List.mem_cons_self
    · intro hhead
      obtain ⟨rest, rfl⟩ := List.head?_eq_some_iff.mp hhead
      rw [splitAt, if_pos rfl] at hnil
      exact hnil.2 List.mem_cons_self

end Text

/-! ## What is written of an expression -/

/-- The pieces of a column. -/
def ColumnRef.pieces (c : ColumnRef) : Fragment :=
  match c.table with
  | none => [.name c.name]
  | some table => [.name table, .text ".", .name c.name]

theorem ColumnRef.eq_pieces {c : ColumnRef} (h : c.fragment = .ok f) : f = c.pieces := by
  obtain ⟨-, hf⟩ := fragment_eq_ok_iff.mp h
  rw [pieces]
  cases htable : c.table with
  | none =>
    rw [htable] at hf
    exact hf
  | some table =>
    rw [htable] at hf
    exact hf.2

/-- A list is its first item and the others, each with a comma in front. -/
theorem Fragment.commaList_cons (f : Fragment) (fs : List Fragment) :
    commaList (f :: fs) = f ++ fs.flatMap (.text ", " :: ·) := by
  induction fs generalizing f with
  | nil => exact (List.append_nil f).symm
  | cons g fs ih => exact congrArg (f ++ .text ", " :: ·) (ih g)

theorem Fragment.commaList_append_cons (fs : List Fragment) (g : Fragment) (gs : List Fragment) :
    commaList (fs ++ g :: gs)
      = fs.flatMap (· ++ [.text ", "]) ++ (g ++ gs.flatMap (.text ", " :: ·)) := by
  induction fs with
  | nil => exact commaList_cons g gs
  | cons f fs ih =>
    have hsplit : commaList (f :: (fs ++ g :: gs))
        = f ++ .text ", " :: commaList (fs ++ g :: gs) := by
      cases fs <;> rfl
    rw [List.cons_append, hsplit, ih, List.flatMap_cons, List.append_assoc, List.append_assoc]
    rfl

namespace Expr

mutual

/-- The pieces of an expression, whether or not it may be written. -/
def pieces : Expr → Fragment
  | .column c => c.pieces
  | .literal l => [.literal l]
  | .bind v => [.bind v]
  | .call function arguments =>
    .text function :: .text "(" :: (Fragment.commaList (piecesAll arguments) ++ [.text ")"])

/-- The pieces of each of the expressions. -/
def piecesAll : List Expr → List Fragment
  | [] => []
  | e :: es => e.pieces :: piecesAll es

end

theorem piecesAll_eq_map (es : List Expr) : piecesAll es = es.map pieces := by
  induction es with
  | nil => rfl
  | cons e es ih => rw [piecesAll, ih, List.map_cons]

/-- What may be written of an expression is its pieces. -/
theorem eq_pieces {e : Expr} (h : e.fragment d place = .ok f) : f = e.pieces := by
  induction e using Expr.induction generalizing place f with
  | column c => exact ColumnRef.eq_pieces (fragment_column_eq_ok_iff.mp h).2
  | literal l => exact (Literal.fragment_eq_ok_iff.mp h).2.2
  | bind v => exact (Except.ok.inj h).symm
  | call function arguments ih =>
    obtain ⟨-, -, fs, hfs, rfl⟩ := fragment_call_eq_ok_iff.mp h
    have hall : List.Forall₂ (· = ·) fs (arguments.map pieces) :=
      forall₂_map_of_forall₂ hfs fun a ha _ hf ↦ ih a ha hf
    rw [List.forall₂_eq_eq_eq] at hall
    rw [pieces, piecesAll_eq_map, hall]

/-- The part of an expression that a path leads to, if it leads anywhere. -/
def part? : List Nat → Expr → Option Expr
  | [], e => some e
  | i :: path, .call _ arguments => arguments[i]?.bind (part? path)
  | _ :: _, _ => none

/-- What is written of an expression in front of the part that a path leads to. -/
def front : List Nat → Expr → Fragment
  | i :: path, .call function arguments =>
    .text function :: .text "(" :: ((arguments.take i).flatMap (fun a ↦ a.pieces ++ [.text ", "])
      ++ arguments[i]?.elim [] (front path))
  | _, _ => []

variable {path : List Nat} {e a : Expr}

/-- A path that leads anywhere begins with an argument of a call. -/
theorem part?_cons_eq_some {i : Nat} (h : e.part? (i :: path) = some a) :
    ∃ function before b behind, e = .call function (before ++ b :: behind) ∧ before.length = i ∧
      b.part? path = some a := by
  cases e with
  | call function arguments =>
    obtain ⟨b, hb, hpart⟩ := Option.bind_eq_some_iff.mp h
    obtain ⟨hlt, rfl⟩ := List.getElem?_eq_some_iff.mp hb
    refine ⟨function, arguments.take i, arguments[i], arguments.drop (i + 1), ?_, ?_, hpart⟩
    · rw [List.getElem_cons_drop, List.take_append_drop]
    · rw [List.length_take, Nat.min_eq_left hlt.le]
  | _ => exact nomatch h

theorem front_cons (function : String) (before : List Expr) (b : Expr) (behind : List Expr) :
    front (before.length :: path) (.call function (before ++ b :: behind))
      = .text function :: .text "("
        :: (before.flatMap (fun a ↦ a.pieces ++ [.text ", "]) ++ b.front path) := by
  rw [front]
  simp

/-- The pieces of a part stand behind those in front of it. -/
theorem exists_pieces_eq_append (h : e.part? path = some a) :
    ∃ back, e.pieces = e.front path ++ (a.pieces ++ back) := by
  induction path generalizing e with
  | nil =>
    obtain rfl := Option.some.inj h
    exact ⟨[], by simp [front]⟩
  | cons i path ih =>
    obtain ⟨function, before, b, behind, rfl, rfl, hpart⟩ := part?_cons_eq_some h
    obtain ⟨back, hb⟩ := ih hpart
    refine ⟨back ++ ((behind.map pieces).flatMap (.text ", " :: ·) ++ [.text ")"]), ?_⟩
    rw [pieces, piecesAll_eq_map, List.map_append, List.map_cons, Fragment.commaList_append_cons,
      front_cons, hb, List.flatMap_map]
    simp only [List.cons_append, List.append_assoc]

/-- A part of what may be written may be written in its own place. -/
theorem exists_fragment_of_part? (h : e.fragment d place = .ok f) (ha : e.part? path = some a) :
    ∃ place g, a.fragment d place = .ok g := by
  induction path generalizing e place f with
  | nil =>
    obtain rfl := Option.some.inj ha
    exact ⟨place, f, h⟩
  | cons i path ih =>
    obtain ⟨function, before, b, behind, rfl, -, hpart⟩ := part?_cons_eq_some ha
    obtain ⟨-, -, fs, hfs, -⟩ := fragment_call_eq_ok_iff.mp h
    obtain ⟨g, hg⟩ := exists_of_forall₂ hfs b (by simp)
    exact ih hg hpart

end Expr

/-! ## Parentheses -/

theorem Dialect.closed_placeholder (hd : d.ownPlaceholder = none) (position : Nat) :
    Closed (plainly (d.placeholder position).toList) := by
  refine .plainly (List.all_eq_true.mpr fun c hc ↦ ?_)
  rcases mem_placeholder hd hc with rfl | rfl | hdigit
  · rfl
  · rfl
  · exact isFlatChar_of_class hdigit rfl rfl rfl

theorem closed_dottedName {name : String} (h : Text.isDottedName name) :
    Closed (plainly name.toList) := by
  refine .plainly (List.all_eq_true.mpr fun c hc ↦ ?_)
  rcases mem_dottedName h hc with rfl | hword
  · rfl
  · exact Dialect.isFlatChar_of_class hword rfl rfl rfl

/-- In a list of closed parts every parenthesis has its partner. -/
theorem Fragment.exists_nested_commaList {fs : List Fragment}
    (h : ∀ f ∈ fs, ∀ before, Closed (f.regions d before)) (before : Nat) :
    ∃ ns, Nested ((commaList fs).regions d before) ns := by
  have hcomma : Nested (plainly ", ".toList) ((plainly ", ".toList).map .region) :=
    .regions (by decide)
  rw [commaList]
  fun_induction Fragment.joined ", " fs generalizing before with
  | case1 => exact ⟨[], .nil⟩
  | case2 f =>
    obtain ⟨ns, hns, -⟩ := h f List.mem_cons_self before
    exact ⟨ns, nested_iff.mpr hns⟩
  | case3 f fs _ ih =>
    obtain ⟨hf, hfs⟩ := List.forall_mem_cons.mp h
    obtain ⟨ns, hns, -⟩ := hf before
    obtain ⟨ns', hns'⟩ := ih hfs (before + f.binds.length)
    rw [regions_append, regions_text]
    exact ⟨_, (nested_iff.mpr hns).append (hcomma.append hns')⟩

namespace Expr

/-- An expression stays together: every parenthesis has its partner in it, and its commas stand
between parentheses. -/
theorem closed_fragment (hd : d.Regular) {e : Expr} (h : e.fragment d place = .ok f)
    (before : Nat) : Closed (f.regions d before) := by
  induction e using Expr.induction generalizing place f before with
  | column c =>
    obtain rfl := ColumnRef.eq_pieces (fragment_column_eq_ok_iff.mp h).2
    rw [ColumnRef.pieces]
    cases c.table with
    | none => exact .quoted _
    | some table => exact (Closed.quoted _).append ((Closed.plainly (by decide)).append (.quoted _))
  | literal l =>
    obtain ⟨-, hfinite, rfl⟩ := (Literal.fragment_eq_ok_iff_of_usual hd.renderLiteral_usual).mp h
    exact (Literal.closed hd hfinite _).append .nil
  | bind v =>
    obtain rfl := Except.ok.inj h
    exact (Dialect.closed_placeholder hd.placeholder_usual _).append .nil
  | call function arguments ih =>
    obtain ⟨-, hdotted, fs, hfs, rfl⟩ := fragment_call_eq_ok_iff.mp h
    have hall : ∀ f ∈ fs, ∀ before, Closed (f.regions d before) :=
      forall_mem_of_forall₂ hfs fun a ha _ hf before ↦ ih a ha hf before
    obtain ⟨ns, hns⟩ := Fragment.exists_nested_commaList hall before
    rw [Fragment.regions_text, Fragment.regions_text, Fragment.regions_append]
    apply (closed_dottedName hdotted).append
    exact .enclosed_of_nested hns

end Expr

/-- Between the texts in front and behind, the parentheses around the inner text are partners:
reading meets both outside quotes, and what it meets between them never closes more parentheses than
it opened and in the end as many. -/
def Partners (d : Dialect) (front inner back : String) : Prop :=
  ∃ rs rs' rs'', Reading.regions d front.toList = some rs ∧
    Reading.regions d inner.toList = some rs' ∧
    Reading.regions d (front ++ "(" ++ inner ++ ")" ++ back).toList
      = some (rs ++ .plain '(' :: (rs' ++ .plain ')' :: rs'')) ∧
    Balanced rs'

namespace Fragment

theorem textBehind_append (before : Nat) (f g : Fragment) : (f ++ g).textBehind d before
    = f.textBehind d before ++ g.textBehind d (before + f.binds.length) := by
  rw [textBehind, chars_append, String.ofList_append]
  rfl

theorem textBehind_text (before : Nat) (s : String) (f : Fragment) :
    textBehind d before (.text s :: f) = s ++ f.textBehind d before := by
  rw [textBehind, chars, String.ofList_append, String.ofList_toList]
  rfl

/-- Text behind a fragment stands behind the text of the fragment. -/
theorem textBehind_concat (before : Nat) (f : Fragment) (s : String) :
    (f ++ [Piece.text s]).textBehind d before = f.textBehind d before ++ s := by
  rw [textBehind_append, textBehind_text]
  exact congrArg (f.textBehind d before ++ ·) String.append_empty

/-- The text of a list has the texts of its items with commas between them. -/
theorem textBehind_commaList (before : Nat) (fs : List Fragment) :
    (commaList fs).textBehind d before
      = ", ".intercalate ((charsEach d before fs).map String.ofList) := by
  rw [textBehind, chars_commaList, String.ofList_toList]

variable {T : Set QuotedText} {g : Fragment}

theorem Sound.left (h : Sound T (f ++ g)) : Sound T f :=
  ⟨fun p hp ↦ h.pieces p (List.mem_append_left g hp), (List.isChain_append.mp h.joins).1⟩

theorem Sound.right (h : Sound T (f ++ g)) : Sound T g :=
  ⟨fun p hp ↦ h.pieces p (List.mem_append_right f hp), (List.isChain_append.mp h.joins).2.1⟩

/-- Reading the text of a sound fragment finds its regions. -/
theorem Sound.regions_textBehind (hd : d.Regular) (h : Sound T f) (before : Nat) :
    Reading.regions d (f.textBehind d before).toList = some (f.regions d before) := by
  rw [textBehind, String.toList_ofList, regions_chars hd h]

/-- Parentheses around a nested list are partners, whatever stands around them. -/
theorem partners (hd : d.Regular) {front inner back : Fragment}
    (h : Sound T (front ++ .text "(" :: (inner ++ .text ")" :: back))) (before : Nat)
    (hinner : ∃ ns, Nested (inner.regions d (before + front.binds.length)) ns) :
    Partners d (front.textBehind d before) (inner.textBehind d (before + front.binds.length))
      (back.textBehind d (before + front.binds.length + inner.binds.length)) := by
  obtain ⟨ns, hns⟩ := hinner
  have hall := h.regions_textBehind hd before
  simp only [textBehind_append, textBehind_text, ← String.append_assoc, regions_append,
    regions_text] at hall
  exact ⟨front.regions d before, inner.regions d _, back.regions d _,
    h.left.regions_textBehind hd before, h.right.tail.left.regions_textBehind hd _, hall,
    balanced_of_nests (nested_iff.mp hns)⟩

end Fragment

/-! ## Calls -/

/-- The arguments are written one after another, the first of them behind `before` values, and each
appends one of the texts. -/
inductive WritesEach (d : Dialect) : Nat → List Expr → List String → Prop
  | nil (before : Nat) : WritesEach d before [] []
  | cons {before : Nat} {a : Expr} {text : String} {as : List Expr} {texts : List String}
    (ha : ∀ q : Query, q.binds.length = before →
      (a.write d .argument).behind q = (.ok (), ⟨q.sql ++ text, q.binds ++ a.binds⟩))
    (has : WritesEach d (before + a.bindCount) as texts) :
    WritesEach d before (a :: as) (text :: texts)

/-- In the text of an expression behind `before` values, the call that a path leads to is written as
a call. -/
structure Expr.WritesCall (d : Dialect) (before : Nat) (text : String) (e : Expr)
    (path : List Nat) (function : String) (arguments : List Expr) : Prop where
  /-- The function has a name that needs no quotes. -/
  isFunctionName : Text.IsFunctionName function
  /-- Behind all that stands in front of the call are its name, the arguments between parentheses,
  and the rest. -/
  exists_texts : ∃ texts back,
    WritesEach d (before + (e.front path).binds.length) arguments texts ∧
    text = (e.front path).textBehind d before ++ function ++ "(" ++ ", ".intercalate texts ++ ")"
      ++ back ∧
    (d.Regular →
      Partners d ((e.front path).textBehind d before ++ function) (", ".intercalate texts) back)

namespace Expr

/-- An expression that may be written appends its text and its values. -/
theorem behind_write {e : Expr} (h : e.fragment d place = .ok f) (q : Query) :
    (e.write d place).behind q
      = (.ok (), ⟨q.sql ++ f.textBehind d q.binds.length, q.binds ++ e.binds⟩) := by
  rw [(e.realizes_write place).of_ok f h, Query.pushAll_eq, binds_fragment h]
  rfl

theorem writesEach_of_forall₂ {es : List Expr} {fs : List Fragment}
    (h : List.Forall₂ (fun e f ↦ e.fragment d .argument = .ok f) es fs) (before : Nat) :
    WritesEach d before es ((Fragment.charsEach d before fs).map String.ofList) := by
  induction h generalizing before with
  | nil => exact .nil before
  | @cons e f es fs hf _ ih =>
    refine .cons (fun q hq ↦ ?_) ?_
    · rw [behind_write hf, hq]
      rfl
    · rw [← length_binds, ← binds_fragment hf]
      exact ih _

/-- Every call in an expression that may be written is written as a call. -/
theorem writesCall {e : Expr} {path : List Nat} {function : String} {arguments : List Expr}
    (h : e.fragment d place = .ok f) (hpart : e.part? path = some (.call function arguments))
    (before : Nat) : e.WritesCall d before (f.textBehind d before) path function arguments := by
  obtain ⟨back, hback⟩ := exists_pieces_eq_append hpart
  obtain ⟨_, g, hg⟩ := exists_fragment_of_part? h hpart
  obtain ⟨-, hdotted, fs, hfs, hcall⟩ := fragment_call_eq_ok_iff.mp hg
  have hsplit : f = (e.front path ++ [.text function])
      ++ .text "(" :: (Fragment.commaList fs ++ .text ")" :: back) := by
    rw [eq_pieces h, hback, ← eq_pieces hg, hcall]
    simp
  -- The name of the function adds no value to those in front of the call.
  have hbinds : (e.front path ++ [Piece.text function]).binds.length
      = (e.front path).binds.length := by
    simp
  refine ⟨Text.isDottedName_iff.mp hdotted, _,
    back.textBehind d
      (before + (e.front path).binds.length + (Fragment.commaList fs).binds.length),
    writesEach_of_forall₂ hfs _, ?_, fun hd ↦ ?_⟩
  · rw [hsplit, Fragment.textBehind_append, Fragment.textBehind_concat, hbinds,
      Fragment.textBehind_text, Fragment.textBehind_append, Fragment.textBehind_text,
      Fragment.textBehind_commaList]
    simp only [String.append_assoc]
  · have hsound : f.Sound Set.univ := sound_fragment hd h fun _ _ ↦ trivial
    have hclosed : ∀ f ∈ fs, ∀ before, Closed (f.regions d before) :=
      forall_mem_of_forall₂ hfs fun _ _ _ hf ↦ closed_fragment hd hf
    rw [hsplit] at hsound
    have hpartners := Fragment.partners hd hsound before
      (Fragment.exists_nested_commaList hclosed _)
    rw [Fragment.textBehind_concat, Fragment.textBehind_commaList, hbinds] at hpartners
    exact hpartners

/-- An attempt to write an expression succeeds only if the expression may be written. -/
theorem exists_fragment_of_behind {e : Expr} {q q' : Query}
    (h : (e.write d place).behind q = (.ok (), q')) : ∃ f, e.fragment d place = .ok f := by
  cases hf : e.fragment d place with
  | ok f => exact ⟨f, rfl⟩
  | error fault =>
    obtain ⟨g, hg⟩ := (e.realizes_write place).of_error fault hf q
    rw [h] at hg
    exact nomatch hg

/-- **Calls.** The names that pass the test for functions are those of the grammar, which have
neither characters beyond ASCII nor dots in wrong places. Writing an expression while it is checked
agrees with checking it first, and only ever appends. If it succeeds, what it appends has every call
in it, at whatever depth, written as a call: its name, its arguments in their order with commas
between them, and around these a parenthesis and its partner. -/
theorem writes_calls (d : Dialect) :
    (∀ name, Text.isDottedName name ↔ Text.IsFunctionName name) ∧
      (∀ name, Text.IsFunctionName name → Text.IsPlainlyDotted name) ∧
      (∀ (e : Expr) (place : Place), Realizes d (e.write d place) (e.fragment d place)) ∧
      (∀ (e : Expr) (place : Place) (q : Query), ((e.write d place).behind q).2.Continues q) ∧
      ∀ (e : Expr) (place : Place) (q q' : Query), (e.write d place).behind q = (.ok (), q') →
        ∃ text, q' = ⟨q.sql ++ text, q.binds ++ e.binds⟩ ∧
          ∀ path function arguments, e.part? path = some (.call function arguments) →
            e.WritesCall d q.binds.length text path function arguments := by
  refine ⟨fun _ ↦ Text.isDottedName_iff, fun _ h ↦ h.isPlainlyDotted, realizes_write,
    fun e place q ↦ (e.realizes_write place).continues q, ?_⟩
  intro e place q q' h
  obtain ⟨f, hf⟩ := exists_fragment_of_behind h
  refine ⟨f.textBehind d q.binds.length, ?_, ?_⟩
  · rw [behind_write hf] at h
    exact (Prod.mk.inj h).2.symm
  · intro path function arguments hpart
    exact writesCall hf hpart q.binds.length

/-- A call in a call. A text and a name in it have parentheses and quotes in them. -/
def lowered : Expr :=
  .call "coalesce"
    [.call "pg_catalog.lower" [.bind (.text "A"), .literal (.string "a')(")],
      .column { name := "(\"" }, .bind (.int 3)]

/-- Behind one value, the inner call is the first part of what is written. -/
theorem writes_calls_lowered :
    (lowered.write .postgresql .operand).behind ⟨"a = $1 AND b = ", [.int 1]⟩ =
        (.ok (), ⟨"a = $1 AND b = " ++ "coalesce(pg_catalog.lower($2, 'a'')('), \"(\"\"\", $3)",
          [.int 1, .text "A", .int 3]⟩) ∧
      lowered.WritesCall .postgresql 1
        "coalesce(pg_catalog.lower($2, 'a'')('), \"(\"\"\", $3)" [0]
        "pg_catalog.lower" [.bind (.text "A"), .literal (.string "a')(")] := by
  have hwrite : (lowered.write .postgresql .operand).behind ⟨"a = $1 AND b = ", [.int 1]⟩ =
      (.ok (), ⟨"a = $1 AND b = " ++ "coalesce(pg_catalog.lower($2, 'a'')('), \"(\"\"\", $3)",
        [.int 1, .text "A", .int 3]⟩) := by
    decide +kernel
  obtain ⟨text, htext, hcall⟩ := (writes_calls .postgresql).2.2.2.2 lowered .operand _ _ hwrite
  obtain rfl := (String.append_right_inj _).mp (Query.mk.inj htext).1
  exact ⟨hwrite, hcall [0] _ _ rfl⟩

end Expr

end SqlBuilder
