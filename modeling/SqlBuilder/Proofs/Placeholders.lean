import SqlBuilder.Proofs.Script
import Mathlib

/-!
# Placeholders and the values that travel for them

The placeholders that a reader meets outside quotes are as many as the values beside the text, and
they stand for them in order: numbered from one where they are numbered. The values in turn are the
bound values of the statement's expressions, read from left to right.

No other piece of a fragment holds a question mark or a dollar sign outside quotes, and no digit
follows a placeholder, so scanning finds each placeholder whole.
-/

namespace SqlBuilder

open Reading

namespace Reading

/-- The digits outside quotes that the regions begin with. -/
def leadingDigits : List Region → List Char
  | .plain c :: rs => if c.isDigit then c :: leadingDigits rs else []
  | _ => []

/-- The placeholders outside quotes: question marks, and dollar signs with all digits
behind them. -/
def placeholders : List Region → List String
  | [] => []
  | .plain '?' :: rs => "?" :: placeholders rs
  | .plain '$' :: rs => String.ofList ('$' :: leadingDigits rs) :: placeholders rs
  | _ :: rs => placeholders rs

variable {cs : List Char} {rs : List Region}

theorem placeholders_quoted (t : QuotedText) (rs : List Region) :
    placeholders (.quoted t :: rs) = placeholders rs := rfl

theorem placeholders_plain {c : Char} (hquestion : c ≠ '?') (hdollar : c ≠ '$') (rs : List Region) :
    placeholders (.plain c :: rs) = placeholders rs := by
  rw [placeholders] <;> simp_all

theorem placeholders_plainly (h : ∀ c ∈ cs, c ≠ '?' ∧ c ≠ '$') :
    placeholders (plainly cs ++ rs) = placeholders rs := by
  induction cs with
  | nil => rfl
  | cons c cs ih =>
    rw [List.forall_mem_cons] at h
    rw [plainly_cons, List.cons_append, placeholders_plain h.1.1 h.1.2, ih h.2]

theorem leadingDigits_digits (h : ∀ c ∈ cs, c.isDigit) (hrs : leadingDigits rs = []) :
    leadingDigits (plainly cs ++ rs) = cs := by
  induction cs with
  | nil => exact hrs
  | cons c cs ih =>
    rw [List.forall_mem_cons] at h
    rw [plainly_cons, List.cons_append, leadingDigits, if_pos h.1, ih h.2]

/-- A character of a class without the marks of placeholders is none of them. -/
theorem not_mark_of_class {p : Char → Bool} {c : Char} (hc : p c)
    (hp : p '?' = false ∧ p '$' = false) : c ≠ '?' ∧ c ≠ '$' :=
  ⟨ne_of_class hc hp.1, ne_of_class hc hp.2⟩

/-- A placeholder is found whole in front of anything but a digit. -/
theorem placeholders_placeholder {d : Dialect} (hd : d.ownPlaceholder = none) (position : Nat)
    (hrs : leadingDigits rs = []) :
    placeholders (plainly (d.placeholder position).toList ++ rs)
      = d.placeholder position :: placeholders rs := by
  cases hstyle : d.placeholderStyle with
  | question =>
    have htext : d.placeholder position = "?" := by simp [Dialect.placeholder, hd, hstyle]
    rw [htext, show "?".toList = ['?'] by simp]
    rfl
  | dollar =>
    have htext : (d.placeholder position).toList = '$' :: Nat.toDigits 10 position := by
      rw [Dialect.toList_placeholder hd, hstyle]
    have hdigits : ∀ c ∈ Nat.toDigits 10 position, c.isDigit :=
      fun c hc ↦ isDigit_of_mem_toDigits hc
    rw [htext, plainly_cons, List.cons_append, placeholders, leadingDigits_digits hdigits hrs,
      placeholders_plainly fun c hc ↦ not_mark_of_class (hdigits c hc) (by decide),
      ← htext, String.ofList_toList]

end Reading

namespace Fragment

variable {T : Set QuotedText} {d : Dialect} {f : Fragment}

theorem not_mark_of_literalWord {cs : List Char} (h : Dialect.LiteralWord cs) :
    ∀ c ∈ cs, c ≠ '?' ∧ c ≠ '$' := by
  intro c hc
  cases h with
  | numeral h => exact not_mark_of_class (h.chars c hc) (by decide)
  | letters _ h => exact not_mark_of_class (List.all_eq_true.mp h c hc) (by decide)
  | wildcard =>
    obtain rfl := List.mem_singleton.mp hc
    decide

/-- Behind a bound value, a sound fragment goes on with no digit. -/
theorem Sound.leadingDigits_eq_nil {v : Value} (hf : Sound T (.bind v :: f)) (before : Nat) :
    leadingDigits (f.regions d before) = [] := by
  obtain rfl | ⟨s, g, c, cs, rfl, hs, hbreak⟩ := hf.next (by simp)
  · rfl
  · have hdigit : c.isDigit = false := by
      simp only [isBreak, Bool.or_eq_true, beq_iff_eq] at hbreak
      obtain ((rfl | rfl) | rfl) | rfl := hbreak <;> decide
    simp [hs, leadingDigits, hdigit]

/-- The placeholders of a sound fragment are those of its bound values, numbered on from what stands
to its left. -/
theorem Sound.placeholders_regions (hd : d.Regular) (hf : f.Sound T) (before : Nat) :
    placeholders (f.regions d before)
      = (List.range f.binds.length).map fun i ↦ d.placeholder (before + i + 1) := by
  induction f generalizing before with
  | nil => rfl
  | cons p f ih =>
    have hsound := hf.pieces p List.mem_cons_self
    cases p with
    | text s =>
      rw [regions_text, placeholders_plainly fun c hc ↦
        not_mark_of_class (List.all_eq_true.mp hsound c hc) (by decide), ih hf.tail,
        binds_text]
    | name s => rw [regions_name, placeholders_quoted, ih hf.tail, binds_name]
    | literal l =>
      rw [regions_literal, binds_literal, ← ih hf.tail]
      by_cases hl : ∃ s, l = .string s
      · obtain ⟨s, rfl⟩ := hl
        exact placeholders_quoted _ _
      · rw [Piece.regions_literal (not_exists.mp hl)]
        exact placeholders_plainly
          (not_mark_of_literalWord (hd.literalWord hsound.1 (not_exists.mp hl)))
    | bind v =>
      rw [regions_bind,
        placeholders_placeholder hd.placeholder_usual _ (hf.leadingDigits_eq_nil _), ih hf.tail,
        binds_bind, List.length_cons, List.range_succ_eq_map, List.map_cons, List.map_map]
      -- The first placeholder is taken, and the others have one more to their left.
      refine congrArg _ (List.map_congr_left ?_)
      intro i _
      rw [Function.comp, show before + 1 + i + 1 = before + (i + 1) + 1 by omega]

end Fragment

/-! ## Scripts -/

/-- **Correspondence.** Outside quotes a query holds exactly one placeholder for each value that
travels beside it, in order, and the values are the bound values of the statement's expressions from
left to right. -/
theorem Script.placeholders_correspond {d : Dialect} (hd : d ∈ Dialect.builtIn) {s : Script}
    {q : Query} (h : s.Gives d q) :
    (∃ rs, regions d q.sql.toList = some rs ∧
        (d = .postgresql →
          placeholders rs = (List.range q.binds.length).map fun i ↦ "$" ++ toString (i + 1)) ∧
        (d = .mysql ∨ d = .sqlite → placeholders rs = List.replicate q.binds.length "?")) ∧
      q.binds = (s.expressions d).flatMap Expr.binds ∧
      q.binds.length = ((s.expressions d).map Expr.bindCount).sum := by
  have hregular := Dialect.regular_of_mem_builtIn hd
  obtain ⟨f, rfl, hsound, hbinds⟩ := s.exists_sound hregular h
  have hscan := hsound.placeholders_regions hregular 0
  refine ⟨⟨f.regions d 0, ?_, ?_, ?_⟩, hbinds, ?_⟩
  · rw [Fragment.toQuery, String.toList_ofList]
    exact Fragment.regions_chars hregular hsound 0
  · rintro rfl
    rw [hscan]
    simp [Fragment.toQuery, Dialect.placeholder, Dialect.postgresql]
  · rintro (rfl | rfl)
    · rw [hscan]
      simp [Fragment.toQuery, Dialect.placeholder, Dialect.mysql, List.map_const']
    · rw [hscan]
      simp [Fragment.toQuery, Dialect.placeholder, Dialect.sqlite, List.map_const']
  · rw [show (f.toQuery d).binds = f.binds from rfl, hbinds, List.length_flatMap]
    simp only [Expr.length_binds]

/-- A call around a call, and a string and a column that hold marks of their own. -/
theorem Script.placeholders_correspond_nested :
    Dialect.postgresql ∈ Dialect.builtIn ∧
      (Script.select
        [.items [.call "f" [.bind .null, .call "g" [.bind (.int 7)]], .literal (.string "$3 ?")],
          .condition (.compare .and ⟨.column { name := "$1?" }, .equal, .bind (.text "?")⟩)]).Gives
        .postgresql ⟨"SELECT f($1, g($2)), '$3 ?' WHERE \"$1?\" = $3", [.null, .int 7, .text "?"]⟩ ∧
      ∃ rs, regions .postgresql "SELECT f($1, g($2)), '$3 ?' WHERE \"$1?\" = $3".toList = some rs ∧
        placeholders rs = ["$1", "$2", "$3"] := by
  have hd : Dialect.postgresql ∈ Dialect.builtIn := by simp [Dialect.builtIn]
  have hgives : (Script.select
      [.items [.call "f" [.bind .null, .call "g" [.bind (.int 7)]], .literal (.string "$3 ?")],
        .condition (.compare .and ⟨.column { name := "$1?" }, .equal, .bind (.text "?")⟩)]).Gives
      .postgresql ⟨"SELECT f($1, g($2)), '$3 ?' WHERE \"$1?\" = $3", [.null, .int 7, .text "?"]⟩ :=
    .select (by decide +kernel)
  obtain ⟨⟨rs, hrs, hnumbered, -⟩, -, -⟩ := Script.placeholders_correspond hd hgives
  refine ⟨hd, hgives, rs, hrs, ?_⟩
  rw [hnumbered rfl]
  decide

end SqlBuilder
