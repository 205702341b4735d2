import SqlBuilder.Proofs.Reading.Quoted
import Mathlib.Data.List.Infix

/-!
# What stands outside quotes

The first pass over a statement separates quoted text from everything else. It is the pass that a
hostile name or string would have to deceive: if it finds the quoted texts that were meant, then
nothing a user wrote is read as SQL. A statement on which the pass ends inside quotes has no
regions.
-/

namespace SqlBuilder.Reading

/-- A text between quotes, without them. -/
inductive QuotedText where
  /-- Between the quotes of names. -/
  | name (s : String)
  /-- Between the quotes of string literals. -/
  | string (s : String)
deriving DecidableEq, Repr

/-- What the first pass meets. -/
inductive Region where
  /-- A character outside quotes. -/
  | plain (c : Char)
  /-- A quoted text, as long as it can be. -/
  | quoted (t : QuotedText)
deriving DecidableEq, Repr

/-- The regions of a text by the rules of a dialect: its quote of names, which is escaped by
doubling it, and the quote of string literals, where a backslash may escape too. -/
def regions (d : Dialect) : List Char → Option (List Region)
  | [] => some []
  | c :: cs =>
    if c = d.identifierQuote then
      match _h : unquote c false cs with
      | none => none
      | some (s, r) => (regions d r).map (.quoted (.name (String.ofList s)) :: ·)
    else if c = '\'' then
      match _h : unquote c d.escapesBackslash cs with
      | none => none
      | some (s, r) => (regions d r).map (.quoted (.string (String.ofList s)) :: ·)
    else (regions d cs).map (.plain c :: ·)
termination_by cs => cs.length
decreasing_by
  · have hlt := length_lt_of_unquote _h
    simp only [List.length_cons]
    omega
  · have hlt := length_lt_of_unquote _h
    simp only [List.length_cons]
    omega
  · simp

/-- The characters stand outside quotes. -/
def plainly (cs : List Char) : List Region :=
  cs.map .plain

/-- The characters stand next to each other outside quotes. -/
def Occurs (cs : List Char) (rs : List Region) : Prop :=
  plainly cs <:+: rs

@[simp] theorem plainly_nil : plainly [] = [] := rfl

@[simp] theorem plainly_cons (c : Char) (cs : List Char) :
    plainly (c :: cs) = .plain c :: plainly cs := rfl

@[simp] theorem plainly_append (cs cs' : List Char) :
    plainly (cs ++ cs') = plainly cs ++ plainly cs' :=
  List.map_append

@[simp] theorem quoted_notMem_plainly (t : QuotedText) (cs : List Char) :
    .quoted t ∉ plainly cs := by
  simp [plainly]

@[simp] theorem plain_mem_plainly {c : Char} {cs : List Char} : .plain c ∈ plainly cs ↔ c ∈ cs := by
  simp [plainly]

/-! ## One region at a time -/

variable {d : Dialect}

@[simp] theorem regions_nil : regions d [] = some [] := by
  rw [regions]

theorem regions_plain {c : Char} {cs : List Char} (hname : c ≠ d.identifierQuote)
    (hstring : c ≠ '\'') : regions d (c :: cs) = (regions d cs).map (.plain c :: ·) := by
  rw [regions, if_neg hname, if_neg hstring]

theorem regions_plainly {cs : List Char} (h : ∀ c ∈ cs, c ≠ d.identifierQuote ∧ c ≠ '\'')
    (r : List Char) : regions d (cs ++ r) = (regions d r).map (plainly cs ++ ·) := by
  induction cs with
  | nil => simp
  | cons c cs ih =>
    obtain ⟨hname, hstring⟩ := h c List.mem_cons_self
    rw [List.cons_append, regions_plain hname hstring,
      ih fun c hc ↦ h c (List.mem_cons_of_mem _ hc), Option.map_map]
    rfl

/-- A quoted name is one region, unless its own quote follows. -/
theorem regions_name (hd : d.ownQuoteIdentifier = none) (s : String) {r : List Char}
    (hr : r.head? ≠ some d.identifierQuote) :
    regions d ((d.quoteIdentifier s).toList ++ r)
      = (regions d r).map (.quoted (.name s) :: ·) := by
  have hread := unquote_doubled hr s.toList
  have hsplit : (d.quoteIdentifier s).toList ++ r
      = d.identifierQuote
        :: (Text.doubled d.identifierQuote s.toList ++ d.identifierQuote :: r) := by
    simp [Dialect.quoteIdentifier, hd, Text.quoted]
  rw [hsplit, regions, if_pos rfl]
  split
  · next hnone => simp [hread] at hnone
  · next t r' hsome =>
    obtain ⟨rfl, rfl⟩ := Prod.mk.inj (Option.some.inj (hread.symm.trans hsome))
    rw [String.ofList_toList]

/-- A string literal is one region, unless its own quote follows. -/
theorem regions_string (hd : d.identifierQuote ≠ '\'') (s : String) {r : List Char}
    (hr : r.head? ≠ some '\'') :
    regions d ((stringText d.escapesBackslash s).toList ++ r)
      = (regions d r).map (.quoted (.string s) :: ·) := by
  obtain ⟨hsplit, hread⟩ := unquote_stringText d.escapesBackslash s hr
  rw [hsplit, regions, if_neg hd.symm, if_pos rfl]
  split
  · next hnone => simp [hread] at hnone
  · next t r' hsome =>
    obtain ⟨rfl, rfl⟩ := Prod.mk.inj (Option.some.inj (hread.symm.trans hsome))
    rw [String.ofList_toList]

end SqlBuilder.Reading
