import SqlBuilder.Dialect.BuiltIn
import SqlBuilder.Proofs.Reading.Quoted

/-!
# Quotes that close themselves

A reader who comes to an opening quote does not know how long the text behind it is, and has to find
its end by the quotes alone. What a dialect writes lets it: the end that the reader finds is the end
of what was written, whatever follows, unless the same quote follows directly, which nobody could
tell from a doubled one. So no text closes its quotes early, and different texts are written
differently, also in front of different rests.

The plain rule knows only the doubled quote, and by it a reader finds nothing but what was written
that way. Where a backslash escapes there are other spellings of the same text, which are never
written.
-/

namespace SqlBuilder

namespace Reading

/-- Reads quoted text from its opening quote on: the text, and what follows the closing quote. -/
def readQuoted (q : Char) (escapes : Bool) : List Char → Option (List Char × List Char)
  | [] => none
  | c :: cs => if c = q then unquote q escapes cs else none

variable {q : Char} {escapes : Bool} {cs s r : List Char}

theorem readQuoted_cons (q : Char) (escapes : Bool) (cs : List Char) :
    readQuoted q escapes (q :: cs) = unquote q escapes cs :=
  if_pos rfl

theorem readQuoted_eq_some_iff : readQuoted q escapes cs = some (s, r) ↔
    ∃ cs', cs = q :: cs' ∧ unquote q escapes cs' = some (s, r) := by
  constructor
  · intro h
    match cs with
    | [] => exact nomatch h
    | c :: cs =>
      rw [readQuoted] at h
      split at h
      · next hc => exact ⟨cs, by rw [hc], h⟩
      · exact nomatch h
  · rintro ⟨cs', rfl, h⟩
    rw [readQuoted_cons, h]

/-! ## Where the reader stops -/

theorem map_cons_eq_some_iff {c : Char} {x : Option (List Char × List Char)} :
    (x.map fun read ↦ (c :: read.1, read.2)) = some (s, r)
      ↔ ∃ s', x = some (s', r) ∧ s = c :: s' := by
  rw [Option.map_eq_some_iff]
  constructor
  · rintro ⟨⟨s', r'⟩, hx, heq⟩
    obtain ⟨rfl, rfl⟩ := Prod.mk.inj heq
    exact ⟨s', hx, rfl⟩
  · rintro ⟨s', hx, rfl⟩
    exact ⟨_, hx, rfl⟩

/-- More text behind what was read stays behind it, if it does not begin with the quote. -/
theorem unquote_append (h : unquote q escapes cs = some (s, [])) (hr : r.head? ≠ some q) :
    unquote q escapes (cs ++ r) = some (s, r) := by
  fun_induction unquote q escapes cs generalizing s with
  | case1 | case2 => cases h
  | case3 c hc e cs ih =>
    obtain ⟨s, hs, rfl⟩ := map_cons_eq_some_iff.mp h
    obtain ⟨rfl, rfl⟩ : escapes = true ∧ c = '\\' := by simpa using hc
    rw [List.cons_append, List.cons_append, unquote_escape, ih hs]
    rfl
  | case4 hc =>
    obtain ⟨rfl, -⟩ := Prod.mk.inj (Option.some.inj h)
    rw [List.singleton_append]
    exact unquote_end (Bool.eq_false_iff.mpr hc) hr
  | case5 cs hc ih =>
    obtain ⟨s, hs, rfl⟩ := map_cons_eq_some_iff.mp h
    rw [List.cons_append, List.cons_append, unquote_twice (Bool.eq_false_iff.mpr hc), ih hs]
    rfl
  | case6 => cases h
  | case7 c cs hc hq ih =>
    obtain ⟨s, hs, rfl⟩ := map_cons_eq_some_iff.mp h
    rw [List.cons_append, unquote_plain hq (Bool.eq_false_iff.mpr hc), ih hs]
    rfl

/-- By the plain rule the reader stops only behind a quote with no other one behind it, and what it
has read until then is a doubled text. -/
theorem eq_doubled_of_unquote (h : unquote q false cs = some (s, r)) :
    cs = Text.doubled q s ++ q :: r ∧ r.head? ≠ some q := by
  fun_induction unquote q false cs generalizing s with
  | case1 => cases h
  | case2 c hc | case3 c hc => cases hc
  | case4 =>
    obtain ⟨rfl, rfl⟩ := Prod.mk.inj (Option.some.inj h)
    exact ⟨rfl, by simp⟩
  | case5 cs hc ih =>
    obtain ⟨s, hs, rfl⟩ := map_cons_eq_some_iff.mp h
    obtain ⟨rfl, hr⟩ := ih hs
    rw [Text.doubled, if_pos rfl]
    exact ⟨rfl, hr⟩
  | case6 c cs hne =>
    obtain ⟨rfl, rfl⟩ := Prod.mk.inj (Option.some.inj h)
    exact ⟨rfl, by simpa using hne⟩
  | case7 c cs hc hq ih =>
    obtain ⟨s, hs, rfl⟩ := map_cons_eq_some_iff.mp h
    obtain ⟨rfl, hr⟩ := ih hs
    rw [Text.doubled, if_neg hq]
    exact ⟨rfl, hr⟩

end Reading

open Reading

/-- What is written of every text is a quoted text that shows by itself where it ends. -/
structure SelfDelimiting (q : Char) (escapes : Bool) (write : String → String) : Prop where
  /-- In front of everything but the quote, the reader gives the text and leaves what follows. -/
  reads : ∀ (s : String) (r : List Char), r.head? ≠ some q →
    readQuoted q escapes ((write s).toList ++ r) = some (s.toList, r)
  /-- Where what was read so far could be all, but is not, one more quote follows. -/
  closes_last : ∀ (s : String) (front back t : List Char), (write s).toList = front ++ back →
    back ≠ [] → readQuoted q escapes front = some (t, []) → back.head? = some q
  /-- What is written and what follows cannot be divided differently. -/
  append_inj : ∀ (s s' : String) (r r' : List Char), r.head? ≠ some q → r'.head? ≠ some q →
    (write s).toList ++ r = (write s').toList ++ r' → s = s' ∧ r = r'
  /-- Different texts are written differently. -/
  injective : Function.Injective write
  /-- If backslashes do not escape, then nothing else can be read. -/
  eq_write : escapes = false → ∀ cs s r, readQuoted q escapes cs = some (s, r) →
    cs = (write (String.ofList s)).toList ++ r ∧ r.head? ≠ some q

namespace SelfDelimiting

variable {q : Char} {escapes : Bool} {write : String → String}

/-- A quoted text that reads back shows where it ends. -/
theorem of_reads (hreads : ∀ (s : String) (r : List Char), r.head? ≠ some q →
      readQuoted q escapes ((write s).toList ++ r) = some (s.toList, r))
    (hwrite : escapes = false → ∀ s, (write s).toList = Text.quoted q s.toList) :
    SelfDelimiting q escapes write := by
  have happend (s s' : String) (r r' : List Char) (hr : r.head? ≠ some q)
      (hr' : r'.head? ≠ some q) (h : (write s).toList ++ r = (write s').toList ++ r') :
      s = s' ∧ r = r' := by
    have hread := hreads s r hr
    rw [h, hreads s' r' hr', Option.some.injEq, Prod.mk.injEq] at hread
    exact ⟨(String.toList_inj.mp hread.1).symm, hread.2.symm⟩
  refine ⟨hreads, ?_, happend, ?_, ?_⟩
  · intro s front back t hsplit hback hfront
    refine Decidable.byContradiction fun hhead ↦ ?_
    obtain ⟨cs, rfl, hcs⟩ := readQuoted_eq_some_iff.mp hfront
    -- The reader would stop at the same place with the rest behind it, and leave that.
    have hall := hreads s [] (by simp)
    rw [List.append_nil, hsplit, List.cons_append, readQuoted_cons, unquote_append hcs hhead,
      Option.some.injEq, Prod.mk.injEq] at hall
    exact hback hall.2
  · intro s s' h
    exact (happend s s' [] [] (by simp) (by simp) (by rw [h])).1
  · rintro rfl cs s r h
    obtain ⟨cs, rfl, hcs⟩ := readQuoted_eq_some_iff.mp h
    obtain ⟨rfl, hr⟩ := eq_doubled_of_unquote hcs
    refine ⟨?_, hr⟩
    rw [hwrite rfl, String.toList_ofList, Text.quoted, List.cons_append, List.append_assoc,
      List.singleton_append]

end SelfDelimiting

namespace Dialect

variable {d : Dialect}

/-- A dialect without a rule of its own quotes names by the plain rule, whatever its quote is. -/
theorem selfDelimiting_quoteIdentifier (hd : d.ownQuoteIdentifier = none) :
    SelfDelimiting d.identifierQuote false d.quoteIdentifier := by
  have hwrite (s : String) :
      (d.quoteIdentifier s).toList = Text.quoted d.identifierQuote s.toList := by
    rw [quoteIdentifier, hd]
    exact String.toList_ofList
  refine .of_reads (fun s r hr ↦ ?_) fun _ ↦ hwrite
  rw [hwrite, Text.quoted, List.cons_append, readQuoted_cons, List.append_assoc,
    List.singleton_append]
  exact unquote_doubled hr s.toList

theorem selfDelimiting_stringText (escapes : Bool) :
    SelfDelimiting '\'' escapes (stringText escapes) := by
  refine .of_reads (fun s r hr ↦ ?_) fun hescapes s ↦ ?_
  · obtain ⟨hopening, hread⟩ := unquote_stringText escapes s hr
    rw [hopening, readQuoted_cons, hread]
  · rw [stringText, hescapes]
    exact String.toList_ofList

/-- A dialect without a rule of its own writes texts by the plain rule. -/
theorem stringLiteral_eq_stringText (hd : d.ownStringLiteral = none) :
    d.stringLiteral = stringText false := by
  funext s
  rw [stringLiteral, hd]
  rfl

/-- **Quoting.** Names and string literals show by themselves where they end, and give back what
they were written from. For names that is by the plain rule in every dialect that quotes as usual,
whatever its quote is. For string literals it is by the plain rule too, unless the dialect writes
them by a rule of its own; among the built-in dialects one does, and there a backslash escapes. -/
theorem quotes_selfDelimiting :
    (∀ d : Dialect, d.ownQuoteIdentifier = none →
        SelfDelimiting d.identifierQuote false d.quoteIdentifier) ∧
      (∀ d : Dialect, d.ownStringLiteral = none → SelfDelimiting '\'' false d.stringLiteral) ∧
      SelfDelimiting '\'' true mysql.stringLiteral ∧
      (postgresql.ownQuoteIdentifier = none ∧ postgresql.ownStringLiteral = none) ∧
      (sqlite.ownQuoteIdentifier = none ∧ sqlite.ownStringLiteral = none) ∧
      mysql.ownQuoteIdentifier = none := by
  refine ⟨fun d hd ↦ selfDelimiting_quoteIdentifier hd, fun d hd ↦ ?_,
    selfDelimiting_stringText true, ⟨rfl, rfl⟩, ⟨rfl, rfl⟩, rfl⟩
  rw [stringLiteral_eq_stringText hd]
  exact selfDelimiting_stringText false

/-- A dialect of a user with an unusual quote. -/
def barred : Dialect :=
  { sqlite with name := "barred", identifierQuote := '|' }

/-- A name and a text that hold the quotes, in front of a comma. -/
theorem quotes_selfDelimiting_barred :
    barred.ownQuoteIdentifier = none ∧ barred.ownStringLiteral = none ∧
      readQuoted '|' false ((barred.quoteIdentifier "a||b|").toList ++ [','])
        = some ("a||b|".toList, [',']) ∧
      readQuoted '\'' false ((barred.stringLiteral "it's\\").toList ++ [','])
        = some ("it's\\".toList, [',']) ∧
      readQuoted '\'' true ((mysql.stringLiteral "it's\\").toList ++ [','])
        = some ("it's\\".toList, [',']) := by
  obtain ⟨hnames, htexts, hmysql, -⟩ := quotes_selfDelimiting
  exact ⟨rfl, rfl, (hnames barred rfl).reads _ _ (by decide),
    (htexts barred rfl).reads _ _ (by simp), hmysql.reads _ _ (by simp)⟩

end Dialect

end SqlBuilder
