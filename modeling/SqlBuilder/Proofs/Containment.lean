import SqlBuilder.Proofs.Script

/-!
# No text leaves its place

Whatever names and strings a user gives, a statement that is written reads as one statement: every
quoted name is one of the names given, every string literal one of the strings given, and outside
quotes nothing begins a comment or ends the statement.

Outside quotes only few characters occur at all, and of the starts of comments all but `--` are
ruled out by that. A minus is written only in a numeral, where another one never follows it
directly, and a numeral is never written directly behind another one.
-/

namespace SqlBuilder

open Reading

namespace Fragment

variable {T : Set QuotedText} {d : Dialect} {f : Fragment}

/-- Every region belongs to a piece. -/
theorem exists_mem_of_mem_regions {before : Nat} {r : Region} (h : r ∈ f.regions d before) :
    ∃ p ∈ f, ∃ position, r ∈ p.regions d position := by
  induction f generalizing before with
  | nil => simp at h
  | cons p f ih =>
    have hsplit : r ∈ p.regions d (before + 1) ∨ ∃ n, r ∈ regions d n f := by
      cases p <;> exact (List.mem_append.mp h).imp_right fun hr ↦ ⟨_, hr⟩
    rcases hsplit with hr | ⟨n, hr⟩
    · exact ⟨p, List.mem_cons_self, _, hr⟩
    · obtain ⟨p', hp', hr⟩ := ih hr
      exact ⟨p', List.mem_cons_of_mem _ hp', hr⟩

/-- A sound fragment puts between quotes only what it may. -/
theorem Sound.quoted_mem (hf : f.Sound T) {before : Nat} {t : QuotedText}
    (h : .quoted t ∈ f.regions d before) : t ∈ T := by
  obtain ⟨p, hp, position, ht⟩ := exists_mem_of_mem_regions h
  have hsound := hf.pieces p hp
  cases p with
  | text s => simp [Piece.regions] at ht
  | bind v => simp [Piece.regions] at ht
  | name s =>
    obtain rfl : t = .name s := by simpa [Piece.regions] using ht
    exact hsound
  | literal l =>
    cases l with
    | string s =>
      obtain rfl : t = .string s := by simpa [Piece.regions] using ht
      exact hsound.2 _ List.mem_cons_self
    | _ => simp [Piece.regions] at ht

/-- Outside quotes a sound fragment writes only the characters that belong there. -/
theorem Sound.isOuterChar_of_plain_mem (hd : d.Regular) (hf : f.Sound T) {before : Nat} {c : Char}
    (h : .plain c ∈ f.regions d before) : isOuterChar c := by
  obtain ⟨p, hp, position, hc⟩ := exists_mem_of_mem_regions h
  have hsound := hf.pieces p hp
  cases p with
  | text s =>
    exact isOuterChar_of_isTextChar (List.all_eq_true.mp hsound c (plain_mem_plainly.mp hc))
  | bind v =>
    exact Dialect.isOuterChar_of_mem_placeholder hd.placeholder_usual position c
      (plain_mem_plainly.mp hc)
  | name s => simp [Piece.regions] at hc
  | literal l =>
    by_cases hl : ∃ s, l = .string s
    · obtain ⟨s, rfl⟩ := hl
      simp [Piece.regions] at hc
    · rw [Piece.regions_literal (not_exists.mp hl)] at hc
      exact (hd.literalWord hsound.1 (not_exists.mp hl)).isOuterChar c (plain_mem_plainly.mp hc)

/-! ## Minus signs -/

/-- Not both regions are a minus. -/
def NotDashes (r r' : Region) : Prop :=
  ¬(r = .plain '-' ∧ r' = .plain '-')

theorem isChain_plainly {cs : List Char} (h : Undashed cs) : (plainly cs).IsChain NotDashes := by
  rw [plainly, List.isChain_map]
  exact h.imp fun a b hab ↦ by simpa [NotDashes] using hab

theorem isChain_piece (hd : d.Regular) {p : Piece} (hp : p.Sound T) (position : Nat) :
    (p.regions d position).IsChain NotDashes := by
  cases p with
  | text s =>
    refine isChain_plainly (undashed_of_notMem ?_)
    intro hmem
    exact absurd (List.all_eq_true.mp hp _ hmem) (by decide)
  | name s => exact List.IsChain.singleton _
  | bind v =>
    refine isChain_plainly (undashed_of_notMem ?_)
    rw [Dialect.toList_placeholder hd.placeholder_usual]
    cases d.placeholderStyle with
    | question => simp
    | dollar =>
      rw [List.mem_cons, not_or]
      exact ⟨by decide, dash_notMem_of_isDigit fun _ ↦ isDigit_of_mem_toDigits⟩
  | literal l =>
    by_cases hl : ∃ s, l = .string s
    · obtain ⟨s, rfl⟩ := hl
      exact List.IsChain.singleton _
    · rw [Piece.regions_literal (not_exists.mp hl)]
      exact isChain_plainly (hd.literalWord hp.1 (not_exists.mp hl)).undashed

/-- Behind a piece other than a text begins no minus. -/
theorem Sound.head?_regions {p : Piece} (hp : ∀ s, p ≠ .text s) (hf : Sound T (p :: f))
    (before : Nat) : ∀ r ∈ (f.regions d before).head?, ∃ c, r = .plain c ∧ isBreak c := by
  obtain rfl | ⟨s, g, c, cs, rfl, hs, hbreak⟩ := hf.next hp
  · simp
  · simpa [hs] using hbreak

theorem Sound.isChain_regions (hd : d.Regular) (hf : f.Sound T) (before : Nat) :
    (f.regions d before).IsChain NotDashes := by
  induction f generalizing before with
  | nil => exact List.IsChain.nil
  | cons p f ih =>
    have hpiece := isChain_piece hd (hf.pieces p List.mem_cons_self) (before + 1)
    -- What meets at the border is the end of a text or the break behind another piece.
    have hborder : ∀ n, ∀ r ∈ (p.regions d (before + 1)).getLast?, ∀ r' ∈ (regions d n f).head?,
        NotDashes r r' := by
      rintro n r hr r' hr' ⟨rfl, rfl⟩
      by_cases hp : ∃ s, p = .text s
      · obtain ⟨s, rfl⟩ := hp
        have hchar := plain_mem_plainly.mp (List.mem_of_mem_getLast? hr)
        exact absurd (List.all_eq_true.mp (hf.pieces _ List.mem_cons_self) _ hchar) (by decide)
      · obtain ⟨c, hc, hbreak⟩ := hf.head?_regions (not_exists.mp hp) n _ hr'
        obtain rfl := Region.plain.inj hc
        exact absurd hbreak (by decide)
    cases p <;> exact List.isChain_append.mpr ⟨hpiece, ih hf.tail _, hborder _⟩

/-- Nothing outside the quotes of a sound fragment begins a comment or ends the statement. -/
theorem Sound.not_occurs (hd : d.Regular) (hf : f.Sound T) (before : Nat) :
    ∀ mark ∈ [";", "--", "/*", "#"], ¬Occurs mark.toList (f.regions d before) := by
  have houter {c : Char} (hc : isOuterChar c = false) {cs : List Char} (hmem : c ∈ cs) :
      ¬Occurs cs (f.regions d before) := fun hoccurs ↦ by
    have hplain := hoccurs.subset (plain_mem_plainly.mpr hmem)
    exact absurd (hf.isOuterChar_of_plain_mem hd hplain) (by simp [hc])
  -- All marks but the dashes hold a character that does not occur at all.
  intro mark hmark
  simp only [List.mem_cons, List.not_mem_nil, or_false] at hmark
  obtain rfl | rfl | rfl | rfl := hmark
  · exact houter (c := ';') (by decide) (by decide)
  · rintro ⟨left, right, hsplit⟩
    have hchain := hf.isChain_regions hd before
    rw [← hsplit] at hchain
    exact List.IsChain.rel hchain.left_of_append.right_of_append ⟨rfl, rfl⟩
  · exact houter (c := '/') (by decide) (by decide)
  · exact houter (c := '#') (by decide) (by decide)

end Fragment

/-! ## Scripts -/

/-- **Containment.** In a built-in dialect a query reads to its end outside quotes, every quoted
text is one that the user wrote for such quotes, and outside quotes there is neither a second
statement nor a comment. -/
theorem Script.quoted_contained {d : Dialect} (hd : d ∈ Dialect.builtIn) {s : Script} {q : Query}
    (h : s.Gives d q) :
    ∃ rs, regions d q.sql.toList = some rs ∧ (∀ t, .quoted t ∈ rs → t ∈ s.texts) ∧
      ∀ mark ∈ [";", "--", "/*", "#"], ¬Occurs mark.toList rs := by
  have hregular := Dialect.regular_of_mem_builtIn hd
  obtain ⟨f, rfl, hsound, -⟩ := s.exists_sound hregular h
  refine ⟨f.regions d 0, ?_, fun t ht ↦ hsound.quoted_mem ht, hsound.not_occurs hregular 0⟩
  rw [Fragment.toQuery, String.toList_ofList]
  exact Fragment.regions_chars hregular hsound 0

/-- A column that would close its quotes and a string that would escape them. -/
theorem Script.quoted_contained_hostile :
    Dialect.mysql ∈ Dialect.builtIn ∧
      (Script.select [.items [.column { name := "a\x60; --" }, .literal (.string "\\' #")]]).Gives
        .mysql ⟨"SELECT \x60a\x60\x60; --\x60, '\\\\'' #'", []⟩ ∧
      ∃ rs, regions .mysql "SELECT \x60a\x60\x60; --\x60, '\\\\'' #'".toList = some rs ∧
        (∀ t, .quoted t ∈ rs → t = .name "a\x60; --" ∨ t = .string "\\' #") ∧
        ∀ mark ∈ [";", "--", "/*", "#"], ¬Occurs mark.toList rs := by
  have hd : Dialect.mysql ∈ Dialect.builtIn := by simp [Dialect.builtIn]
  have hgives :
      (Script.select [.items [.column { name := "a\x60; --" }, .literal (.string "\\' #")]]).Gives
      .mysql ⟨"SELECT \x60a\x60\x60; --\x60, '\\\\'' #'", []⟩ := .select (by decide +kernel)
  obtain ⟨rs, hrs, hquoted, hmarks⟩ := Script.quoted_contained hd hgives
  refine ⟨hd, hgives, rs, hrs, fun t ht ↦ ?_, hmarks⟩
  simpa [Script.texts, Select.Clause.texts, Expr.texts, ColumnRef.texts,
    Literal.texts] using hquoted t ht

end SqlBuilder
