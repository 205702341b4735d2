import SqlBuilder.Proofs.Reading.Region
import SqlBuilder.Proofs.Spelling.Regular

/-!
# Sound fragments

A fragment is sound if its pieces stay what they are when they are spelled out next to each other:
its texts hold only the characters of texts, its numbers are finite, and behind every other piece
stands a text that begins with a blank, a comma, a closing parenthesis or a point. Then the reader
finds exactly the quoted texts that the fragment has as pieces. Which quoted texts those may be is a
parameter of soundness, so a single pass over the builders answers for them too.

The last condition looks across pieces. What can stand behind anything, in that it is empty or
begins with such a text, is called a tail; fragments are put together from the back, out of sound
parts in front of tails.
-/

namespace SqlBuilder

open Reading

/-- What a literal puts between quotes. -/
def Literal.texts : Literal → List QuotedText
  | .string s => [.string s]
  | _ => []

/-- The text begins with a break. -/
def startsWithBreak (s : String) : Bool :=
  s.toList.head?.any isBreak

/-- A text that may stand behind anything. -/
def isTailText (s : String) : Bool :=
  isText s && startsWithBreak s

namespace Piece

/-- The piece can be read by itself, and what it puts between quotes belongs to `T`. -/
def Sound (T : Set QuotedText) : Piece → Prop
  | .text s => isText s
  | .name s => .name s ∈ T
  | .literal l => l.ensureFinite = .ok () ∧ ∀ t ∈ l.texts, t ∈ T
  | .bind _ => True

/-- The second piece may stand directly behind the first. -/
def Joins : Piece → Piece → Prop
  | .text _, _ => True
  | _, .text s => startsWithBreak s
  | _, _ => False

/-- The regions of a piece, where a placeholder has the given position. -/
def regions (d : Dialect) (position : Nat) : Piece → List Region
  | .text s => plainly s.toList
  | .name s => [.quoted (.name s)]
  | .literal (.string s) => [.quoted (.string s)]
  | .literal l => plainly (d.literalText l).toList
  | .bind _ => plainly (d.placeholder position).toList

theorem regions_literal {d : Dialect} {position : Nat} {l : Literal} (h : ∀ s, l ≠ .string s) :
    regions d position (.literal l) = plainly (d.literalText l).toList := by
  cases l with
  | string s => exact absurd rfl (h s)
  | _ => rfl

end Piece

namespace Fragment

variable {T : Set QuotedText} {f g : Fragment}

/-- The fragment can be read, and what it puts between quotes belongs to `T`. -/
structure Sound (T : Set QuotedText) (f : Fragment) : Prop where
  /-- Every piece can be read by itself. -/
  pieces : ∀ p ∈ f, p.Sound T
  /-- No piece runs into the next one. -/
  joins : f.IsChain Piece.Joins

/-- The fragment is sound and may stand behind anything. -/
structure Tail (T : Set QuotedText) (f : Fragment) : Prop extends Sound T f where
  /-- It begins with a break unless it is empty. -/
  head : ∀ p ∈ f.head?, ∃ s, p = .text s ∧ startsWithBreak s

/-! ## Sound parts -/

theorem Sound.mono {T' : Set QuotedText} (h : Sound T f) (hT : ∀ t ∈ T, t ∈ T') : Sound T' f := by
  refine ⟨fun p hp ↦ ?_, h.joins⟩
  have hpiece := h.pieces p hp
  cases p with
  | text s => exact hpiece
  | name s => exact hT _ hpiece
  | literal l => exact ⟨hpiece.1, fun t ht ↦ hT t (hpiece.2 t ht)⟩
  | bind v => trivial

@[simp] theorem Sound.nil : Sound T [] :=
  ⟨by simp, List.IsChain.nil⟩

@[simp] theorem Tail.nil : Tail T [] :=
  ⟨Sound.nil, by simp⟩

theorem Sound.single {p : Piece} (h : p.Sound T) : Sound T [p] :=
  ⟨by simpa using h, List.IsChain.singleton p⟩

theorem Sound.text {s : String} (hs : isText s) (h : Sound T f) : Sound T (.text s :: f) := by
  refine ⟨List.forall_mem_cons.mpr ⟨hs, h.pieces⟩, ?_⟩
  cases f with
  | nil => exact List.IsChain.singleton _
  | cons p f => exact List.IsChain.cons_cons trivial h.joins

theorem Tail.text {s : String} (hs : isTailText s) (h : Sound T f) :
    Tail T (.text s :: f) := by
  rw [isTailText, Bool.and_eq_true] at hs
  exact ⟨h.text hs.1, by simpa using hs.2⟩

theorem Sound.append (hf : Sound T f) (hg : Tail T g) : Sound T (f ++ g) := by
  refine ⟨fun p hp ↦ (List.mem_append.mp hp).elim (hf.pieces p) (hg.pieces p), ?_⟩
  refine List.isChain_append.mpr ⟨hf.joins, hg.joins, ?_⟩
  intro p _ p' hp'
  obtain ⟨s, rfl, hbreak⟩ := hg.head p' hp'
  cases p <;> simp [Piece.Joins, hbreak]

theorem Tail.append (hf : Tail T f) (hg : Tail T g) : Tail T (f ++ g) := by
  refine ⟨hf.toSound.append hg, ?_⟩
  cases f with
  | nil => exact hg.head
  | cons p f => exact hf.head

theorem Sound.optional {b : Bool} {s : String} (hs : isText s) (h : Sound T f) :
    Sound T (Fragment.optional b s ++ f) := by
  cases b with
  | false => exact h
  | true => exact h.text hs

theorem Tail.optional {b : Bool} {s : String} (hs : isTailText s) :
    Tail T (Fragment.optional b s) := by
  cases b with
  | false => exact Tail.nil
  | true => exact Tail.text hs Sound.nil

theorem Sound.joined {separator : String} (hs : isTailText separator)
    {fs : List Fragment} (h : ∀ f ∈ fs, Sound T f) : Sound T (joined separator fs) := by
  fun_induction Fragment.joined separator fs with
  | case1 => exact Sound.nil
  | case2 f => exact h f List.mem_cons_self
  | case3 f fs _ ih =>
    have hrest := ih fun g hg ↦ h g (List.mem_cons_of_mem _ hg)
    exact (h f List.mem_cons_self).append (Tail.text hs hrest)

theorem Sound.commaList {fs : List Fragment} (h : ∀ f ∈ fs, Sound T f) : Sound T (commaList fs) :=
  Sound.joined (by decide) h

theorem Tail.clause {keywords : String} (hs : isTailText keywords)
    {fs : List Fragment} (h : ∀ f ∈ fs, Sound T f) : Tail T (clause keywords fs) := by
  rw [Fragment.clause]
  split
  · exact Tail.nil
  · exact Tail.text hs (Sound.commaList h)

/-- In front of a text, parts are closed by it. -/
theorem Sound.closed {s : String} (hs : isTailText s) (h : Sound T f) :
    Sound T (f ++ [.text s]) :=
  h.append (Tail.text hs Sound.nil)

/-! ## Reading sound fragments -/

variable {d : Dialect}

/-- The regions of a fragment, when `before` placeholders stand to its left. -/
def regions (d : Dialect) (before : Nat) : Fragment → List Region
  | [] => []
  | .bind v :: f => Piece.regions d (before + 1) (.bind v) ++ regions d (before + 1) f
  | p :: f => p.regions d (before + 1) ++ regions d before f

@[simp] theorem regions_nil (before : Nat) : regions d before [] = [] := rfl

@[simp] theorem regions_text (before : Nat) (s : String) (f : Fragment) :
    regions d before (.text s :: f) = plainly s.toList ++ regions d before f := rfl

@[simp] theorem regions_name (before : Nat) (s : String) (f : Fragment) :
    regions d before (.name s :: f) = .quoted (.name s) :: regions d before f := rfl

@[simp] theorem regions_literal (before : Nat) (l : Literal) (f : Fragment) :
    regions d before (.literal l :: f)
      = Piece.regions d (before + 1) (.literal l) ++ regions d before f := rfl

@[simp] theorem regions_bind (before : Nat) (v : Value) (f : Fragment) :
    regions d before (.bind v :: f)
      = plainly (d.placeholder (before + 1)).toList ++ regions d (before + 1) f := rfl

/-- As with the characters, only the placeholders depend on what stands to the left. -/
theorem regions_append (before : Nat) (f g : Fragment) :
    regions d before (f ++ g) = regions d before f ++ regions d (before + (binds f).length) g := by
  induction f generalizing before with
  | nil => simp
  | cons p f ih =>
    cases p with
    | text s => simp [binds, ih]
    | name s => simp [binds, ih]
    | literal l => simp [binds, ih]
    | bind v => simp [binds, ih, Nat.add_assoc, Nat.add_comm 1]

/-- Behind a piece other than a text stands nothing or a text that begins with a break. -/
theorem Sound.next {p : Piece} (hp : ∀ s, p ≠ .text s) (hf : Sound T (p :: f)) :
    f = [] ∨ ∃ s g c cs, f = .text s :: g ∧ s.toList = c :: cs ∧ isBreak c := by
  cases f with
  | nil => exact Or.inl rfl
  | cons p' g =>
    have hjoins := List.IsChain.rel hf.joins
    cases p' with
    | text s =>
      have hbreak : startsWithBreak s := by cases p <;> simp_all [Piece.Joins]
      rw [startsWithBreak] at hbreak
      cases hs : s.toList with
      | nil => simp [hs] at hbreak
      | cons c cs => exact Or.inr ⟨s, g, c, cs, rfl, hs, by simpa [hs] using hbreak⟩
    | _ => cases p <;> simp_all [Piece.Joins]

/-- In front of a tail, a piece other than a text is followed by a break or by nothing. -/
theorem head?_chars {p : Piece} (hp : ∀ s, p ≠ .text s) (hf : Sound T (p :: f)) (before : Nat) :
    ∀ c ∈ (chars d before f).head?, isBreak c := by
  obtain rfl | ⟨s, g, c, cs, rfl, hs, hbreak⟩ := hf.next hp
  · simp [chars]
  · simpa [chars, hs] using hbreak

theorem Sound.tail {p : Piece} (h : Sound T (p :: f)) : Sound T f :=
  ⟨fun q hq ↦ h.pieces q (List.mem_cons_of_mem _ hq), h.joins.tail⟩

/-- Reading a sound fragment finds its regions. -/
theorem regions_chars (hd : d.Regular) (hf : Sound T f) (before : Nat) :
    Reading.regions d (chars d before f) = some (regions d before f) := by
  induction f generalizing before with
  | nil => simp [chars]
  | cons p f ih =>
    have houter {cs : List Char} (hcs : ∀ c ∈ cs, isOuterChar c) :
        ∀ c ∈ cs, c ≠ d.identifierQuote ∧ c ≠ '\'' := fun c hc ↦
      ⟨ne_of_class (hcs c hc) hd.isOuterChar_quote, ne_of_class (hcs c hc) (by decide)⟩
    have hnext {q : Char} (hq : isBreak q = false) (hp : ∀ s, p ≠ .text s) :
        (chars d before f).head? ≠ some q := fun hhead ↦ by
      simp [head?_chars hp hf before q hhead] at hq
    have hsound := hf.pieces p List.mem_cons_self
    cases p with
    | text s =>
      have hcs : ∀ c ∈ s.toList, isOuterChar c := fun c hc ↦
        isOuterChar_of_isTextChar (List.all_eq_true.mp hsound c hc)
      rw [chars, regions_plainly (houter hcs), ih hf.tail]
      rfl
    | name s =>
      rw [chars, Reading.regions_name hd.quoteIdentifier_usual s
        (hnext hd.isBreak_quote (by simp)), ih hf.tail]
      rfl
    | bind v =>
      have hplaceholder := Dialect.isOuterChar_of_mem_placeholder hd.placeholder_usual (before + 1)
      rw [chars, regions_plainly (houter hplaceholder), ih hf.tail]
      rfl
    | literal l =>
      by_cases hl : ∃ s, l = .string s
      · obtain ⟨s, rfl⟩ := hl
        rw [chars, hd.literalText_eq, Dialect.usualText, hd.stringLiteral_eq,
          regions_string hd.quote_ne s (hnext rfl (by simp)), ih hf.tail]
        rfl
      · have hword := hd.literalWord hsound.1 (not_exists.mp hl)
        rw [chars, regions_plainly (houter hword.isOuterChar), ih hf.tail]
        rw [Option.map_some, regions_literal, Piece.regions_literal (not_exists.mp hl)]

end Fragment

end SqlBuilder
