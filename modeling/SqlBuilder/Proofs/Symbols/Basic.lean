import SqlBuilder.Proofs.Reading.Token
import SqlBuilder.Proofs.Spelling.Sound

/-!
# Symbols

A query is read as tokens, and in its text all that is left of a bound value is a placeholder. Put
back in the place of its placeholder, the value makes a statement easier to talk about: its symbols
no longer depend on what stands to the left of them. Reading finds the symbols again, because
nothing but a value is written with a word that begins like a placeholder.

A fragment writes symbols if its text is read as these symbols in front of everything that ends a
word.
-/

namespace SqlBuilder

open Reading

/-- A token, or a bound value in the place of its placeholder. -/
inductive Symbol where
  | token (t : Token)
  | value (v : Value)
deriving DecidableEq, Repr

namespace Symbol

/-- A word. -/
def word (s : String) : Symbol :=
  .token (.word s.toList)

/-- The values among symbols. -/
def values (ss : List Symbol) : List Value :=
  ss.filterMap fun
    | .token _ => none
    | .value v => some v

/-- The tokens of symbols with `before` placeholders to their left. -/
def numbered (d : Dialect) (before : Nat) : List Symbol → List Token
  | [] => []
  | .token t :: ss => t :: numbered d before ss
  | .value _ :: ss => .word (d.placeholder (before + 1)).toList :: numbered d (before + 1) ss

/-- The symbols one after another with a separator between them. -/
def separated (s : Symbol) : List (List Symbol) → List Symbol
  | [] => []
  | [ss] => ss
  | ss :: sss => ss ++ s :: separated s sss

theorem separated_cons (s : Symbol) (ss : List Symbol) (sss : List (List Symbol)) :
    separated s (ss :: sss) = ss ++ sss.flatMap (s :: ·) := by
  induction sss generalizing ss with
  | nil => simp [separated]
  | cons ss' sss ih => rw [separated, ih, List.flatMap_cons, List.cons_append]; simp

/-- Words and a list with commas behind them; nothing at all if the list is empty. -/
def clause (words : List String) (sss : List (List Symbol)) : List Symbol :=
  if sss.isEmpty then [] else words.map word ++ separated (.token .comma) sss

/-- Words, if they are asked for. -/
def phrase (asked : Bool) (words : List String) : List Symbol :=
  if asked then words.map word else []

variable {d : Dialect} {ss ss' : List Symbol}

@[simp] theorem values_nil : values [] = [] := rfl

@[simp] theorem values_token (t : Token) (ss : List Symbol) : values (.token t :: ss) = values ss :=
  rfl

@[simp] theorem values_word (s : String) (ss : List Symbol) : values (word s :: ss) = values ss :=
  rfl

@[simp] theorem values_value (v : Value) (ss : List Symbol) :
    values (.value v :: ss) = v :: values ss := rfl

@[simp] theorem values_append (ss ss' : List Symbol) :
    values (ss ++ ss') = values ss ++ values ss' := by
  simp [values]

@[simp] theorem values_map_token (ts : List Token) : values (ts.map .token) = [] := by
  simp [values]

@[simp] theorem numbered_nil (before : Nat) : numbered d before [] = [] := rfl

@[simp] theorem numbered_token (before : Nat) (t : Token) (ss : List Symbol) :
    numbered d before (.token t :: ss) = t :: numbered d before ss := rfl

@[simp] theorem numbered_value (before : Nat) (v : Value) (ss : List Symbol) :
    numbered d before (.value v :: ss)
      = .word (d.placeholder (before + 1)).toList :: numbered d (before + 1) ss := rfl

theorem numbered_append (before : Nat) (ss ss' : List Symbol) :
    numbered d before (ss ++ ss')
      = numbered d before ss ++ numbered d (before + (values ss).length) ss' := by
  induction ss generalizing before with
  | nil => simp
  | cons s ss ih =>
    cases s with
    | token t => simp [ih]
    | value v => simp [ih, Nat.add_assoc, Nat.add_comm 1]

@[simp] theorem numbered_map_token (before : Nat) (ts : List Token) :
    numbered d before (ts.map .token) = ts := by
  induction ts with
  | nil => rfl
  | cons t ts ih => rw [List.map_cons, numbered_token, ih]

/-! ## What does not occur -/

/-- No token among the symbols has the property. -/
def Without (P : Token → Bool) (ss : List Symbol) : Prop :=
  ∀ t, .token t ∈ ss → P t = false

section Without

variable {P : Token → Bool}

@[simp] theorem Without.nil : Without P [] := by
  simp [Without]

theorem Without.token {t : Token} (ht : P t = false) : Without P [.token t] := by
  simpa [Without] using ht

theorem Without.value (v : Value) : Without P [.value v] := by
  simp [Without]

theorem Without.append (h : Without P ss) (h' : Without P ss') : Without P (ss ++ ss') :=
  fun t ht ↦ (List.mem_append.mp ht).elim (h t) (h' t)

theorem Without.cons {s : Symbol} (hs : Without P [s]) (h : Without P ss) : Without P (s :: ss) :=
  hs.append h

theorem Without.tail {s : Symbol} (h : Without P (s :: ss)) : Without P ss :=
  fun t ht ↦ h t (List.mem_cons_of_mem s ht)

theorem Without.mono {Q : Token → Bool} (h : Without Q ss) (hPQ : ∀ t, Q t = false → P t = false) :
    Without P ss :=
  fun t ht ↦ hPQ t (h t ht)

theorem Without.separated {s : Symbol} {sss : List (List Symbol)} (hs : Without P [s])
    (h : ∀ ss ∈ sss, Without P ss) : Without P (separated s sss) := by
  cases sss with
  | nil => exact Without.nil
  | cons ss sss =>
    rw [separated_cons]
    apply (h ss List.mem_cons_self).append
    intro t ht
    obtain ⟨ss', hss', ht⟩ := List.mem_flatMap.mp ht
    exact Without.cons hs (h ss' (List.mem_cons_of_mem _ hss')) t ht

theorem Without.words {ws : List String} (h : ∀ w ∈ ws, P (.word w.toList) = false) :
    Without P (ws.map word) := by
  intro t ht
  obtain ⟨w, hw, hwt⟩ := List.mem_map.mp ht
  obtain rfl := Symbol.token.inj hwt
  exact h w hw

theorem Without.clause {ws : List String} {sss : List (List Symbol)}
    (hws : ∀ w ∈ ws, P (.word w.toList) = false) (hcomma : P .comma = false)
    (h : ∀ ss ∈ sss, Without P ss) : Without P (clause ws sss) := by
  rw [Symbol.clause]
  split
  · exact Without.nil
  · exact (Without.words hws).append (Without.separated (Without.token hcomma) h)

/-- What is neither among the tokens nor a placeholder does not occur in the text. -/
theorem Without.numbered (h : Without P ss)
    (hplaceholder : ∀ n, P (.word (d.placeholder n).toList) = false) (before : Nat) :
    ∀ t ∈ numbered d before ss, P t = false := by
  induction ss generalizing before with
  | nil => simp
  | cons s ss ih =>
    have htail := ih h.tail
    cases s with
    | token t => exact List.forall_mem_cons.mpr ⟨h t List.mem_cons_self, htail before⟩
    | value v => exact List.forall_mem_cons.mpr ⟨hplaceholder _, htail (before + 1)⟩

end Without

/-! ## What symbols begin with -/

/-- The symbols are empty or begin with one of the words. -/
def Begins (ws : List String) (ss : List Symbol) : Prop :=
  ∀ s ∈ ss.head?, ∃ w ∈ ws, s = word w

section Begins

variable {ws ws' : List String}

@[simp] theorem Begins.nil : Begins ws [] := by
  simp [Begins]

theorem Begins.word {w : String} (hw : w ∈ ws) (ss : List Symbol) : Begins ws (word w :: ss) := by
  intro s hs
  exact ⟨w, hw, (Option.some.inj hs).symm⟩

theorem Begins.append (h : Begins ws ss) (h' : Begins ws ss') : Begins ws (ss ++ ss') := by
  cases ss with
  | nil => exact h'
  | cons s ss => exact h

theorem Begins.mono (h : Begins ws ss) (hws : ∀ w ∈ ws, w ∈ ws') : Begins ws' ss := by
  intro s hs
  obtain ⟨w, hw, rfl⟩ := h s hs
  exact ⟨w, hws w hw, rfl⟩

theorem Begins.clause {w : String} (hw : w ∈ ws) (words : List String) (sss : List (List Symbol)) :
    Begins ws (clause (w :: words) sss) := by
  rw [Symbol.clause]
  split
  · exact Begins.nil
  · exact Begins.word hw _

theorem Begins.numbered (h : Begins ws ss) (before : Nat) :
    ∀ t ∈ (numbered d before ss).head?, ∃ w ∈ ws, t = .word w.toList := by
  cases ss with
  | nil => simp
  | cons s ss =>
    obtain ⟨w, hw, rfl⟩ := h s rfl
    intro t ht
    exact ⟨w, hw, (Option.some.inj ht).symm⟩

end Begins

/-! ## What tells values apart -/

/-- The token is a word that begins like a placeholder. -/
def isPlaceholder : Token → Bool
  | .word (c :: _) => c == '?' || c == '$'
  | _ => false

/-- No token among the symbols can be taken for a value. -/
abbrev Unmistakable (ss : List Symbol) : Prop :=
  Without isPlaceholder ss

theorem isPlaceholder_placeholder (hd : d.ownPlaceholder = none) (position : Nat) :
    isPlaceholder (.word (d.placeholder position).toList) := by
  rw [Dialect.toList_placeholder hd]
  cases d.placeholderStyle <;> rfl

/-- The tokens and the values together give the symbols back. -/
theorem numbered_injective (hd : d.ownPlaceholder = none) {before : Nat} (hss : Unmistakable ss)
    (hss' : Unmistakable ss')
    (hnumbered : numbered d before ss = numbered d before ss') (hvalues : values ss = values ss') :
    ss = ss' := by
  induction ss generalizing before ss' with
  | nil =>
    cases ss' with
    | nil => rfl
    | cons s' ss' => cases s' <;> simp at hnumbered
  | cons s ss ih =>
    cases ss' with
    | nil => cases s <;> simp at hnumbered
    | cons s' ss' =>
      -- A token in the place of a value would have to look like a placeholder.
      have hmark := isPlaceholder_placeholder hd (before + 1)
      cases s with
      | token t =>
        cases s' with
        | token t' =>
          obtain ⟨rfl, hrest⟩ := List.cons.inj hnumbered
          rw [ih hss.tail hss'.tail hrest hvalues]
        | value v' =>
          obtain ⟨rfl, -⟩ := List.cons.inj hnumbered
          exact absurd hmark (by simp [hss _ List.mem_cons_self])
      | value v =>
        cases s' with
        | token t' =>
          obtain ⟨rfl, -⟩ := List.cons.inj hnumbered
          exact absurd hmark (by simp [hss' _ List.mem_cons_self])
        | value v' =>
          obtain ⟨rfl, hrest⟩ := List.cons.inj hvalues
          rw [ih hss.tail hss'.tail (List.cons.inj hnumbered).2 hrest]

end Symbol

namespace Fragment

open SqlBuilder.Symbol

variable {d : Dialect} {f g : Fragment} {ss ss' : List Symbol} {s : String} {ts : List Token}

/-! ## What ends a word -/

/-- The text ends a word in front of it. -/
def delimits (s : String) : Bool :=
  s.toList.head?.any fun c ↦ c == ' ' || c == ',' || c == ')'

/-- The text is read as the tokens, whatever follows it. -/
def Spells (s : String) (ts : List Token) : Prop :=
  ∀ rest, tokens (plainly s.toList ++ rest) = ts ++ tokens rest

/-- The fragment ends a word in front of it. -/
def Delimits (f : Fragment) : Prop :=
  ∀ p ∈ f.head?, ∃ s, p = .text s ∧ delimits s

theorem endsWord_text (h : delimits s) (rest : List Region) :
    EndsWord (plainly s.toList ++ rest) := by
  rw [delimits] at h
  cases hs : s.toList with
  | nil => simp [hs] at h
  | cons c cs =>
    simp only [hs, List.head?_cons, Option.any_some, Bool.or_eq_true, beq_iff_eq, or_assoc] at h
    exact h

theorem Delimits.endsWord (h : Delimits f) (before : Nat) {rest : List Region}
    (hrest : EndsWord rest) : EndsWord (regions d before f ++ rest) := by
  cases f with
  | nil => exact hrest
  | cons p f =>
    obtain ⟨s, rfl, hs⟩ := h p rfl
    rw [regions_text, List.append_assoc]
    exact endsWord_text hs _

theorem Delimits.text (h : delimits s) (f : Fragment) : Delimits (.text s :: f) := by
  simpa [Delimits] using h

@[simp] theorem Delimits.nil : Delimits [] := by
  simp [Delimits]

theorem Delimits.append (hf : Delimits f) (hg : Delimits g) : Delimits (f ++ g) := by
  cases f with
  | nil => exact hg
  | cons p f => exact hf

/-! ## What a fragment writes -/

/-- The fragment is read as the symbols. -/
structure Writes (d : Dialect) (f : Fragment) (ss : List Symbol) : Prop where
  /-- In front of what ends a word it is read as their tokens. -/
  tokens_regions : ∀ before rest, EndsWord rest →
    tokens (regions d before f ++ rest) = numbered d before ss ++ tokens rest
  /-- The values travel beside it. -/
  values_eq : values ss = f.binds
  /-- No token of it can be taken for a value. -/
  unmistakable : Unmistakable ss

@[simp] theorem Writes.nil : Writes d [] [] :=
  ⟨by simp, rfl, Without.nil⟩

/-- The fragment is read as the symbols, also directly behind a word. -/
structure Trails (d : Dialect) (f : Fragment) (ss : List Symbol) : Prop extends Writes d f ss where
  /-- It ends a word in front of it. -/
  delimited : Delimits f

@[simp] theorem Trails.nil : Trails d [] [] :=
  ⟨Writes.nil, Delimits.nil⟩

theorem Writes.trails (h : delimits s) (hf : Writes d (.text s :: f) ss) :
    Trails d (.text s :: f) ss :=
  ⟨hf, Delimits.text h f⟩

theorem Writes.append (hf : Writes d f ss) (hg : Trails d g ss') :
    Writes d (f ++ g) (ss ++ ss') := by
  refine ⟨fun before rest hrest ↦ ?_, ?_, hf.unmistakable.append hg.unmistakable⟩
  · rw [regions_append, List.append_assoc, hf.tokens_regions _ _ (hg.delimited.endsWord _ hrest),
      hg.tokens_regions _ _ hrest, numbered_append, hf.values_eq, List.append_assoc]
  · rw [values_append, binds_append, hf.values_eq, hg.values_eq]

theorem Trails.append (hf : Trails d f ss) (hg : Trails d g ss') : Trails d (f ++ g) (ss ++ ss') :=
  ⟨hf.toWrites.append hg, hf.delimited.append hg.delimited⟩

/-- A text that is read as a whole stands in front of everything. -/
theorem Writes.text (hs : Spells s ts) (hts : ∀ t ∈ ts, isPlaceholder t = false)
    (hf : Writes d f ss) : Writes d (.text s :: f) (ts.map .token ++ ss) := by
  refine ⟨fun before rest hrest ↦ ?_, ?_, Without.append (fun t ht ↦ hts t ?_) hf.unmistakable⟩
  · rw [regions_text, List.append_assoc, hs, hf.tokens_regions _ _ hrest, numbered_append,
      numbered_map_token, values_map_token, List.append_assoc]
    rfl
  · rw [values_append, values_map_token, hf.values_eq]
    rfl
  · simpa using ht

/-- Texts that are read as tokens in front of what ends a word. -/
theorem Writes.of_texts (ts : List Token) (hbinds : f.binds = [])
    (h : ∀ before rest, EndsWord rest → tokens (regions d before f ++ rest) = ts ++ tokens rest)
    (hts : ∀ t ∈ ts, isPlaceholder t = false) : Writes d f (ts.map .token) := by
  refine ⟨fun before rest hrest ↦ ?_, ?_, fun t ht ↦ hts t (by simpa using ht)⟩
  · rw [h before rest hrest, numbered_map_token]
  · rw [values_map_token, hbinds]

theorem Writes.name (name : String) : Writes d [.name name] [.token (.name name)] :=
  Writes.of_texts [.name name] rfl (fun _ _ _ ↦ rfl) (by simp [isPlaceholder])

/-- A text that is a single word. -/
theorem Writes.singleWord (hne : s ≠ "") (hparts : s.toList.all isWordPart)
    (hplain : isPlaceholder (.word s.toList) = false) : Writes d [.text s] [Symbol.word s] := by
  refine Writes.of_texts [.word s.toList] rfl (fun before rest hrest ↦ ?_) (by simpa using hplain)
  rw [regions_text, regions_nil, List.append_nil]
  exact tokens_word (by simpa using hne) (List.all_eq_true.mp hparts) hrest

theorem spells_of_getLast? {c : Char} (hlast : s.toList.getLast? = some c)
    (hc : isWordPart c = false) : Spells s (tokens (plainly s.toList)) := by
  obtain ⟨cs, hcs⟩ := List.getLast?_eq_some_iff.mp hlast
  intro rest
  rw [hcs]
  exact tokensFrom_delimited hc cs

theorem spells_comma : Spells ", " [.comma] :=
  @spells_of_getLast? ", " ' ' (by decide) rfl

theorem spells_opening : Spells "(" [.opening] :=
  @spells_of_getLast? "(" '(' (by decide) rfl

theorem spells_closing : Spells ")" [.closing] :=
  @spells_of_getLast? ")" ')' (by decide) rfl

/-- What stands in front of a closing parenthesis. -/
theorem Writes.closed (hf : Writes d f ss) :
    Writes d (f ++ [.text ")"]) (ss ++ [.token .closing]) :=
  hf.append ((Writes.nil.text spells_closing (by simp [isPlaceholder])).trails (by decide))

theorem Writes.joined {separator : String} {t : Token} (hs : Spells separator [t])
    (hdelimits : delimits separator) (ht : isPlaceholder t = false) {fs : List Fragment}
    {sss : List (List Symbol)} (h : List.Forall₂ (Writes d) fs sss) :
    Writes d (Fragment.joined separator fs) (separated (.token t) sss) := by
  induction h with
  | nil => exact Writes.nil
  | @cons f ss fs sss hf hfs ih =>
    cases hfs with
    | nil => exact hf
    | cons =>
      exact hf.append ((ih.text hs (by simpa using ht)).trails hdelimits)

/-- Two texts next to each other are read as one. -/
theorem Writes.merge {s t : String} (h : Writes d (.text (s ++ t) :: f) ss) :
    Writes d (.text s :: .text t :: f) ss := by
  refine ⟨fun before rest hrest ↦ ?_, h.values_eq, h.unmistakable⟩
  have hread := h.tokens_regions before rest hrest
  simp only [regions_text, String.toList_append, plainly_append, List.append_assoc] at hread ⊢
  exact hread

/-- The text is a list of words with a blank behind the last one. -/
def Keywords (s : String) (words : List String) : Prop :=
  s.toList.getLast? = some ' ' ∧ tokens (plainly s.toList) = words.map (fun w ↦ .word w.toList) ∧
    ∀ w ∈ words, isPlaceholder (.word w.toList) = false
deriving Decidable

theorem Writes.keywords (hf : Writes d f ss) (s : String) (words : List String)
    (hs : Keywords s words) : Writes d (.text s :: f) (words.map word ++ ss) := by
  have hwords : words.map word = (words.map fun w ↦ Token.word w.toList).map Symbol.token := by
    rw [List.map_map]
    rfl
  -- The blank at the end is what lets the text be read by itself.
  have hspells := spells_of_getLast? hs.1 rfl
  rw [hs.2.1] at hspells
  rw [hwords]
  apply hf.text hspells
  intro t ht
  obtain ⟨w, hw, rfl⟩ := List.mem_map.mp ht
  exact hs.2.2 w hw

/-- Keywords that stand there only if they are asked for. -/
theorem Writes.phrase (hf : Writes d f ss) (asked : Bool) (s : String) (words : List String)
    (hs : Keywords s words) :
    Writes d (Fragment.optional asked s ++ f) (Symbol.phrase asked words ++ ss) := by
  cases asked with
  | false => exact hf
  | true => exact hf.keywords s words hs

theorem Writes.commaList {fs : List Fragment} {sss : List (List Symbol)}
    (h : List.Forall₂ (Writes d) fs sss) :
    Writes d (Fragment.commaList fs) (separated (.token .comma) sss) :=
  Writes.joined spells_comma (by decide) rfl h

theorem Trails.clause (s : String) (words : List String) (hs : Keywords s words ∧ delimits s)
    {fs : List Fragment} {sss : List (List Symbol)} (h : List.Forall₂ (Writes d) fs sss) :
    Trails d (Fragment.clause s fs) (Symbol.clause words sss) := by
  cases h with
  | nil => exact Trails.nil
  | cons hf hfs =>
    exact ((Writes.commaList (List.Forall₂.cons hf hfs)).keywords s words hs.1).trails hs.2

/-- Reading a query gives the symbols of its fragment back. -/
theorem Writes.readTokens {T : Set QuotedText} (hd : d.Regular) (hsound : Sound T f)
    (hf : Writes d f ss) : readTokens d (toQuery d f).sql = some (numbered d 0 ss) := by
  have hread := hf.tokens_regions 0 [] trivial
  rw [tokens_nil, List.append_nil, List.append_nil] at hread
  rw [Reading.readTokens, toQuery, String.toList_ofList, regions_chars hd hsound, Option.map_some,
    hread]

end Fragment

end SqlBuilder
