import SqlBuilder.Proofs.Reading.Region

/-!
# Nesting

The second pass over a statement pairs its parentheses. Quoted texts are single regions by then, so
only parentheses that stand outside quotes count. A statement in which a parenthesis is left without
its partner has no nesting. In one that has a nesting, a list is what stands between two
parentheses or behind a keyword, and its items are what the commas of that level separate; a comma
between inner parentheses belongs to the item around them.
-/

namespace SqlBuilder.Reading

/-- A part of a statement: a region, or all that stands between two parentheses. -/
inductive Nest where
  | region (r : Region)
  | group (ns : List Nest)

/-! ## Pairing parentheses -/

/-- A parenthesis outside quotes. -/
def Region.isParenthesis : Region → Bool
  | .plain c => c == '(' || c == ')'
  | .quoted _ => false

theorem Region.parenthesis_cases (r : Region) :
    r = .plain '(' ∨ r = .plain ')' ∨ r.isParenthesis = false := by
  cases r with
  | quoted t => exact Or.inr (Or.inr rfl)
  | plain c =>
    by_cases hopening : c = '('
    · exact Or.inl (congrArg _ hopening)
    · by_cases hclosing : c = ')'
      · exact Or.inr (Or.inl (congrArg _ hclosing))
      · exact Or.inr (Or.inr (by simp [isParenthesis, hopening, hclosing]))

/-- What was read so far, on the level that is read now and on those around it, from the inside to
the outside. -/
structure Levels where
  /-- The parts on the level that is read now. -/
  here : List Nest := []
  /-- The parts on the levels around it. -/
  around : List (List Nest) := []

namespace Levels

/-- One more part on the level that is read now. -/
def put (l : Levels) (n : Nest) : Levels :=
  { l with here := l.here ++ [n] }

/-- Reads one more region. -/
def step (l : Levels) (r : Region) : Option Levels :=
  if r = .plain '(' then some ⟨[], l.here :: l.around⟩
  else if r = .plain ')' then
    match l.around with
    | [] => none
    | outer :: around => some ⟨outer ++ [.group l.here], around⟩
  else some (l.put (.region r))

/-- Reads regions in their order. -/
def steps (l : Levels) (rs : List Region) : Option Levels :=
  rs.foldlM step l

theorem steps_cons (l : Levels) (r : Region) (rs : List Region) :
    l.steps (r :: rs) = (l.step r).bind (·.steps rs) :=
  rfl

theorem steps_append (l : Levels) (rs rs' : List Region) :
    l.steps (rs ++ rs') = (l.steps rs).bind (·.steps rs') :=
  List.foldlM_append

theorem step_of_not_isParenthesis {r : Region} (h : r.isParenthesis = false) (l : Levels) :
    l.step r = some (l.put (.region r)) := by
  have hne {c : Char} (hc : c = '(' ∨ c = ')') : r ≠ .plain c := by
    rintro rfl
    rcases hc with rfl | rfl
    · exact nomatch h
    · exact nomatch h
  rw [step, if_neg (hne (Or.inl rfl)), if_neg (hne (Or.inr rfl))]

/-- The levels `here` and `around` where the outermost one continues `base`, with the levels `below`
around it. -/
def stacked (base : List Nest) (below : List (List Nest)) (here : List Nest) :
    List (List Nest) → Levels
  | [] => ⟨base ++ here, below⟩
  | outer :: around =>
    let rest := stacked base below outer around
    ⟨here, rest.here :: rest.around⟩

/-- The levels on top of others. -/
def onto (l : Levels) (base : List Nest) (below : List (List Nest)) : Levels :=
  stacked base below l.here l.around

variable {l l' : Levels} {base : List Nest} {below : List (List Nest)} {r : Region}
  {rs : List Region}

theorem onto_put (l : Levels) (n : Nest) :
    (l.put n).onto base below = (l.onto base below).put n := by
  obtain ⟨here, around⟩ := l
  cases around with
  | nil => simp [onto, put, stacked]
  | cons outer around => rfl

/-- A region that can be read can be read on top of other levels. -/
theorem step_onto (h : l.step r = some l') :
    (l.onto base below).step r = some (l'.onto base below) := by
  obtain ⟨here, around⟩ := l
  rcases r.parenthesis_cases with rfl | rfl | hr
  · obtain rfl := Option.some.inj h
    rfl
  · cases around with
    | nil => cases h
    | cons outer around =>
      obtain rfl := Option.some.inj h
      exact congrArg some (onto_put ⟨outer, around⟩ (.group here)).symm
  · rw [step_of_not_isParenthesis hr] at h ⊢
    obtain rfl := Option.some.inj h
    rw [onto_put]

/-- Without levels below, nothing can be read that could not be read before. -/
theorem step_onto_eq_none (h : l.step r = none) : (l.onto base []).step r = none := by
  obtain ⟨here, around⟩ := l
  rcases r.parenthesis_cases with rfl | rfl | hr
  · cases h
  · cases around with
    | nil => rfl
    | cons outer around => cases h
  · rw [step_of_not_isParenthesis hr] at h
    cases h

theorem steps_onto (h : l.steps rs = some l') :
    (l.onto base below).steps rs = some (l'.onto base below) := by
  induction rs generalizing l with
  | nil =>
    obtain rfl := Option.some.inj h
    rfl
  | cons r rs ih =>
    obtain ⟨l₁, hstep, hsteps⟩ := Option.bind_eq_some_iff.mp h
    rw [steps_cons, step_onto hstep]
    exact ih hsteps

theorem steps_onto_eq_none (h : l.steps rs = none) : (l.onto base []).steps rs = none := by
  induction rs generalizing l with
  | nil => exact nomatch h
  | cons r rs ih =>
    rw [steps_cons] at h ⊢
    cases hstep : l.step r with
    | none =>
      rw [step_onto_eq_none hstep]
      rfl
    | some l₁ =>
      rw [hstep] at h
      rw [step_onto hstep]
      exact ih h

end Levels

/-- The parts of a statement, unless a parenthesis is left without its partner. -/
def nests (rs : List Region) : Option (List Nest) :=
  match Levels.steps {} rs with
  | some ⟨ns, []⟩ => some ns
  | _ => none

/-- The regions have their partners among themselves and are read as the parts `ns`, whatever was
read before them. -/
def Nested (rs : List Region) (ns : List Nest) : Prop :=
  ∀ l : Levels, l.steps rs = some ⟨l.here ++ ns, l.around⟩

variable {rs rs' rs'' : List Region} {ns ns' ns'' : List Nest}

theorem nests_eq_some_iff : nests rs = some ns ↔ Levels.steps {} rs = some ⟨ns, []⟩ := by
  rw [nests]
  constructor
  · intro h
    split at h
    · next hsteps =>
      obtain rfl := Option.some.inj h
      exact hsteps
    · exact nomatch h
  · intro h
    rw [h]

theorem nested_iff : Nested rs ns ↔ nests rs = some ns := by
  rw [nests_eq_some_iff]
  constructor
  · intro h
    exact h {}
  · intro h l
    have honto : (Levels.onto {} l.here l.around).steps rs
        = some (Levels.onto ⟨ns, []⟩ l.here l.around) :=
      Levels.steps_onto h
    have hempty : Levels.onto {} l.here l.around = l := by
      rw [Levels.onto, Levels.stacked, List.append_nil]
    rw [hempty] at honto
    exact honto

namespace Nested

theorem nil : Nested [] [] := by
  intro l
  rw [List.append_nil]
  rfl

theorem append (h : Nested rs ns) (h' : Nested rs' ns') : Nested (rs ++ rs') (ns ++ ns') := by
  intro l
  rw [Levels.steps_append, h l, Option.bind_some, h', List.append_assoc]

theorem regions (h : ∀ r ∈ rs, r.isParenthesis = false) : Nested rs (rs.map .region) := by
  induction rs with
  | nil => exact nil
  | cons r rs ih =>
    obtain ⟨hr, hrs⟩ := List.forall_mem_cons.mp h
    intro l
    rw [Levels.steps_cons, Levels.step_of_not_isParenthesis hr, Option.bind_some, ih hrs]
    simp [Levels.put]

theorem enclosed (h : Nested rs ns) :
    Nested (.plain '(' :: (rs ++ [.plain ')'])) [.group ns] := by
  intro l
  rw [Levels.steps_cons, Levels.step, if_pos rfl, Option.bind_some, Levels.steps_append, h]
  rfl

end Nested

/-- What stands between nested regions is read as if it stood alone. -/
theorem exists_nests_of_between (h : Nested rs ns) (h'' : Nested rs'' ns'')
    (hall : nests (rs ++ (rs' ++ rs'')) = some ns') :
    ∃ between, nests rs' = some between ∧ ns' = ns ++ (between ++ ns'') := by
  rw [nests_eq_some_iff, Levels.steps_append, h, Option.bind_some, Levels.steps_append] at hall
  have honto : Levels.onto {} ([] ++ ns) [] = ⟨[] ++ ns, []⟩ := by
    rw [Levels.onto, Levels.stacked, List.append_nil]
  rw [← honto] at hall
  cases hsteps : Levels.steps {} rs' with
  | none =>
    rw [Levels.steps_onto_eq_none hsteps] at hall
    exact nomatch hall
  | some l =>
    rw [Levels.steps_onto hsteps, Option.bind_some, h''] at hall
    obtain ⟨here, around⟩ := l
    cases around with
    | cons outer around => exact nomatch hall
    | nil =>
      simp only [Levels.onto, Levels.stacked, Option.some.injEq, Levels.mk.injEq, and_true] at hall
      refine ⟨here, nests_eq_some_iff.mpr hsteps, ?_⟩
      rw [← hall, List.nil_append, List.append_assoc]

/-! ## Counting parentheses -/

/-- Never are more parentheses closed than were opened, and in the end as many are. -/
structure Balanced (rs : List Region) : Prop where
  never_closes_more : ∀ before, before <+: rs →
    before.count (.plain ')') ≤ before.count (.plain '(')
  closes_all : rs.count (.plain ')') = rs.count (.plain '(')

namespace Levels

variable {l l' : Levels} {r : Region}

/-- A parenthesis that opens is one more level around, and one that closes is one less. -/
theorem length_around_of_step (h : l.step r = some l') :
    l'.around.length + [r].count (.plain ')') = l.around.length + [r].count (.plain '(') := by
  obtain ⟨here, around⟩ := l
  rcases r.parenthesis_cases with rfl | rfl | hr
  · obtain rfl := Option.some.inj h
    rfl
  · cases around with
    | nil => cases h
    | cons outer around =>
      obtain rfl := Option.some.inj h
      rfl
  · have hne (c : Char) (hc : (Region.plain c).isParenthesis) : [r].count (.plain c) = 0 := by
      refine List.count_eq_zero.mpr fun hmem ↦ ?_
      obtain rfl := List.mem_singleton.mp hmem
      exact absurd hc (Bool.eq_false_iff.mp hr)
    rw [step_of_not_isParenthesis hr] at h
    obtain rfl := Option.some.inj h
    rw [hne '(' rfl, hne ')' rfl]
    rfl

/-- The levels around are the parentheses that are still open. -/
theorem length_around_of_steps (h : l.steps rs = some l') :
    l'.around.length + rs.count (.plain ')') = l.around.length + rs.count (.plain '(') := by
  induction rs generalizing l with
  | nil =>
    obtain rfl := Option.some.inj h
    rfl
  | cons r rs ih =>
    obtain ⟨l₁, hstep, hsteps⟩ := Option.bind_eq_some_iff.mp h
    have hfirst := length_around_of_step hstep
    have hrest := ih hsteps
    rw [← List.singleton_append, List.count_append, List.count_append]
    omega

end Levels

/-- What can be read has its parentheses in pairs. -/
theorem balanced_of_nests (h : nests rs = some ns) : Balanced rs := by
  rw [nests_eq_some_iff] at h
  refine ⟨?_, ?_⟩
  · rintro before ⟨behind, rfl⟩
    rw [Levels.steps_append] at h
    obtain ⟨l, hbefore, -⟩ := Option.bind_eq_some_iff.mp h
    have hcount := Levels.length_around_of_steps hbefore
    simp only [List.length_nil, Nat.zero_add] at hcount
    omega
  · have hcount := Levels.length_around_of_steps h
    simpa using hcount

/-! ## Items -/

namespace Nest

/-- A comma outside quotes. -/
def isComma : Nest → Bool
  | region (.plain c) => c == ','
  | _ => false

/-- A blank outside quotes. -/
def isBlank : Nest → Bool
  | region (.plain c) => c == ' '
  | _ => false

/-- What stands between the parentheses. -/
def inner? : Nest → Option (List Nest)
  | group ns => some ns
  | region _ => none

/-- A quoted text. -/
def isQuoted : Nest → Bool
  | region (.quoted _) => true
  | _ => false

end Nest

/-- What the commas of a level separate, without the blanks in front of it. -/
def items (ns : List Nest) : List (List Nest) :=
  (ns.splitOnP Nest.isComma).map (·.dropWhile Nest.isBlank)

/-- The list between the first parentheses that do not stand between others. -/
def enclosedList (ns : List Nest) : Option (List Nest) :=
  ns.findSome? Nest.inner?

/-- The list behind the first quoted text. -/
def listBehindName (ns : List Nest) : List Nest :=
  (ns.dropWhile fun n ↦ !n.isQuoted).tail

/-- In front of the outer parentheses there are none. -/
theorem enclosedList_append (rs : List Region) (ns : List Nest) :
    enclosedList (rs.map .region ++ [.group ns]) = some ns := by
  induction rs with
  | nil => rfl
  | cons r rs ih => exact ih

/-- In front of the first quoted text there is none. -/
theorem listBehindName_append (cs : List Char) (t : QuotedText) (ns : List Nest) :
    listBehindName ((plainly cs).map .region ++ .region (.quoted t) :: ns) = ns := by
  induction cs with
  | nil => rfl
  | cons c cs ih => exact ih

/-- Items in one list, with a comma and a blank between them. -/
def Nest.listed : List (List Nest) → List Nest
  | [] => []
  | [ns] => ns
  | ns :: nss => ns ++ .region (.plain ',') :: .region (.plain ' ') :: Nest.listed nss

/-- The parts can be an item of a list: there is no comma among them and no blank in front. -/
structure IsItem (ns : List Nest) : Prop where
  noComma : ∀ n ∈ ns, n.isComma = false
  noBlank : ∀ n ∈ ns.head?, n.isBlank = false

theorem dropWhile_isBlank_eq_self (h : ∀ n ∈ ns.head?, n.isBlank = false) :
    ns.dropWhile Nest.isBlank = ns := by
  cases ns with
  | nil => rfl
  | cons n ns =>
    rw [List.dropWhile_cons_of_neg]
    rw [h n rfl]
    exact Bool.false_ne_true

/-- A blank in front of a list is no part of its first item. -/
theorem items_blank_cons (ns : List Nest) :
    items (.region (.plain ' ') :: ns) = items ns := by
  rw [items, List.splitOnP_cons_eq_if_modifyHead, if_neg (by decide), items]
  cases ns.splitOnP Nest.isComma with
  | nil => rfl
  | cons item rest => rfl

theorem items_listed {nss : List (List Nest)} (hne : nss ≠ []) (h : ∀ ns ∈ nss, IsItem ns) :
    items (Nest.listed nss) = nss := by
  fun_induction Nest.listed nss with
  | case1 => exact absurd rfl hne
  | case2 ns =>
    have hns := h ns List.mem_cons_self
    rw [items, List.splitOnP_eq_singleton hns.noComma, List.map_singleton,
      dropWhile_isBlank_eq_self hns.noBlank]
  | case3 ns nss hnss ih =>
    have hns := h ns List.mem_cons_self
    have hrest : items (Nest.listed nss) = nss :=
      ih hnss fun ns' hns' ↦ h ns' (List.mem_cons_of_mem _ hns')
    rw [items, List.splitOnP_append_cons_of_forall_mem hns.noComma _ rfl, List.map_cons,
      dropWhile_isBlank_eq_self hns.noBlank]
    rw [← items_blank_cons, items] at hrest
    rw [hrest]

/-- What separates parts is in none of them. -/
theorem eq_false_of_mem_splitOnP {α : Type} {p : α → Bool} {as part : List α}
    (hpart : part ∈ as.splitOnP p) : ∀ a ∈ part, p a = false := by
  induction as generalizing part with
  | nil =>
    obtain rfl := List.mem_singleton.mp hpart
    exact fun _ h ↦ absurd h List.not_mem_nil
  | cons b as ih =>
    rw [List.splitOnP_cons_eq_if_modifyHead] at hpart
    by_cases hb : p b
    · rw [if_pos hb] at hpart
      rcases List.mem_cons.mp hpart with rfl | hpart
      · exact fun _ h ↦ absurd h List.not_mem_nil
      · exact ih hpart
    · -- The first part of the rest is the one that grows.
      obtain ⟨first, rest, hsplit⟩ := List.exists_cons_of_ne_nil (List.splitOnP_ne_nil p as)
      rw [if_neg hb, hsplit, List.modifyHead_cons] at hpart
      rw [hsplit] at ih
      rcases List.mem_cons.mp hpart with rfl | hpart
      · exact List.forall_mem_cons.mpr ⟨Bool.eq_false_iff.mpr hb, ih List.mem_cons_self⟩
      · exact ih (List.mem_cons_of_mem _ hpart)

theorem isComma_of_mem_items {item : List Nest} (hitem : item ∈ items ns) :
    ∀ n ∈ item, n.isComma = false := by
  intro n hn
  obtain ⟨part, hpart, rfl⟩ := List.mem_map.mp hitem
  exact eq_false_of_mem_splitOnP hpart n ((List.dropWhile_sublist _).subset hn)

/-! ## Closed parts -/

/-- The regions stay together wherever they stand: every parenthesis has its partner among them, and
no comma among them separates items of the list around them. -/
def Closed (rs : List Region) : Prop :=
  ∃ ns, nests rs = some ns ∧ ∀ n ∈ ns, n.isComma = false

/-- No parenthesis and no comma. -/
def isFlatChar (c : Char) : Bool :=
  c != '(' && c != ')' && c != ','

namespace Closed

theorem append (h : Closed rs) (h' : Closed rs') : Closed (rs ++ rs') := by
  obtain ⟨ns, hns, hcomma⟩ := h
  obtain ⟨ns', hns', hcomma'⟩ := h'
  refine ⟨ns ++ ns', nested_iff.mp ((nested_iff.mpr hns).append (nested_iff.mpr hns')), ?_⟩
  exact List.forall_mem_append.mpr ⟨hcomma, hcomma'⟩

theorem nil : Closed [] :=
  ⟨[], rfl, fun _ h ↦ absurd h List.not_mem_nil⟩

theorem plainly {cs : List Char} (h : cs.all isFlatChar) : Closed (plainly cs) := by
  rw [List.all_eq_true] at h
  refine ⟨(Reading.plainly cs).map .region, nested_iff.mp (Nested.regions ?_), ?_⟩
  · intro r hr
    obtain ⟨c, hc, rfl⟩ := List.mem_map.mp hr
    have hflat := h c hc
    simp only [isFlatChar, Bool.and_eq_true, bne_iff_ne] at hflat
    simp [Region.isParenthesis, hflat]
  · intro n hn
    obtain ⟨r, hr, rfl⟩ := List.mem_map.mp hn
    obtain ⟨c, hc, rfl⟩ := List.mem_map.mp hr
    have hflat := h c hc
    simp only [isFlatChar, Bool.and_eq_true, bne_iff_ne] at hflat
    simp [Nest.isComma, hflat]

theorem quoted (t : QuotedText) : Closed [.quoted t] := by
  refine ⟨[.region (.quoted t)], rfl, fun n hn ↦ ?_⟩
  obtain rfl := List.mem_singleton.mp hn
  rfl

/-- Commas between parentheses separate nothing outside. -/
theorem enclosed_of_nested (h : Nested rs ns) : Closed (.plain '(' :: (rs ++ [.plain ')'])) := by
  refine ⟨[.group ns], nested_iff.mp h.enclosed, fun n hn ↦ ?_⟩
  obtain rfl := List.mem_singleton.mp hn
  rfl

theorem enclosed (h : Closed rs) : Closed (.plain '(' :: (rs ++ [.plain ')'])) := by
  obtain ⟨ns, hns, -⟩ := h
  exact enclosed_of_nested (nested_iff.mpr hns)

/-- Between closed parts only what is closed itself keeps the whole closed. -/
theorem between_iff (h : Closed rs) (h'' : Closed rs'') :
    Closed (rs ++ (rs' ++ rs'')) ↔ Closed rs' := by
  constructor
  · rintro ⟨ns', hns', hcomma'⟩
    obtain ⟨ns, hns, -⟩ := h
    obtain ⟨ns'', hns'', -⟩ := h''
    obtain ⟨between, hbetween, rfl⟩ :=
      exists_nests_of_between (nested_iff.mpr hns) (nested_iff.mpr hns'') hns'
    refine ⟨between, hbetween, fun n hn ↦ hcomma' n ?_⟩
    exact List.mem_append_right _ (List.mem_append_left _ hn)
  · intro h'
    exact h.append (h'.append h'')

/-- Behind a closed part only what is closed itself keeps the whole closed. -/
theorem behind_iff (h : Closed rs) : Closed (rs ++ rs') ↔ Closed rs' := by
  have hbetween : Closed (rs ++ (rs' ++ [])) ↔ Closed rs' := between_iff h nil
  rwa [List.append_nil] at hbetween

end Closed

/-- A region other than a parenthesis is the first part of what begins with it. -/
theorem head?_nests {r : Region} (hr : r.isParenthesis = false) (h : nests (r :: rs) = some ns) :
    ns.head? = some (.region r) := by
  have hr' : Nested [r] [.region r] :=
    .regions fun r' hr' ↦ List.mem_singleton.mp hr' ▸ hr
  have hall : nests ([r] ++ (rs ++ [])) = some ns := by
    rw [List.append_nil]
    exact h
  obtain ⟨between, -, rfl⟩ := exists_nests_of_between hr' .nil hall
  rfl

/-- Closed regions are an item unless a blank stands in front. -/
theorem Closed.exists_isItem {r : Region} (hr : r.isParenthesis = false) (hblank : r ≠ .plain ' ')
    (h : Closed (r :: rs)) : ∃ ns, nests (r :: rs) = some ns ∧ IsItem ns := by
  obtain ⟨ns, hns, hcomma⟩ := h
  refine ⟨ns, hns, hcomma, fun n hn ↦ ?_⟩
  rw [head?_nests hr hns] at hn
  obtain rfl := Option.some.inj hn
  cases r with
  | quoted t => rfl
  | plain c => simpa [Nest.isBlank] using hblank

end SqlBuilder.Reading
