import SqlBuilder.Proofs.Pieces.Fragment
import SqlBuilder.Proofs.Success

/-!
# Where a fragment stands

What a fragment is spelled with depends on where it stands only through the numbers of its
placeholders. Between the placeholders its text is fixed, so two spellings of one fragment differ in
nothing but the number that counting starts from.

Where fragments are written as a list, each is spelled behind those in front of it: its counting
starts from the number of their placeholders.
-/

namespace SqlBuilder

variable {d : Dialect}

/-! ## Texts with placeholders between them -/

/-- The parts with a placeholder between any two of them, counted on from `before`. -/
def interleaved (d : Dialect) (before : Nat) : List (List Char) → List Char
  | [] => []
  | [part] => part
  | part :: part' :: parts =>
    part ++ ((d.placeholder (before + 1)).toList ++ interleaved d (before + 1) (part' :: parts))

/-- The second text is the first with its `count` placeholders numbered behind `before` others
instead of from the beginning. -/
def Renumbered (d : Dialect) (count before : Nat) (s s' : String) : Prop :=
  ∃ parts : List (List Char), parts.length = count + 1 ∧
    s.toList = interleaved d 0 parts ∧ s'.toList = interleaved d before parts

theorem interleaved_append (before : Nat) (cs part : List Char) (parts : List (List Char)) :
    interleaved d before ((cs ++ part) :: parts) = cs ++ interleaved d before (part :: parts) := by
  cases parts with
  | nil => rfl
  | cons part' parts => rw [interleaved, interleaved, List.append_assoc]

namespace Fragment

/-- The text in front of the first placeholder, and the texts behind each one. -/
def parts (d : Dialect) : Fragment → List Char × List (List Char)
  | [] => ([], [])
  | .text s :: f => (s.toList ++ (parts d f).1, (parts d f).2)
  | .name s :: f => ((d.quoteIdentifier s).toList ++ (parts d f).1, (parts d f).2)
  | .literal l :: f => ((d.literalText l).toList ++ (parts d f).1, (parts d f).2)
  | .bind _ :: f => ([], (parts d f).1 :: (parts d f).2)

theorem length_parts (d : Dialect) (f : Fragment) : (parts d f).2.length = f.binds.length := by
  induction f with
  | nil => rfl
  | cons p f ih =>
    cases p with
    | bind v => rw [parts, List.length_cons, ih, binds_bind, List.length_cons]
    | _ => exact ih

/-- The text of a fragment is fixed up to the numbers of its placeholders. -/
theorem chars_eq_interleaved (f : Fragment) (before : Nat) :
    f.chars d before = interleaved d before ((parts d f).1 :: (parts d f).2) := by
  induction f generalizing before with
  | nil => rfl
  | cons p f ih =>
    -- All that is no placeholder belongs to the part in front of the next one.
    cases p with
    | text s => rw [chars, ih, parts, interleaved_append]
    | name s => rw [chars, ih, parts, interleaved_append]
    | literal l => rw [chars, ih, parts, interleaved_append]
    | bind v => rw [chars, ih, parts, interleaved, List.nil_append]

/-- The text of a fragment with `before` placeholders to its left. -/
def textBehind (d : Dialect) (before : Nat) (f : Fragment) : String :=
  String.ofList (f.chars d before)

/-- Behind others a fragment reads as it does alone, up to the numbers of its placeholders. -/
theorem renumbered_textBehind (d : Dialect) (before : Nat) (f : Fragment) :
    Renumbered d (f.toQuery d).binds.length before (f.toQuery d).sql (f.textBehind d before) := by
  refine ⟨(parts d f).1 :: (parts d f).2, ?_, ?_, ?_⟩
  · rw [List.length_cons, length_parts, toQuery]
  · rw [toQuery, String.toList_ofList, chars_eq_interleaved]
  · rw [textBehind, String.toList_ofList, chars_eq_interleaved]

/-! ## Lists of fragments -/

/-- The spelling of each of the fragments, if each stands behind those in front of it. -/
def charsEach (d : Dialect) (before : Nat) : List Fragment → List (List Char)
  | [] => []
  | f :: fs => f.chars d before :: charsEach d (before + f.binds.length) fs

theorem chars_joined (separator : String) (fs : List Fragment) (before : Nat) :
    (joined separator fs).chars d before
      = separator.toList.intercalate (charsEach d before fs) := by
  induction fs generalizing before with
  | nil => rfl
  | cons f fs ih =>
    cases fs with
    | nil => simp [joined, charsEach]
    | cons g fs =>
      have hne : charsEach d (before + f.binds.length) (g :: fs) ≠ [] := List.cons_ne_nil _ _
      have hsplit : charsEach d before (f :: g :: fs)
          = f.chars d before :: charsEach d (before + f.binds.length) (g :: fs) := rfl
      have hjoined : joined separator (f :: g :: fs)
          = f ++ .text separator :: joined separator (g :: fs) := rfl
      rw [hjoined, chars_append, chars, ih, hsplit, List.intercalate_cons_of_ne_nil hne,
        List.append_assoc]

theorem chars_commaList (before : Nat) (fs : List Fragment) : (commaList fs).chars d before
    = (", ".intercalate ((charsEach d before fs).map String.ofList)).toList := by
  rw [String.toList_intercalate, List.map_map, commaList, chars_joined]
  simp

theorem length_charsEach (before : Nat) (fs : List Fragment) :
    (charsEach d before fs).length = fs.length := by
  induction fs generalizing before with
  | nil => rfl
  | cons f fs ih => rw [charsEach, List.length_cons, List.length_cons, ih]

theorem charsEach_append (before : Nat) (fs gs : List Fragment) :
    charsEach d before (fs ++ gs)
      = charsEach d before fs ++ charsEach d (before + (fs.flatMap binds).length) gs := by
  induction fs generalizing before with
  | nil => rfl
  | cons f fs ih =>
    rw [List.cons_append, charsEach, ih, charsEach, List.flatMap_cons, List.length_append,
      Nat.add_assoc, List.cons_append]

/-- Fragments without placeholders are spelled alike wherever they stand. -/
theorem charsEach_of_binds_eq_nil {fs : List Fragment} (h : ∀ f ∈ fs, f.binds = [])
    (before : Nat) : charsEach d before fs = fs.map (chars d before) := by
  induction fs with
  | nil => rfl
  | cons f fs ih =>
    obtain ⟨hf, hfs⟩ := List.forall_mem_cons.mp h
    rw [charsEach, hf, List.length_nil, Nat.add_zero, ih hfs, List.map_cons]

/-- The spelling of each of the fragments, row by row. -/
def charsRows (d : Dialect) (before : Nat) : List (List Fragment) → List (List (List Char))
  | [] => []
  | fs :: fss => charsEach d before fs :: charsRows d (before + (fs.flatMap binds).length) fss

theorem flatten_charsRows (before : Nat) (fss : List (List Fragment)) :
    (charsRows d before fss).flatten = charsEach d before fss.flatten := by
  induction fss generalizing before with
  | nil => rfl
  | cons fs fss ih => rw [charsRows, List.flatten_cons, ih, List.flatten_cons, charsEach_append]

theorem map_length_charsRows (before : Nat) (fss : List (List Fragment)) :
    (charsRows d before fss).map List.length = fss.map List.length := by
  induction fss generalizing before with
  | nil => rfl
  | cons fs fss ih => rw [charsRows, List.map_cons, ih, length_charsEach, List.map_cons]

end Fragment

end SqlBuilder
