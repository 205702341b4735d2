import SqlBuilder.Proofs.Script
import SqlBuilder.Proofs.Symbols.Basic

/-!
# The symbols of what a draft gives

Statements of one kind are legible as symbols if every statement that can be written is read as the
symbols that are assigned to it. Then a query that a draft gives is read as the symbols of what the
draft has collected, and two drafts that give the same query have collected the same symbols.
-/

namespace SqlBuilder

open Reading SqlBuilder.Symbol

variable {α κ : Type} [Statement α κ] [Fragmented α] {d : Dialect} {symbols : α → List Symbol}

/-- Every statement of a kind that can be written is read as its symbols. -/
def Statement.WritesSymbols (d : Dialect) (symbols : α → List Symbol) : Prop :=
  ∀ a f, Fragmented.fragment d a = .ok f → f.Writes d (symbols a) ∧ ∃ T, f.Sound T

namespace Draft

variable {b b' : Draft α} {q : Query}

/-- What a draft gives is read as the symbols of its content, with its values beside them. -/
theorem readTokens_of_writesSymbols (hd : d.Regular) (hsymbols : Statement.WritesSymbols d symbols)
    (h : b.toQuery d = .ok q) : (∃ f, Fragmented.fragment d b.content = .ok f) ∧
    readTokens d q.sql = some (numbered d 0 (symbols b.content)) ∧
      q.binds = values (symbols b.content) := by
  obtain ⟨f, hf, rfl⟩ := exists_fragment_of_toQuery h
  obtain ⟨hwrites, T, hsound⟩ := hsymbols _ f hf
  exact ⟨⟨f, hf⟩, hwrites.readTokens hd hsound, hwrites.values_eq.symm⟩

/-- The text tells the symbols up to the values, and the values are those of the query. -/
theorem symbols_eq_of_toQuery (hd : d.Regular) (hsymbols : Statement.WritesSymbols d symbols)
    (h : b.toQuery d = .ok q) (h' : b'.toQuery d = .ok q) :
    symbols b.content = symbols b'.content := by
  obtain ⟨⟨f, hf⟩, hread, hbinds⟩ := readTokens_of_writesSymbols hd hsymbols h
  obtain ⟨⟨f', hf'⟩, hread', hbinds'⟩ := readTokens_of_writesSymbols hd hsymbols h'
  have hnumbered := Option.some.inj (hread.symm.trans hread')
  exact numbered_injective hd.placeholder_usual (hsymbols _ f hf).1.unmistakable
    (hsymbols _ f' hf').1.unmistakable hnumbered (hbinds.symm.trans hbinds')

end Draft

end SqlBuilder
