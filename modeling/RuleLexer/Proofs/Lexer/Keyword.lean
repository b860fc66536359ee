import RuleLexer.Lexer.Grammar
import RuleLexer.Proofs.Text.CaseMapping

/-!
# Keywords and the case of their letters

A table of kinds finds a word by its lower-case form, so it tells two words
apart exactly if these forms are different. The form of a word is not made
of those of its characters: a capital sigma at the end of a word has a form
of its own. A word with a small sigma there is not found by the table.
-/

namespace RuleLexer.KindTable

variable {K : Type}

/-- Tables that are built by registrations, in any number and order. -/
inductive Registered : KindTable K → Prop
  | new (endOfLine : K) : Registered (KindTable.new endOfLine)
  | withKeyword {table : KindTable K} (word : Text) (kind : K) :
      Registered table → Registered (table.withKeyword word kind)
  | withChar {table : KindTable K} (c : Char) (kind : K) :
      Registered table → Registered (table.withChar c kind)

/-- Both words are found, as words of one kind, or each of them is missing. -/
def Alike (table : KindTable K) (word word' : Text) : Prop :=
  (∃ kind, table.keyword word = .ok kind ∧ table.keyword word' = .ok kind) ∨
    table.keyword word = .error (.missingKeyword word) ∧
      table.keyword word' = .error (.missingKeyword word')

variable {word word' : Text}

theorem keyword_new (endOfLine : K) (word : Text) :
    (new endOfLine).keyword word = .error (.missingKeyword word) := rfl

theorem keyword_withKeyword (table : KindTable K) (word : Text) (kind : K) (word' : Text) :
    (table.withKeyword word kind).keyword word' =
      if Text.toLower word' = Text.toLower word then .ok kind else table.keyword word' := by
  simp only [keyword, withKeyword, List.lookup_cons]
  by_cases h : Text.toLower word' = Text.toLower word
  · simp [h]
  · simp [h, beq_eq_false_iff_ne.mpr h]

theorem Registered.alike {table : KindTable K} (h : table.Registered)
    (hlower : Text.toLower word = Text.toLower word') : table.Alike word word' := by
  induction h with
  | new endOfLine => exact .inr ⟨keyword_new endOfLine word, keyword_new endOfLine word'⟩
  | withKeyword other kind _ ih =>
      rw [Alike, keyword_withKeyword, keyword_withKeyword, hlower]
      split
      · exact .inl ⟨kind, rfl, rfl⟩
      · exact ih
  | withChar c kind _ ih => exact ih

/-- No table tells two words apart exactly if their lower-case forms are the same. -/
theorem alike_iff (endOfLine : K) :
    (∀ table : KindTable K, table.Registered → table.Alike word word') ↔
      Text.toLower word = Text.toLower word' := by
  constructor
  · intro h
    have hword := h _ (.withKeyword word endOfLine (.new endOfLine))
    simp only [Alike, keyword_withKeyword, keyword_new, if_true] at hword
    by_contra hdiffer
    simp [Ne.symm hdiffer] at hword
  · exact fun hlower table h => h.alike hlower

/-- Characters of a word can be replaced by their own lower-case mappings without that any table can
tell, exactly if no capital sigma at the end of a word is replaced. -/
theorem keyword_ignores_case (m : Text.Marked) (endOfLine : K) :
    (∀ table : KindTable K, table.Registered → table.Alike m.word m.replaced) ↔
      ∀ front back, m = front ++ ('\u03A3', true) :: back →
        ¬Text.EndsWord (Text.Marked.word front) (Text.Marked.word back) := by
  rw [alike_iff endOfLine, eq_comm, Text.toLower_replaced_iff]

/-- A sigma between two letters and a capital with a dot are replaced, and the sigma at the end is
not. -/
theorem keyword_ignores_case_inner_sigma :
    ((KindTable.new 0).withKeyword ['Α', 'Σ', '\u0130', 'Σ'] 1).Alike ['Α', 'Σ', '\u0130', 'Σ']
      ['Α', 'σ', 'i', '\u0307', 'Σ'] := by
  have hcase := keyword_ignores_case
    [('Α', false), ('Σ', true), ('\u0130', true), ('Σ', false)] 0
  refine hcase.mpr ?_ _ (.withKeyword _ _ (.new 0))
  have hinner : ¬Text.EndsWord ['Α'] ['\u0130', 'Σ'] := by
    rw [Text.endsWord_iff]
    decide +kernel
  simpa [Text.forall_split_cons] using hinner

/-- A table with a word that ends in a capital sigma, and the word with a small one instead. -/
theorem keyword_final_sigma :
    ∃ (table : KindTable Nat) (m : Text.Marked), table.Registered ∧ m.word = ['Α', 'Σ'] ∧
      m.replaced = ['Α', 'σ'] ∧ table.keyword m.word = .ok 1 ∧
      table.keyword m.replaced = .error (.missingKeyword ['Α', 'σ']) :=
  ⟨(KindTable.new 0).withKeyword ['Α', 'Σ'] 1, [('Α', false), ('Σ', true)],
    .withKeyword _ _ (.new 0), rfl, by decide +kernel, by decide +kernel, by decide +kernel⟩

end RuleLexer.KindTable
