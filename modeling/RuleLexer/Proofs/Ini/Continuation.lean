import RuleLexer.Proofs.Ini.Strips

/-!
# Runs over a text and its continuation

What follows a newline does not change how the text before it is read. A
run that comes to the end of such a text is, over a longer text, followed
by the run over the rest. A run that stops before the end stops there for
every rest.
-/

namespace RuleLexer.Ini

open Text

namespace Reads

variable {source : Source} {text rest left : Text} {strips : List Strip}

theorem exists_tokenize (hsize : byteSize text < wordCount)
    (hmark : text.head? ≠ some Source.byteOrderMark) (h : Reads text strips left) :
    ∃ l, Ini.tokenize (.ofText text) = .ok l ∧
      l.tokens = Piece.tokensFrom 0 (Strip.allPieces strips) ∧
      l.position = byteSize (Piece.join (Strip.allPieces strips)) ∧
      l.state = if left = [] then .done else .matching := by
  have htext := Source.text_ofText hmark
  have hread : Reads (Source.ofText text).text strips left := htext.symm ▸ h
  have hfits : (Source.ofText text).size < wordCount := by rwa [Source.size, htext]
  obtain ⟨l, hl, hat, -, htokens, hposition⟩ := hread.tokenize hfits
  exact ⟨l, hl, htokens, hposition, hat.state⟩

end Reads

/-- A run over a text that ends with a newline is the start of the run over any longer text. -/
theorem tokenize_append {a b : Text} (hsize : byteSize (a ++ b) < wordCount)
    (ha : a.head? ≠ some Source.byteOrderMark) (hend : a.getLast? = some '\n') :
    ∃ l n, tokenize (.ofText a) = .ok l ∧ tokenize (.ofText (a ++ b)) = .ok n ∧
      (l.state = .done → b.head? ≠ some Source.byteOrderMark →
        ∃ m, tokenize (.ofText b) = .ok m ∧
          n.tokens = l.tokens ++ m.tokens.map (Token.shift (byteSize a)) ∧
          n.state = m.state ∧ n.position = byteSize a + m.position) ∧
      (l.state ≠ .done →
        n.state = l.state ∧ n.position = l.position ∧ n.tokens = l.tokens) := by
  have hne : a ≠ [] := by
    rintro rfl
    simp at hend
  have hmark : (a ++ b).head? ≠ some Source.byteOrderMark := by
    rwa [List.head?_append_of_ne_nil a hne]
  have hsizes := byteSize_append a b
  obtain ⟨strips, left, hread⟩ := Reads.exists_strips a
  obtain ⟨l, hl, htokens, hposition, hstate⟩ := hread.exists_tokenize (by omega) ha
  by_cases hleft : left = []
  · subst hleft
    obtain ⟨strips', left', hb⟩ := Reads.exists_strips b
    have happend := hread.append (fun _ => hend) hb
    obtain ⟨n, hn, htokens', hposition', hstate'⟩ := happend.exists_tokenize hsize hmark
    have hjoin : Piece.join (Strip.allPieces strips) = a := by simpa using hread.eq_append.symm
    refine ⟨l, n, hl, hn, fun _ hmark' => ?_, fun hstop => absurd (hstate.trans (if_pos rfl)) hstop⟩
    obtain ⟨m, hm, htokens'', hposition'', hstate''⟩ := hb.exists_tokenize (by omega) hmark'
    refine ⟨m, hm, ?_, hstate'.trans hstate''.symm, ?_⟩
    · rw [htokens', htokens, htokens'', Strip.allPieces_append, Piece.tokensFrom_append, hjoin,
        Piece.tokensFrom_add]
    · rw [hposition', hposition'', Strip.allPieces_append, Piece.join_append, byteSize_append,
        hjoin]
  · have happend := hread.append_left hleft hend b
    obtain ⟨n, hn, htokens', hposition', hstate'⟩ := happend.exists_tokenize hsize hmark
    have hleft' : left ++ b ≠ [] := List.append_ne_nil_of_left_ne_nil hleft b
    have hstop : l.state = .matching := hstate.trans (if_neg hleft)
    refine ⟨l, n, hl, hn, fun hdone => absurd (hstop.symm.trans hdone) (by simp), fun _ => ?_⟩
    exact ⟨by rw [hstate', hstop, if_neg hleft'], hposition'.trans hposition.symm,
      htokens'.trans htokens.symm⟩

/-- The run over the second text stops in front of its second line. -/
theorem tokenize_append_bracket :
    ∃ n, tokenize (.ofText ("k=v\n".toList ++ "j:\n[".toList)) = .ok n ∧ n.state = .matching ∧
      n.position = 7 ∧ n.tokens = [⟨⟨0, 1⟩, .keyToken⟩, ⟨⟨1, 2⟩, .equals⟩, ⟨⟨2, 3⟩, .valueToken⟩,
        ⟨⟨3, 4⟩, .endOfLine⟩, ⟨⟨4, 5⟩, .keyToken⟩, ⟨⟨5, 6⟩, .colon⟩, ⟨⟨6, 7⟩, .endOfLine⟩] := by
  obtain ⟨l, n, hl, hn, hdone, -⟩ := tokenize_append (a := "k=v\n".toList) (b := "j:\n[".toList)
    (by decide) (by decide) (by decide)
  cases hl
  obtain ⟨m, hm, htokens, hstate, hposition⟩ := hdone rfl (by decide)
  cases hm
  exact ⟨n, hn, hstate, hposition, htokens⟩

end RuleLexer.Ini
