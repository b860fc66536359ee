import RuleLexer.Proofs.Ini.Strips
import RuleLexer.Proofs.Ini.Form
import RuleLexer.Proofs.Lexer.Reachable
import RuleLexer.Proofs.Text.Place

/-!
# The tokens of a run, line by line

The tokens of a run are cut into blocks, one for each line that was read. A
block lies on its line and has the form of a line, with the end of the line
as its last token. Because newlines stand in these last tokens only, the
place of a token can be counted off the tokens before it.
-/

namespace RuleLexer

section Split

variable {K : Type} {source : Source}

namespace Piece

theorem map_kind_tokensFrom (offset : Nat) (ps : List (Piece K)) :
    (tokensFrom offset ps).map (·.kind) = kinds ps := by
  induction ps generalizing offset with
  | nil => rfl
  | cons p ps ih =>
      rw [tokensFrom_cons, List.map_cons, ih]
      rfl

theorem span_of_mem_tokensFrom {offset : Nat} {ps : List (Piece K)} {t : Token K}
    (h : t ∈ tokensFrom offset ps) :
    offset ≤ t.span.start ∧ t.span.stop ≤ offset + Text.byteSize (join ps) := by
  induction ps generalizing offset with
  | nil => simp at h
  | cons p ps ih =>
      simp only [join_cons, Text.byteSize_append, size, tokensFrom_cons, List.mem_cons] at h ⊢
      rcases h with rfl | h
      · simp only
        omega
      · have := ih h
        omega

theorem tokensFrom_eq_append {offset : Nat} {ps : List (Piece K)} {before after : List (Token K)}
    (h : tokensFrom offset ps = before ++ after) :
    ∃ qs rs, ps = qs ++ rs ∧ tokensFrom offset qs = before ∧
      tokensFrom (offset + Text.byteSize (join qs)) rs = after := by
  induction before generalizing offset ps with
  | nil => exact ⟨[], ps, rfl, rfl, h⟩
  | cons t before ih =>
      cases ps with
      | nil => simp at h
      | cons p ps =>
          obtain ⟨rfl, hrest⟩ := List.cons.inj h
          obtain ⟨qs, rs, rfl, rfl, hrs⟩ := ih hrest
          refine ⟨p :: qs, rs, rfl, rfl, ?_⟩
          rwa [join_cons, Text.byteSize_append, ← Nat.add_assoc]

/-- Where the tokens of pieces are cut in front of a token, the pieces are cut as well. -/
theorem exists_split {ps : List (Piece K)} {left : Text} {before after : List (Token K)}
    {t : Token K} (hsource : source.text = join ps ++ left)
    (h : tokensFrom 0 ps = before ++ t :: after) :
    ∃ qs p rs, ps = qs ++ p :: rs ∧ before.flatMap (·.text source) = join qs ∧
      t.kind = p.kind ∧ t.text source = p.text ∧ t.span.start = Text.byteSize (join qs) := by
  obtain ⟨qs, rest, rfl, rfl, hrest⟩ := tokensFrom_eq_append h
  cases rest with
  | nil => simp at hrest
  | cons p rs =>
      obtain ⟨rfl, -⟩ := List.cons.inj hrest
      rw [Nat.zero_add]
      have hqs : source.text = [] ++ (join qs ++ (join (p :: rs) ++ left)) := by simp [hsource]
      have hp : source.text = join qs ++ (p.text ++ (join rs ++ left)) := by simp [hsource]
      exact ⟨qs, p, rs, rfl, Lexer.texts_tokensFrom hqs, rfl, Source.slice_of_eq_append hp, rfl⟩

end Piece

end Split

namespace Ini

open Text

/-- An end of a line is a line break, and nothing else has a newline. -/
structure MarksBreak (kind : Kind) (text : Text) : Prop where
  endOfLine : kind = .endOfLine → text = ['\n'] ∨ text = ['\r', '\n']
  other : kind ≠ .endOfLine → '\n' ∉ text

/-- The place behind tokens, counted off the tokens. -/
theorem place_flatMap {source : Source} {ts : List (Token Kind)}
    (h : ∀ t ∈ ts, MarksBreak t.kind (t.text source)) :
    place (ts.flatMap (·.text source)) = (1 + ts.countP (·.kind = .endOfLine),
      1 + ((ts.rtakeWhile (·.kind ≠ .endOfLine)).flatMap (·.text source)).length) := by
  induction ts using List.reverseRecOn with
  | nil => rfl
  | append_singleton ts t ih =>
      have ht := h t (by simp)
      have hts := ih fun t ht => h t (List.mem_append_left _ ht)
      rw [List.flatMap_append, List.flatMap_singleton, List.countP_append]
      by_cases hkind : t.kind = .endOfLine
      · rw [place_append_break _ (ht.endOfLine hkind), hts,
          List.rtakeWhile_concat_neg _ _ _ (by simpa using hkind)]
        simp [hkind, Nat.add_assoc]
      · rw [place_append_of_not_mem _ (ht.other hkind), hts,
          List.rtakeWhile_concat_pos _ _ _ (by simpa using hkind)]
        simp [hkind, Nat.add_assoc]

namespace Strip

variable {strips : List Strip}

theorem marksBreak (s : Strip) (h : '\n' ∉ s.line.text) {p : Piece Kind} (hp : p ∈ s.pieces) :
    MarksBreak p.kind p.text := by
  rcases List.mem_append.mp hp with hline | hbrk
  · have hkind : p.kind ≠ .endOfLine := fun heq =>
      s.line.endOfLine_notMem (heq ▸ List.mem_map_of_mem hline)
    have hfeed : '\n' ∉ p.text := fun hmem => h (List.mem_flatMap.mpr ⟨p, hline, hmem⟩)
    exact ⟨fun heq => absurd heq hkind, fun _ => hfeed⟩
  · cases hs : s.brk with
    | none => simp [hs, Break.pieces, Break.text] at hbrk
    | feed =>
        obtain rfl : p = ⟨['\n'], .endOfLine, by simp⟩ := by
          simpa [hs, Break.pieces, Break.text, Piece.ofText] using hbrk
        exact ⟨fun _ => .inl rfl, fun hkind => absurd rfl hkind⟩
    | returnFeed =>
        obtain rfl : p = ⟨['\r', '\n'], .endOfLine, by simp⟩ := by
          simpa [hs, Break.pieces, Break.text, Piece.ofText] using hbrk
        exact ⟨fun _ => .inr rfl, fun hkind => absurd rfl hkind⟩

theorem kinds_mem (s : Strip) (h : s.brk ≠ .none) : Piece.kinds s.pieces ∈ Form.row.matches' := by
  rw [pieces, kinds_append]
  refine Language.append_mem_mul s.line.kinds_mem ?_
  cases hs : s.brk with
  | none => exact absurd hs h
  | feed => exact Form.mem_char _
  | returnFeed => exact Form.mem_char _

/-- The tokens of strips that begin at a byte offset, each strip apart. -/
def blocks (offset : Nat) : List Strip → List (List (Token Kind))
  | [] => []
  | s :: strips => Piece.tokensFrom offset s.pieces :: blocks (offset + byteSize s.text) strips

@[simp] theorem length_blocks (offset : Nat) (strips : List Strip) :
    (blocks offset strips).length = strips.length := by
  induction strips generalizing offset with
  | nil => rfl
  | cons s strips ih => simp [blocks, ih]

theorem eq_of_blocks_singleton {offset j : Nat} {s : Strip} {block : List (Token Kind)}
    (h : (blocks offset [s])[j]? = some block) :
    j = 0 ∧ Piece.tokensFrom offset s.pieces = block := by
  cases j with
  | zero => exact ⟨rfl, Option.some.inj h⟩
  | succ j => simp [blocks] at h

theorem flatten_blocks (offset : Nat) (strips : List Strip) :
    (blocks offset strips).flatten = Piece.tokensFrom offset (allPieces strips) := by
  induction strips generalizing offset with
  | nil => rfl
  | cons s strips ih =>
      rw [blocks, List.flatten_cons, ih, allPieces_cons, Piece.tokensFrom_append, join_pieces]

end Strip

/-- The tokens lie between the start of line `i`, counted from zero, and the start of the line
after it. -/
def OnLine (source : Source) (i : Nat) (block : List (Token Kind)) : Prop :=
  ∃ start, source.lines.starts[i]? = some start ∧
    ∀ t ∈ block, start ≤ t.span.start ∧
      t.span.stop ≤ source.lines.starts[i + 1]?.getD source.size

theorem onLine_tokensFrom {source : Source} {front text line rest : Text} {brk : Break} {i : Nat}
    (hfront : StartsLine front i) (htext : source.text = front ++ text)
    (hbegins : Begins text line brk rest) {ps : List (Piece Kind)}
    (hps : Piece.join ps = line ++ brk.text) :
    OnLine source i (Piece.tokensFrom (byteSize front) ps) := by
  refine ⟨byteSize front, ?_, fun t ht => ?_⟩
  · rw [source.lines_eq, htext]
    exact LineTable.starts_of_startsLine hfront text
  · have hspan := Piece.span_of_mem_tokensFrom ht
    rw [hps, ← byteSize_append] at hspan
    refine ⟨hspan.1, hspan.2.trans ?_⟩
    have hsource := htext.trans (hbegins.append_eq front)
    by_cases hbrk : brk = .none
    · -- The last line has no start behind it; it ends with the source.
      subst hbrk
      have hcount : source.text.count '\n' = i := by
        rw [htext, hbegins.eq_line, List.count_append, hfront.count,
          List.count_eq_zero_of_not_mem hbegins.noFeed, Nat.add_zero]
      have hlast : source.lines.starts[i + 1]? = none := by
        rw [List.getElem?_eq_none_iff, source.lines_eq, LineTable.length_starts, hcount]
      rw [hlast, Option.getD_none, Source.size, hsource, byteSize_append _ rest]
      exact Nat.le_add_right _ _
    · have hnext := hfront.append (hbegins.startsLine hbrk)
      rw [source.lines_eq, hsource, LineTable.starts_of_startsLine hnext rest]
      exact Nat.le_refl _

namespace Reads

variable {text left : Text} {strips : List Strip}

theorem marksBreak (h : Reads text strips left) {p : Piece Kind}
    (hp : p ∈ Strip.allPieces strips) : MarksBreak p.kind p.text := by
  induction h with
  | nil => exact absurd hp List.not_mem_nil
  | stuck => exact absurd hp List.not_mem_nil
  | last l hfeed =>
      rw [Strip.allPieces_cons, Strip.allPieces_nil, List.append_nil] at hp
      exact Strip.marksBreak _ hfeed hp
  | cons hbegins _ _ ih =>
      rcases List.mem_append.mp hp with hp | hp
      · exact Strip.marksBreak _ hbegins.noFeed hp
      · exact ih hp

theorem onLine {source : Source} {front : Text} {i j : Nat} {block : List (Token Kind)}
    (h : Reads text strips left) (hfront : StartsLine front i) (htext : source.text = front ++ text)
    (hblock : (Strip.blocks (byteSize front) strips)[j]? = some block) :
    OnLine source (i + j) block := by
  induction h generalizing front i j with
  | nil => simp [Strip.blocks] at hblock
  | stuck => simp [Strip.blocks] at hblock
  | last l hfeed hne =>
      obtain ⟨rfl, rfl⟩ := Strip.eq_of_blocks_singleton hblock
      exact onLine_tokensFrom hfront htext (begins_self hfeed) (Strip.join_pieces _)
  | @cons l brk text rest left strips hbegins hbrk hrest ih =>
      cases j with
      | zero =>
          obtain rfl := Option.some.inj hblock
          exact onLine_tokensFrom hfront htext hbegins (Strip.join_pieces _)
      | succ j =>
          have hnext := hfront.append (hbegins.startsLine hbrk)
          have hsource := htext.trans (hbegins.append_eq front)
          rw [Strip.blocks, Strip.text, ← byteSize_append, List.getElem?_cons_succ] at hblock
          have hrec := ih hnext hsource hblock
          rwa [Nat.add_assoc, Nat.add_comm 1] at hrec

theorem form {offset j : Nat} {block : List (Token Kind)} (h : Reads text strips left)
    (hblock : (Strip.blocks offset strips)[j]? = some block) :
    block.map (·.kind) ∈ Form.row.matches' ∨
      left = [] ∧ j + 1 = strips.length ∧ block.map (·.kind) ∈ Form.line.matches' := by
  induction h generalizing offset j with
  | nil => simp [Strip.blocks] at hblock
  | stuck => simp [Strip.blocks] at hblock
  | last l =>
      obtain ⟨rfl, rfl⟩ := Strip.eq_of_blocks_singleton hblock
      -- Only this strip lacks its break, and nothing is left behind it.
      refine .inr ⟨rfl, rfl, ?_⟩
      rw [Piece.map_kind_tokensFrom]
      simpa [Strip.pieces, Break.pieces, Break.text] using l.kinds_mem
  | @cons l brk text rest left strips hbegins hbrk hrest ih =>
      cases j with
      | zero =>
          obtain rfl := Option.some.inj hblock
          rw [Piece.map_kind_tokensFrom]
          exact .inl (Strip.kinds_mem ⟨l, brk⟩ hbrk)
      | succ j =>
          simpa using ih (j := j) hblock

end Reads

/-- How the tokens of a run lie in its source, where `blocks` are the tokens line by line. -/
structure Layout (source : Source) (l : Lexer Kind) (blocks : List (List (Token Kind))) :
    Prop where
  flatten_eq : blocks.flatten = l.tokens
  onLine : ∀ i block, blocks[i]? = some block → OnLine source i block
  form : ∀ i block, blocks[i]? = some block →
    block.map (·.kind) ∈ Form.row.matches' ∨
      l.state = .done ∧ i + 1 = blocks.length ∧ block.map (·.kind) ∈ Form.line.matches'
  marksBreak : ∀ t ∈ l.tokens, MarksBreak t.kind (t.text source)
  lineCol_eq : ∀ before t after, l.tokens = before ++ t :: after →
    source.lineCol t.span.start = (1 + before.countP (·.kind = .endOfLine),
      1 + ((before.rtakeWhile (·.kind ≠ .endOfLine)).flatMap (·.text source)).length)

/-- Every run has its tokens line by line, whether it comes to the end of its source or not. -/
theorem tokenize_layout {source : Source} (hsize : source.size < wordCount) :
    ∃ l blocks, tokenize source = .ok l ∧ Layout source l blocks := by
  obtain ⟨strips, left, hread⟩ := Reads.exists_strips source.text
  obtain ⟨l, hl, hat, hsource, htokens, -⟩ := hread.tokenize hsize
  have hsplit {before after : List (Token Kind)} {t : Token Kind}
      (h : l.tokens = before ++ t :: after) :=
    Piece.exists_split hread.eq_append (htokens.symm.trans h)
  have hmarks : ∀ t ∈ l.tokens, MarksBreak t.kind (t.text source) := by
    intro t ht
    obtain ⟨before, after, h⟩ := List.append_of_mem ht
    obtain ⟨qs, p, rs, hps, -, hkind, htext, -⟩ := hsplit h
    rw [hkind, htext]
    exact hread.marksBreak (by simp [hps])
  refine ⟨l, Strip.blocks 0 strips, hl, ?_, fun i block hblock => ?_, fun i block hblock => ?_,
    hmarks, fun before t after h => ?_⟩
  · rw [Strip.flatten_blocks, htokens]
  · have honLine := hread.onLine startsLine_nil (List.nil_append _).symm hblock
    rwa [Nat.zero_add] at honLine
  · rw [Strip.length_blocks, hat.state]
    refine (hread.form hblock).imp_right ?_
    rintro ⟨hleft, hlast, hform⟩
    exact ⟨if_pos hleft, hlast, hform⟩
  · obtain ⟨qs, p, rs, hps, hbefore, -, -, hstart⟩ := hsplit h
    have htext : source.text = before.flatMap (·.text source) ++
        (Piece.join (p :: rs) ++ left) := by
      rw [hread.eq_append, hps, hbefore]
      simp
    have hall : ∀ t ∈ before, MarksBreak t.kind (t.text source) := fun t ht =>
      hmarks t (h ▸ List.mem_append_left _ ht)
    rw [hstart, ← hbefore, Source.lineCol_of_append htext, place_flatMap hall]

/-- The mark behind the tab, at the tenth byte, is in the second column of the second line. -/
theorem tokenize_layout_comment :
    ∃ l blocks, tokenize (.ofText "k=éé\r\n\t;n".toList) = .ok l ∧
      Layout (.ofText "k=éé\r\n\t;n".toList) l blocks ∧
      (Source.ofText "k=éé\r\n\t;n".toList).lineCol 9 = (2, 2) := by
  have hsize : (Source.ofText "k=éé\r\n\t;n".toList).size < wordCount := by decide
  obtain ⟨l, blocks, hl, h⟩ := tokenize_layout hsize
  refine ⟨l, blocks, hl, h, ?_⟩
  cases hl
  exact h.lineCol_eq [⟨⟨0, 1⟩, .keyToken⟩, ⟨⟨1, 2⟩, .equals⟩, ⟨⟨2, 6⟩, .valueToken⟩,
    ⟨⟨6, 8⟩, .endOfLine⟩, ⟨⟨8, 9⟩, .whitespaceToken⟩] ⟨⟨9, 10⟩, .semicolon⟩
    [⟨⟨10, 11⟩, .commentToken⟩] rfl

end Ini

end RuleLexer
