import RuleLexer.Proofs.Ini.File
import RuleLexer.Proofs.Lexer.Locality

/-!
# A run over a file, line by line

A strip is a line with its break. A run reads the strips at the start of a
text one by one and stops at the end of the text, or in front of the first
line that is not well formed. Where a text ends with a newline, the run
over it is the start of the run over every continuation.
-/

namespace RuleLexer.Ini

open Text

structure Strip where
  line : Line
  brk : Break

namespace Strip

def pieces (s : Strip) : List (Piece Kind) := s.line.pieces ++ s.brk.pieces .endOfLine

def text (s : Strip) : Text := s.line.text ++ s.brk.text

@[simp] theorem join_pieces (s : Strip) : Piece.join s.pieces = s.text := by
  simp [pieces, text, Line.text, Break.pieces]

def allPieces (strips : List Strip) : List (Piece Kind) := strips.flatMap pieces

@[simp] theorem allPieces_nil : allPieces [] = [] := rfl

@[simp] theorem allPieces_cons (s : Strip) (strips : List Strip) :
    allPieces (s :: strips) = s.pieces ++ allPieces strips := rfl

@[simp] theorem allPieces_append (strips strips' : List Strip) :
    allPieces (strips ++ strips') = allPieces strips ++ allPieces strips' := List.flatMap_append

end Strip

/-- The strips that a run reads from a text, and what it leaves. -/
inductive Reads : Text → List Strip → Text → Prop
  | nil : Reads [] [] []
  | stuck {text : Text} : rowReader text = none → Reads text [] text
  | last (l : Line) : '\n' ∉ l.text → l.text ≠ [] → Reads l.text [⟨l, .none⟩] []
  | cons {l : Line} {brk : Break} {text rest left : Text} {strips : List Strip} :
      Begins text l.text brk rest → brk ≠ .none → Reads rest strips left →
      Reads text (⟨l, brk⟩ :: strips) left

namespace Reads

theorem exists_strips (text : Text) : ∃ strips left, Reads text strips left := by
  by_cases hempty : text = []
  · subst hempty
    exact ⟨[], [], .nil⟩
  · obtain ⟨brk, rest, hbegins⟩ := exists_begins text
    cases hread : rowReader text with
    | none => exact ⟨[], text, .stuck hread⟩
    | some found =>
        obtain ⟨l, hline, -⟩ := (rowReader_eq_some hbegins).mp hread
        rw [← hline] at hbegins
        by_cases hbrk : brk = .none
        · subst hbrk
          have htext := hbegins.eq_line
          rw [htext] at hempty ⊢
          exact ⟨_, [], .last l hbegins.noFeed hempty⟩
        · have hlt := hbegins.length_lt hbrk
          obtain ⟨strips, left, hrest⟩ := exists_strips rest
          exact ⟨_, left, .cons hbegins hbrk hrest⟩
termination_by text.length

variable {text left : Text} {strips : List Strip}

theorem many_eq (h : Reads text strips left) :
    rowReader.many text = (Strip.allPieces strips, left) := by
  induction h with
  | nil => exact many_rowReader_nil
  | stuck hnone => exact Reader.many_of_none hnone
  | last l hfeed _ =>
      have hread := (rowReader_eq_some (begins_self hfeed)).mpr ⟨l, rfl, rfl, rfl⟩
      rw [Reader.many_of_end hread]
      simp [Strip.pieces]
  | @cons l brk text rest left strips hbegins _ _ ih =>
      have hread := (rowReader_eq_some hbegins).mpr ⟨l, rfl, rfl, rfl⟩
      rw [many_rowReader_append hread, ih]
      rfl

theorem eq_append (h : Reads text strips left) :
    text = Piece.join (Strip.allPieces strips) ++ left := by
  have hsplit := many_rowReader_split text
  rwa [h.many_eq] at hsplit

/-- The run over a source whose text is read as these strips. -/
theorem tokenize {source : Source} (hsize : source.size < wordCount)
    (h : Reads source.text strips left) :
    ∃ l, Ini.tokenize source = .ok l ∧ l.At left ∧ l.source = source ∧
      l.tokens = Piece.tokensFrom 0 (Strip.allPieces strips) ∧
      l.position = byteSize (Piece.join (Strip.allPieces strips)) := by
  have hstart : (Lexer.start source : Lexer Kind).At
      (Piece.join (Strip.allPieces strips) ++ left) := h.eq_append ▸ Lexer.at_start hsize
  have hrun := tokenize_eq hsize
  rw [h.many_eq] at hrun
  refine ⟨_, hrun, hstart.readAll, Lexer.source_readAll _ _, ?_, ?_⟩
  · exact hstart.tokens_readAll.trans (List.nil_append _)
  · exact hstart.position_readAll.trans (Nat.zero_add _)

variable {b left' : Text} {strips' : List Strip}

/-- Behind a text that is read to its end, the run goes on with what follows. -/
theorem append (h : Reads text strips []) (hend : text ≠ [] → text.getLast? = some '\n')
    (hb : Reads b strips' left') : Reads (text ++ b) (strips ++ strips') left' := by
  generalize hleft : ([] : Text) = left at h
  induction h with
  | nil => exact hb
  | stuck _ =>
      -- The run stops where nothing is left, so the text has no line.
      subst hleft
      exact hb
  | last l hfeed hne => exact absurd (List.mem_of_getLast? (hend hne)) hfeed
  | @cons l brk text rest left strips hbegins hbrk _ ih =>
      have htext : text ≠ [] := List.ne_nil_of_length_pos (by have := hbegins.length_lt hbrk; omega)
      have hrest := ih (fun hrest => hbegins.getLast?_rest (hend htext) hrest) hleft
      exact .cons (hbegins.append hbrk b) hbrk hrest

/-- A run that stops in front of a line stops there whatever follows. -/
theorem append_left (h : Reads text strips left) (hleft : left ≠ [])
    (hend : text.getLast? = some '\n') (b : Text) : Reads (text ++ b) strips (left ++ b) := by
  induction h with
  | nil => exact absurd rfl hleft
  | @stuck text hnone =>
      -- The first line has its break already, so it is the first line of the longer text as well.
      obtain ⟨brk, rest, hbegins⟩ := exists_begins text
      have happend := hbegins.append (hbegins.brk_ne_none hend) b
      refine .stuck ?_
      rw [← Option.not_isSome_iff_eq_none, rowReader_isSome happend]
      rw [← Option.not_isSome_iff_eq_none, rowReader_isSome hbegins] at hnone
      exact hnone
  | last l hfeed hne => exact absurd rfl hleft
  | @cons l brk text rest left strips hbegins hbrk hrest ih =>
      have hne : rest ≠ [] := by
        rintro rfl
        have hempty := congrArg Prod.snd (hrest.many_eq.symm.trans many_rowReader_nil)
        exact hleft hempty
      exact .cons (hbegins.append hbrk b) hbrk (ih hleft (hbegins.getLast?_rest hend hne))

end Reads

end RuleLexer.Ini
