import RuleLexer.Proofs.Text.Runs
import RuleLexer.Text.Window
import Mathlib.Data.List.TakeWhile

/-!
# The lines of a text

A text is cut at its newlines. A carriage return directly before a newline
belongs to the line break, and one at the very end belongs to the line. A
text is its first line, the break after that line and what follows; the line
table lists where the lines start.
-/

namespace RuleLexer.Text

/-- What ends a line; nothing does at the end of the text. -/
inductive Break where
  | none
  | feed
  | returnFeed
  deriving DecidableEq, Repr

def Break.text : Break → Text
  | none => []
  | feed => ['\n']
  | returnFeed => ['\r', '\n']

def lines (text : Text) : List Text :=
  (text.splitOn '\n').dropLast.map Window.dropReturn ++ [(text.splitOn '\n').getLastD []]

def firstLine (text : Text) : Text :=
  if '\n' ∈ text then Window.dropReturn (text.takeWhile (· ≠ '\n')) else text

theorem lineText_eq (w : Window) : w.lineText = firstLine w.text := rfl

/-- The text is `line`, then the break `brk`, then `rest`. -/
structure Begins (text line : Text) (brk : Break) (rest : Text) : Prop where
  eq : text = line ++ (brk.text ++ rest)
  noFeed : '\n' ∉ line
  last : brk = .none → rest = []
  noReturn : brk = .feed → line.getLast? ≠ some '\r'

theorem begins_self {line : Text} (h : '\n' ∉ line) : Begins line line .none [] :=
  ⟨by simp [Break.text], h, fun _ => rfl, by simp⟩

theorem dropReturn_append_return (line : Text) : Window.dropReturn (line ++ ['\r']) = line := by
  simp [Window.dropReturn]

theorem dropReturn_eq_self {line : Text} (h : line.getLast? ≠ some '\r') :
    Window.dropReturn line = line := if_neg h

theorem dropReturn_append {a b : Text} (ha : '\r' ∉ a) :
    Window.dropReturn (a ++ b) = a ++ Window.dropReturn b := by
  rcases List.eq_nil_or_concat b with rfl | ⟨b, c, rfl⟩
  · have hlast : a.getLast? ≠ some '\r' := fun h => ha (List.mem_of_getLast? h)
    rw [List.append_nil, dropReturn_eq_self hlast]
    simp [Window.dropReturn]
  · by_cases hc : c = '\r'
    · subst hc
      rw [List.concat_eq_append, ← List.append_assoc, dropReturn_append_return,
        dropReturn_append_return]
    · have hlast {front : Text} : (front ++ [c]).getLast? ≠ some '\r' := by simpa using hc
      rw [List.concat_eq_append, ← List.append_assoc, dropReturn_eq_self hlast,
        dropReturn_eq_self hlast, List.append_assoc]

/-- Cut at its first newline, a text has a line and a break before the cut. -/
theorem exists_begins_of_append {front : Text} (hfront : '\n' ∉ front) (rest : Text) :
    ∃ brk, brk ≠ .none ∧ Begins (front ++ '\n' :: rest) (Window.dropReturn front) brk rest := by
  by_cases hreturn : front.getLast? = some '\r'
  · obtain ⟨line, rfl⟩ := List.getLast?_eq_some_iff.mp hreturn
    rw [dropReturn_append_return]
    exact ⟨.returnFeed, by simp, by simp [Break.text],
      fun h => hfront (List.mem_append_left _ h), by simp, by simp⟩
  · rw [dropReturn_eq_self hreturn]
    exact ⟨.feed, by simp, by simp [Break.text], hfront, by simp, fun _ => hreturn⟩

theorem exists_begins (text : Text) : ∃ brk rest, Begins text (firstLine text) brk rest := by
  by_cases hfeed : '\n' ∈ text
  · have hsplit := List.takeWhile_append_dropWhile (p := (· ≠ '\n')) (l := text)
    cases htail : text.dropWhile (· ≠ '\n') with
    | nil =>
        rw [htail, List.append_nil] at hsplit
        have := List.mem_takeWhile_imp (hsplit.symm ▸ hfeed)
        simp at this
    | cons c rest =>
        have hc : c = '\n' := by
          have := stops_dropWhile (· ≠ '\n') text
          rw [htail] at this
          simpa using this
        subst hc
        rw [htail] at hsplit
        have hfront : '\n' ∉ text.takeWhile (· ≠ '\n') := by
          intro h
          simpa using List.mem_takeWhile_imp h
        obtain ⟨brk, -, h⟩ := exists_begins_of_append hfront rest
        rw [firstLine, if_pos hfeed]
        rw [hsplit] at h
        exact ⟨brk, rest, h⟩
  · exact ⟨.none, [], by simp [firstLine, hfeed, Break.text], by simp [firstLine, hfeed],
      fun _ => rfl, by simp⟩

namespace Begins

variable {text line rest : Text} {brk : Break}

/-- A text that goes on after its first line has a newline before what follows. -/
theorem eq_append (h : Begins text line brk rest) (hbrk : brk ≠ .none) :
    ∃ front, '\n' ∉ front ∧ Window.dropReturn front = line ∧ text = front ++ '\n' :: rest ∧
      byteSize front + 1 = byteSize line + byteSize brk.text := by
  cases brk with
  | none => exact absurd rfl hbrk
  | feed =>
      exact ⟨line, h.noFeed, dropReturn_eq_self (h.noReturn rfl), by simp [h.eq, Break.text], rfl⟩
  | returnFeed =>
      refine ⟨line ++ ['\r'], ?_, dropReturn_append_return line, by simp [h.eq, Break.text], ?_⟩
      · simpa using h.noFeed
      · simp only [byteSize_append]
        rfl

theorem eq_line (h : Begins text line .none rest) : text = line := by
  simpa [Break.text, h.last rfl] using h.eq

theorem firstLine_eq (h : Begins text line brk rest) : firstLine text = line := by
  by_cases hbrk : brk = .none
  · subst hbrk
    have hline := h.eq_line
    subst hline
    exact if_neg h.noFeed
  · obtain ⟨front, hfront, hline, rfl, -⟩ := h.eq_append hbrk
    have hrun : (front ++ '\n' :: rest).takeWhile (· ≠ '\n') = front :=
      takeWhile_run (by
        intro c hc
        simpa using fun heq : c = '\n' => hfront (heq ▸ hc)) (by simp)
    rw [firstLine, if_pos (by simp), hrun, hline]

theorem unique {line' rest' : Text} {brk' : Break} (h : Begins text line brk rest)
    (h' : Begins text line' brk' rest') :
    line = line' ∧ brk = brk' ∧ rest = rest' := by
  obtain rfl : line = line' := h.firstLine_eq.symm.trans h'.firstLine_eq
  have hrest := List.append_cancel_left (h.eq.symm.trans h'.eq)
  refine ⟨rfl, ?_⟩
  cases brk with
  | none =>
      obtain rfl := h.last rfl
      cases brk' <;> simp_all [Break.text]
  | feed =>
      cases brk' with
      | none => simp [Break.text, h'.last rfl] at hrest
      | feed => simpa [Break.text] using hrest
      | returnFeed => simp [Break.text] at hrest
  | returnFeed =>
      cases brk' with
      | none => simp [Break.text, h'.last rfl] at hrest
      | feed => simp [Break.text] at hrest
      | returnFeed => simpa [Break.text] using hrest

theorem lines_eq (h : Begins text line brk rest) :
    lines text = line :: if brk = .none then [] else lines rest := by
  by_cases hbrk : brk = .none
  · subst hbrk
    have hline := h.eq_line
    subst hline
    simp [lines, List.splitOn_eq_singleton h.noFeed]
  · obtain ⟨front, hfront, hline, rfl, -⟩ := h.eq_append hbrk
    rw [if_neg hbrk, lines, List.splitOn_append_cons_self_of_not_mem hfront, ← hline]
    obtain ⟨piece, pieces, hpieces⟩ := List.exists_cons_of_ne_nil (List.splitOn_ne_nil '\n' rest)
    simp [lines, hpieces]

theorem length_lt (h : Begins text line brk rest) (hbrk : brk ≠ .none) :
    rest.length < text.length := by
  obtain ⟨front, -, -, rfl, -⟩ := h.eq_append hbrk
  simp only [List.length_append, List.length_cons]
  omega

theorem append_eq (h : Begins text line brk rest) (front : Text) :
    front ++ text = (front ++ (line ++ brk.text)) ++ rest := by
  simp [h.eq]

/-- What stands behind the break of the first line can be continued. -/
theorem append (h : Begins text line brk rest) (hbrk : brk ≠ .none) (b : Text) :
    Begins (text ++ b) line brk (rest ++ b) where
  eq := by simp [h.eq]
  noFeed := h.noFeed
  last := fun hnone => absurd hnone hbrk
  noReturn := h.noReturn

/-- The first line of a text with a newline at its end has a break behind it. -/
theorem brk_ne_none (h : Begins text line brk rest) (hend : text.getLast? = some '\n') :
    brk ≠ .none := by
  rintro rfl
  rw [h.eq_line] at hend
  exact h.noFeed (List.mem_of_getLast? hend)

theorem getLast?_rest (h : Begins text line brk rest) (hend : text.getLast? = some '\n')
    (hrest : rest ≠ []) : rest.getLast? = some '\n' := by
  obtain ⟨front, -, -, rfl, -⟩ := h.eq_append (h.brk_ne_none hend)
  obtain ⟨c, cs, rfl⟩ := List.exists_cons_of_ne_nil hrest
  simpa [List.getLast?_append] using hend

end Begins

theorem newline_notMem_of_mem_lines {text line : Text} (h : line ∈ lines text) : '\n' ∉ line := by
  obtain ⟨brk, rest, hbegins⟩ := exists_begins text
  rw [hbegins.lines_eq, List.mem_cons] at h
  rcases h with rfl | h
  · exact hbegins.noFeed
  · by_cases hbrk : brk = .none
    · simp [hbrk] at h
    · rw [if_neg hbrk] at h
      have hlt := hbegins.length_lt hbrk
      exact newline_notMem_of_mem_lines h
termination_by text.length

theorem splitOn_flatMap {ls : List Text} (h : ∀ line ∈ ls, '\n' ∉ line) :
    (ls.flatMap (· ++ ['\n'])).splitOn '\n' = ls ++ [[]] := by
  induction ls with
  | nil => rfl
  | cons line ls ih =>
      rw [List.forall_mem_cons] at h
      rw [List.flatMap_cons, List.append_assoc, List.singleton_append,
        List.splitOn_append_cons_self_of_not_mem h.1, ih h.2, List.cons_append]

theorem count_flatMap {ls : List Text} (h : ∀ line ∈ ls, '\n' ∉ line) :
    (ls.flatMap (· ++ ['\n'])).count '\n' = ls.length := by
  induction ls with
  | nil => rfl
  | cons line ls ih =>
      rw [List.forall_mem_cons] at h
      rw [List.flatMap_cons, List.count_append, List.count_append, ih h.2,
        List.count_eq_zero_of_not_mem h.1, List.length_cons, List.count_singleton_self]
      omega

theorem lines_flatMap {ls : List Text} (h : ∀ line ∈ ls, '\n' ∉ line ∧ '\r' ∉ line) :
    lines (ls.flatMap (· ++ ['\n'])) = ls ++ [[]] := by
  have hreturns : ls.map Window.dropReturn = ls.map id := by
    refine List.map_congr_left fun line hline => dropReturn_eq_self fun hlast => ?_
    exact (h line hline).2 (List.mem_of_getLast? hlast)
  rw [lines, splitOn_flatMap fun line hline => (h line hline).1, List.dropLast_concat, hreturns,
    List.map_id, List.getLastD_concat]

/-- In a text that begins with `front`, line `i`, counted from zero, starts behind `front`. -/
structure StartsLine (front : Text) (i : Nat) : Prop where
  edge : front = [] ∨ front.getLast? = some '\n'
  count : front.count '\n' = i

theorem startsLine_nil : StartsLine [] 0 := ⟨.inl rfl, rfl⟩

theorem StartsLine.append {a b : Text} {i j : Nat} (ha : StartsLine a i) (hb : StartsLine b j) :
    StartsLine (a ++ b) (i + j) where
  edge := by
    rcases hb.edge with rfl | hlast
    · simpa using ha.edge
    · exact .inr (by rw [List.getLast?_append, hlast]; rfl)
  count := by rw [List.count_append, ha.count, hb.count]

theorem Begins.startsLine {text line rest : Text} {brk : Break} (h : Begins text line brk rest)
    (hbrk : brk ≠ .none) : StartsLine (line ++ brk.text) 1 := by
  have hline : line.count '\n' = 0 := List.count_eq_zero_of_not_mem h.noFeed
  cases brk with
  | none => exact absurd rfl hbrk
  | feed => exact ⟨.inr (by simp [Break.text]), by simp [Break.text, hline]⟩
  | returnFeed => exact ⟨.inr (by simp [Break.text]), by simp [Break.text, hline]⟩

end RuleLexer.Text

namespace RuleLexer.LineTable

open Text

theorem newlineEnds_append (offset : Nat) (a b : Text) :
    newlineEnds offset (a ++ b) = newlineEnds offset a ++ newlineEnds (offset + byteSize a) b := by
  induction a generalizing offset with
  | nil => simp [newlineEnds]
  | cons c a ih =>
      by_cases hc : c = '\n'
      · subst hc
        have : Char.utf8Size '\n' = 1 := rfl
        simp [newlineEnds, ih, this, Nat.add_assoc]
      · simp [newlineEnds, ih, hc, Nat.add_assoc]

theorem newlineEnds_of_not_mem {text : Text} (h : '\n' ∉ text) (offset : Nat) :
    newlineEnds offset text = [] := by
  induction text generalizing offset with
  | nil => rfl
  | cons c text ih =>
      simp only [List.mem_cons, not_or] at h
      rw [newlineEnds, if_neg (Ne.symm h.1), ih h.2]

theorem newlineEnds_of_begins {text line rest : Text} {brk : Break} (h : Begins text line brk rest)
    (offset : Nat) :
    newlineEnds offset text = if brk = .none then []
      else (offset + byteSize (line ++ brk.text)) ::
        newlineEnds (offset + byteSize (line ++ brk.text)) rest := by
  by_cases hbrk : brk = .none
  · subst hbrk
    rw [h.eq_line, newlineEnds_of_not_mem h.noFeed, if_pos rfl]
  · obtain ⟨front, hfront, -, rfl, hsize⟩ := h.eq_append hbrk
    rw [if_neg hbrk, newlineEnds_append, newlineEnds_of_not_mem hfront, byteSize_append, ← hsize]
    simp [newlineEnds, Nat.add_assoc]

theorem lt_of_mem_newlineEnds {offset n : Nat} {text : Text} (h : n ∈ newlineEnds offset text) :
    offset < n := by
  induction text generalizing offset with
  | nil => simp [newlineEnds] at h
  | cons c text ih =>
      by_cases hc : c = '\n'
      · simp only [newlineEnds, hc, if_true, List.mem_cons] at h
        rcases h with rfl | h
        · exact Nat.lt_succ_self _
        · exact Nat.lt_of_succ_lt (ih h)
      · simp only [newlineEnds, hc, if_false] at h
        exact Nat.lt_of_le_of_lt (Nat.le_add_right _ _) (ih h)

theorem le_of_mem_newlineEnds {offset n : Nat} {text : Text} (h : n ∈ newlineEnds offset text) :
    n ≤ offset + byteSize text := by
  induction text generalizing offset with
  | nil => simp [newlineEnds] at h
  | cons c text ih =>
      have hsize : Char.utf8Size '\n' = 1 := rfl
      by_cases hc : c = '\n'
      · simp only [newlineEnds, hc, if_true, List.mem_cons] at h
        rcases h with rfl | h
        · simp only [hc, byteSize_cons, hsize]
          omega
        · have := ih h
          simp only [hc, byteSize_cons, hsize]
          omega
      · simp only [newlineEnds, hc, if_false] at h
        have := ih h
        simp only [byteSize_cons]
        omega

theorem newlineEnds_pairwise (offset : Nat) (text : Text) :
    (newlineEnds offset text).Pairwise (· < ·) := by
  induction text generalizing offset with
  | nil => exact List.Pairwise.nil
  | cons c text ih =>
      by_cases hc : c = '\n'
      · simp only [newlineEnds, hc, if_true, List.pairwise_cons]
        exact ⟨fun n hn => lt_of_mem_newlineEnds hn, ih _⟩
      · simp only [newlineEnds, hc, if_false]
        exact ih _

theorem starts_pairwise (text : Text) : (ofText text).starts.Pairwise (· < ·) :=
  List.pairwise_cons.mpr ⟨fun _ h => lt_of_mem_newlineEnds h, newlineEnds_pairwise 0 text⟩

theorem countP_le_of_pairwise {starts : List Nat} (h : starts.Pairwise (· < ·)) {k n : Nat}
    (hk : starts[k]? = some n) : starts.countP (· ≤ n) = k + 1 := by
  induction starts generalizing k with
  | nil => simp at hk
  | cons m starts ih =>
      rw [List.pairwise_cons] at h
      cases k with
      | zero =>
          obtain rfl : m = n := by simpa using hk
          have : starts.countP (· ≤ m) = 0 := by
            rw [List.countP_eq_zero]
            intro a ha
            simpa using h.1 a ha
          simp [this]
      | succ k =>
          have hk' : starts[k]? = some n := by simpa using hk
          have hm : m ≤ n := Nat.le_of_lt (h.1 n (List.mem_of_getElem? hk'))
          rw [List.countP_cons_of_pos (by simpa using hm), ih h.2 hk']

theorem length_newlineEnds (offset : Nat) (text : Text) :
    (newlineEnds offset text).length = text.count '\n' := by
  induction text generalizing offset with
  | nil => rfl
  | cons c text ih =>
      by_cases hc : c = '\n'
      · simp [newlineEnds, hc, ih]
      · simp [newlineEnds, hc, ih]

theorem starts_of_startsLine {front : Text} {i : Nat} (h : StartsLine front i) (rest : Text) :
    (ofText (front ++ rest)).starts[i]? = some (byteSize front) := by
  obtain ⟨hedge, rfl⟩ := h
  rcases hedge with rfl | hlast
  · rfl
  · obtain ⟨before, rfl⟩ := List.getLast?_eq_some_iff.mp hlast
    have hsize : Char.utf8Size '\n' = 1 := rfl
    have hlength := length_newlineEnds 0 before
    simp [ofText, newlineEnds_append, newlineEnds, hsize, ← hlength]

/-- Every place on a line has that line's number. -/
theorem lineOf_of_startsLine {front a : Text} {i : Nat} (h : StartsLine front i) (ha : '\n' ∉ a)
    (rest : Text) :
    (ofText (front ++ (a ++ rest))).lineOf (byteSize front + byteSize a) = i + 1 := by
  have hfront : (newlineEnds 0 front).countP (· ≤ byteSize front + byteSize a) = i := by
    rw [List.countP_eq_length.mpr, length_newlineEnds, h.count]
    intro n hn
    have := le_of_mem_newlineEnds hn
    simp only [decide_eq_true_eq]
    omega
  have hrest : (newlineEnds (byteSize front + byteSize a) rest).countP
      (· ≤ byteSize front + byteSize a) = 0 := by
    rw [List.countP_eq_zero]
    intro n hn
    have := lt_of_mem_newlineEnds hn
    simp only [decide_eq_true_eq]
    omega
  have hstarts : (ofText (front ++ (a ++ rest))).starts =
      0 :: (newlineEnds 0 front ++ newlineEnds (byteSize front + byteSize a) rest) := by
    rw [ofText, newlineEnds_append, newlineEnds_append, newlineEnds_of_not_mem ha]
    simp
  rw [lineOf, hstarts, List.countP_cons_of_pos (by simp), List.countP_append, hfront, hrest]
  omega

/-- The place of a line's start is that line's number and column one. -/
theorem lineCol_start {text : Text} {k n : Nat} (h : (ofText text).starts[k]? = some n) :
    (ofText text).lineCol text n = (k + 1, 1) := by
  have hline : (ofText text).lineOf n = k + 1 := by
    rw [lineOf, countP_le_of_pairwise (starts_pairwise text) h]
    omega
  have hempty : between? text ⟨n, min n (byteSize text)⟩ = some [] ∨
      between? text ⟨n, min n (byteSize text)⟩ = none := by
    unfold between?
    split
    · rename_i hle
      have hn : min n (byteSize text) - n = 0 := by omega
      simp only [hn, takeBytes?_zero]
      cases dropBytes? text n <;> simp
    · exact .inr rfl
  simp only [lineCol, hline, Nat.add_sub_cancel, h, Option.getD_some, Prod.mk.injEq, true_and]
  rcases hempty with hempty | hempty <;> simp [hempty]

end RuleLexer.LineTable
