import RuleLexer.Proofs.Text.Lines

/-!
# Looking up the line of an offset

The line of an offset is the number of line starts up to it. It is found by
halving the table, and it can be told from the text alone, as one more than
the number of newline bytes before the offset. An offset may be within a
character or past the end of the text.
-/

namespace RuleLexer

namespace Text

/-- The bytes of the UTF-8 form. -/
def bytes (text : Text) : List UInt8 := text.flatMap String.utf8EncodeChar

def newlineByte : UInt8 := 10

@[simp] theorem bytes_nil : bytes [] = [] := List.flatMap_nil

@[simp] theorem bytes_cons (c : Char) (rest : Text) :
    bytes (c :: rest) = String.utf8EncodeChar c ++ bytes rest := List.flatMap_cons

@[simp] theorem length_bytes (text : Text) : (bytes text).length = byteSize text := by
  induction text with
  | nil => simp
  | cons c text ih => simp [ih, String.length_utf8EncodeChar]

/-- In the form of a character only the newline itself has a newline byte. -/
theorem newlineByte_mem_utf8EncodeChar {c : Char}
    (h : newlineByte ∈ String.utf8EncodeChar c) : c = '\n' := by
  -- The first byte of a longer form is at least 192, and each further byte is at least 128.
  have hbyte {n k : Nat} (hk : k < 256) (hn : n + k < 256) (hnewline : n + k ≠ 10) :
      UInt8.ofNat (n + k) ≠ newlineByte := by
    intro heq
    have := congrArg UInt8.toNat heq
    simp [newlineByte] at this
    omega
  rw [String.utf8EncodeChar] at h
  have hval : c.val.toNat ≤ 127 := by
    by_contra hlong
    simp only [hlong, if_false] at h
    split at h
    · simp only [List.mem_cons, List.not_mem_nil, or_false] at h
      rcases h with h | h <;> exact hbyte (by omega) (by omega) (by omega) h.symm
    · split at h
      · simp only [List.mem_cons, List.not_mem_nil, or_false] at h
        rcases h with h | h | h <;> exact hbyte (by omega) (by omega) (by omega) h.symm
      · simp only [List.mem_cons, List.not_mem_nil, or_false] at h
        rcases h with h | h | h | h <;> exact hbyte (by omega) (by omega) (by omega) h.symm
  simp only [hval, if_true, List.mem_singleton] at h
  have hten : 10 = c.val.toNat % 256 := by
    simpa [newlineByte] using congrArg UInt8.toNat h
  refine Char.ext (UInt32.toNat_inj.mp ?_)
  rw [show '\n'.val.toNat = 10 from by decide]
  omega

theorem utf8EncodeChar_newline : String.utf8EncodeChar '\n' = [newlineByte] := by decide

end Text

namespace LineTable

open Text

/-- The line starts up to an offset are as many as the newline bytes before it. -/
theorem countP_newlineEnds (start : Nat) (text : Text) (offset : Nat) :
    (newlineEnds start text).countP (· ≤ start + offset) =
      ((bytes text).take offset).count newlineByte := by
  induction text generalizing start offset with
  | nil => simp [newlineEnds]
  | cons c text ih =>
      by_cases hc : c = '\n'
      · subst hc
        rw [newlineEnds, if_pos rfl, bytes_cons, utf8EncodeChar_newline]
        cases offset with
        | zero =>
            rw [List.countP_cons_of_neg (by simp), List.take_zero, List.count_nil,
              List.countP_eq_zero]
            intro n hn
            have := lt_of_mem_newlineEnds hn
            simp only [decide_eq_true_eq]
            omega
        | succ offset =>
            rw [List.countP_cons_of_pos (by simp), List.singleton_append, List.take_succ_cons,
              List.count_cons_self, ← ih (start + 1), Nat.add_right_comm start 1 offset,
              Nat.add_assoc start]
      · have hform : (String.utf8EncodeChar c).count newlineByte = 0 :=
          List.count_eq_zero_of_not_mem fun h => hc (newlineByte_mem_utf8EncodeChar h)
        have hfront : ((String.utf8EncodeChar c).take offset).count newlineByte = 0 :=
          Nat.le_zero.mp (hform ▸ (List.take_sublist _ _).count_le _)
        rw [newlineEnds, if_neg hc, bytes_cons, List.take_append, List.count_append, hfront,
          String.length_utf8EncodeChar, Nat.zero_add, ← ih (start + c.utf8Size)]
        by_cases hwithin : offset ≤ c.utf8Size
        · -- No line starts up to an offset within the first character or right behind it.
          have hnone {limit : Nat} (hlimit : limit ≤ start + c.utf8Size) :
              (newlineEnds (start + c.utf8Size) text).countP (· ≤ limit) = 0 := by
            rw [List.countP_eq_zero]
            intro n hn
            have := lt_of_mem_newlineEnds hn
            simp only [decide_eq_true_eq]
            omega
          rw [hnone (by omega), hnone (by omega)]
        · rw [show start + c.utf8Size + (offset - c.utf8Size) = start + offset by omega]

theorem lineOf_eq_count (text : Text) (offset : Nat) :
    (ofText text).lineOf offset = 1 + ((bytes text).take offset).count newlineByte := by
  have hcount := countP_newlineEnds 0 text offset
  rw [Nat.zero_add] at hcount
  rw [lineOf, ofText, List.countP_cons_of_pos (by simp), hcount]
  omega

theorem lineOf_le_lineCount (text : Text) (offset : Nat) :
    (ofText text).lineOf offset ≤ (ofText text).lineCount := by
  have hcount : (ofText text).starts.countP (· ≤ offset) ≤ (ofText text).starts.length :=
    List.countP_le_length
  have hpos : 0 < (ofText text).starts.length := by simp [ofText]
  rw [lineOf, lineCount]
  omega

theorem lineOf_mono (table : LineTable) {a b : Nat} (h : a ≤ b) :
    table.lineOf a ≤ table.lineOf b := by
  have hcount : table.starts.countP (· ≤ a) ≤ table.starts.countP (· ≤ b) := by
    refine List.countP_mono_left fun n _ hn => ?_
    simp only [decide_eq_true_eq] at hn ⊢
    omega
  rw [lineOf, lineOf]
  omega

/-- Halves a range of `size` starts from position `base` on until one start is left. The first half
is given up if the middle start is not behind the offset, and the second half if it is. -/
def halve (starts : List Nat) (offset base size : Nat) : Nat :=
  if 1 < size then
    if starts.getD (base + size / 2) 0 ≤ offset then
      halve starts offset (base + size / 2) (size - size / 2)
    else halve starts offset base (size - size / 2)
  else base
termination_by size

/-- The position of the offset among the starts, or else the one where it can be inserted. -/
def search (table : LineTable) (offset : Nat) : Except Nat Nat :=
  let base := halve table.starts offset 0 table.starts.length
  match table.starts[base]? with
  | none => .error 0
  | some start =>
      if start = offset then .ok base
      else .error (if start < offset then base + 1 else base)

/-- The line that a search finds: that of the start itself, or of the last start before it. -/
def searchLine (table : LineTable) (offset : Nat) : Nat :=
  match table.search offset with
  | .ok exact => exact + 1
  | .error insertion => insertion - 1 + 1

/-- In increasing starts, exactly those before position `k` are up to the offset. -/
theorem countP_le_eq {starts : List Nat} {offset k : Nat}
    (hk : k ≤ starts.length) (hbelow : ∀ i (h : i < starts.length), i < k → starts[i] ≤ offset)
    (habove : ∀ i (h : i < starts.length), k ≤ i → offset < starts[i]) :
    starts.countP (· ≤ offset) = k := by
  have hfront : (starts.take k).countP (· ≤ offset) = k := by
    rw [List.countP_eq_length.mpr, List.length_take, Nat.min_eq_left hk]
    intro n hn
    obtain ⟨i, hi, rfl⟩ := List.getElem_of_mem hn
    rw [List.length_take] at hi
    simpa using hbelow i (by omega) (by omega)
  have hback : (starts.drop k).countP (· ≤ offset) = 0 := by
    rw [List.countP_eq_zero]
    intro n hn
    obtain ⟨i, hi, rfl⟩ := List.getElem_of_mem hn
    rw [List.length_drop] at hi
    simpa using habove (k + i) (by omega) (by omega)
  rw [← List.take_append_drop k starts, List.countP_append, hfront, hback, Nat.add_zero]

/-- Halving keeps the last start up to the offset within its range, if there is one. -/
theorem halve_spec {starts : List Nat} (hsorted : starts.Pairwise (· < ·))
    (offset base size : Nat) (hpos : 0 < size) (hrange : base + size ≤ starts.length)
    (hbelow : ∀ i (h : i < starts.length), i < base → starts[i] ≤ offset)
    (habove : ∀ i (h : i < starts.length), base + size ≤ i → offset < starts[i]) :
    halve starts offset base size < starts.length ∧
      (∀ i (hi : i < starts.length), i < halve starts offset base size → starts[i] ≤ offset) ∧
      ∀ i (hi : i < starts.length), halve starts offset base size < i → offset < starts[i] := by
  have hmono {i j : Nat} (hi : i < starts.length) (hj : j < starts.length) (hij : i ≤ j) :
      starts[i] ≤ starts[j] := by
    rcases Nat.lt_or_eq_of_le hij with hlt | rfl
    · exact Nat.le_of_lt (List.pairwise_iff_getElem.mp hsorted i j hi hj hlt)
    · exact Nat.le_refl _
  induction size using Nat.strongRecOn generalizing base with
  | ind size ih =>
      rw [halve]
      split
      · rename_i hsize
        have hmiddle : base + size / 2 < starts.length := by omega
        rw [List.getD_eq_getElem?_getD, List.getElem?_eq_getElem hmiddle, Option.getD_some]
        split
        · rename_i hle
          refine ih _ (by omega) _ (by omega) (by omega) ?_ ?_
          · intro i hi hlt
            exact Nat.le_trans (hmono hi hmiddle (by omega)) hle
          · intro i hi hge
            exact habove i hi (by omega)
        · rename_i hgt
          refine ih _ (by omega) _ (by omega) (by omega) hbelow ?_
          intro i hi hge
          exact Nat.lt_of_lt_of_le (Nat.lt_of_not_le hgt) (hmono hmiddle hi (by omega))
      · exact ⟨by omega, hbelow, fun i hi hlt => habove i hi (by omega)⟩

/-- Searching an increasing table by halving leads to the number of starts up to the offset. -/
theorem searchLine_eq {table : LineTable} (hsorted : table.starts.Pairwise (· < ·))
    (offset : Nat) : table.searchLine offset = table.lineOf offset := by
  unfold searchLine search lineOf
  cases hlength : table.starts.length with
  | zero =>
      rw [List.length_eq_zero_iff] at hlength
      simp [hlength]
  | succ n =>
      obtain ⟨hbase, hbelow, habove⟩ := halve_spec hsorted offset 0 (n + 1)
        (by omega) (by omega) (by omega) (by omega)
      generalize halve table.starts offset 0 (n + 1) = base at hbase hbelow habove
      simp only [List.getElem?_eq_getElem hbase]
      by_cases hle : table.starts[base] ≤ offset
      · -- The start at `base` counts, so the line is the one that begins there.
        have hcount : table.starts.countP (· ≤ offset) = base + 1 := by
          refine countP_le_eq hbase (fun i hi hlt => ?_) fun i hi hge => habove i hi hge
          rcases Nat.lt_or_eq_of_le (Nat.le_of_lt_succ hlt) with h | rfl
          · exact hbelow i hi h
          · exact hle
        rw [hcount]
        by_cases hexact : table.starts[base] = offset
        · simp [hexact]
        · have hlt : table.starts[base] < offset := by omega
          simp [hexact, hlt]
      · have hcount : table.starts.countP (· ≤ offset) = base := by
          refine countP_le_eq (Nat.le_of_lt hbase) hbelow fun i hi hge => ?_
          rcases Nat.lt_or_eq_of_le hge with h | rfl
          · exact habove i hi h
          · exact Nat.lt_of_not_le hle
        have hexact : table.starts[base] ≠ offset := by omega
        have hlt : ¬table.starts[base] < offset := by omega
        simp only [hexact, hlt, if_false, hcount]
        omega

end LineTable

end RuleLexer
