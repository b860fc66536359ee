import RuleLexer.Pattern.Escape
import RuleLexer.Proofs.Text.Runs
import RuleLexer.Text.Quoted
import Mathlib.Tactic.SplitIfs

/-!
# Reading quoted texts and numbers

A quoted text is read back character by character, because no form of a
character goes on in the form of another one. The digits of a number give
the number back. Neither a quoted text nor a number has a newline, so each
stands on one line.
-/

namespace RuleLexer.Text

open Pattern.Escape (hexDigit?)

section Numbers

variable {n : Nat} {c : Char}

theorem isDigit_of_mem_decimal (h : c ∈ decimal n) : c.isDigit = true :=
  Nat.isDigit_of_mem_toDigits (by decide) (by decide) h

theorem notMem_decimal (hc : c.isDigit = false) (n : Nat) : c ∉ decimal n := by
  intro hmem
  rw [isDigit_of_mem_decimal hmem] at hc
  exact absurd hc (by simp)

theorem decimal_ne_nil (n : Nat) : decimal n ≠ [] := Nat.toDigits_ne_nil

theorem ofDigitChars_decimal (n : Nat) : Nat.ofDigitChars 10 (decimal n) 0 = n :=
  Nat.ofDigitChars_ten_toDigits

/-- A number is read up to what is no digit. -/
theorem takeWhile_decimal (n : Nat) {rest : Text} (hrest : Stops Char.isDigit rest) :
    (decimal n ++ rest).takeWhile Char.isDigit = decimal n :=
  takeWhile_run (fun _ => isDigit_of_mem_decimal) hrest

theorem dropWhile_decimal (n : Nat) {rest : Text} (hrest : Stops Char.isDigit rest) :
    (decimal n ++ rest).dropWhile Char.isDigit = rest :=
  dropWhile_run (fun _ => isDigit_of_mem_decimal) hrest

theorem decimal_append_inj {m : Nat} {a b : Text} (ha : Stops Char.isDigit a)
    (hb : Stops Char.isDigit b) (h : decimal n ++ a = decimal m ++ b) : n = m ∧ a = b := by
  have hdigits := congrArg (List.takeWhile Char.isDigit) h
  have hrest := congrArg (List.dropWhile Char.isDigit) h
  rw [takeWhile_decimal n ha, takeWhile_decimal m hb] at hdigits
  rw [dropWhile_decimal n ha, dropWhile_decimal m hb] at hrest
  refine ⟨?_, hrest⟩
  rw [← ofDigitChars_decimal n, hdigits, ofDigitChars_decimal]

/-- A number has no zero in front of its other digits. -/
theorem eq_nil_of_decimal {digits : Text} (h : decimal n = '0' :: digits) : digits = [] := by
  induction n using Nat.strongRecOn generalizing digits with
  | ind n ih =>
      by_cases hn : n < 10
      · rw [decimal, Nat.toDigits_of_lt_base hn] at h
        exact (List.cons.inj h).2.symm
      · obtain ⟨first, more, hfront⟩ := List.exists_cons_of_ne_nil (decimal_ne_nil (n / 10))
        have hsplit : decimal n = decimal (n / 10) ++ [(n % 10).digitChar] :=
          Nat.toDigits_of_base_le (by decide) (by omega)
        rw [hsplit, hfront] at h
        obtain rfl : first = '0' := (List.cons.inj h).1
        have hzero := ofDigitChars_decimal (n / 10)
        rw [hfront, ih (n / 10) (by omega) hfront] at hzero
        have hvalue : Nat.ofDigitChars 10 ['0'] 0 = 0 := rfl
        omega

theorem hexDigit?_digitChar (h : n < 16) : hexDigit? n.digitChar = some n := by
  have hall : ∀ n < 16, hexDigit? (Nat.digitChar n) = some n := by decide
  exact hall n h

theorem hexadecimal_of_lt (h : n < 16) : hexadecimal n = [n.digitChar] :=
  Nat.toDigits_of_lt_base h

theorem hexadecimal_of_le (h : 16 ≤ n) :
    hexadecimal n = hexadecimal (n / 16) ++ [(n % 16).digitChar] :=
  Nat.toDigits_of_base_le (by decide) h

theorem exists_digitChar_of_mem (h : c ∈ hexadecimal n) : ∃ d < 16, c = Nat.digitChar d := by
  induction n using Nat.strongRecOn with
  | ind n ih =>
      by_cases hn : n < 16
      · rw [hexadecimal_of_lt hn, List.mem_singleton] at h
        exact ⟨n, hn, h⟩
      · rw [hexadecimal_of_le (by omega), List.mem_append, List.mem_singleton] at h
        rcases h with h | rfl
        · exact ih (n / 16) (by omega) h
        · exact ⟨n % 16, by omega, rfl⟩

end Numbers

/-- How far a reader has come in the form of a character. -/
inductive EscapeState where
  | start
  | backslash
  /-- Behind the letter that announces a code point. -/
  | letter
  /-- Among the digits of a code point, of which those so far have this value. -/
  | code (value : Nat)

/-- The character that stands for another one behind a backslash. -/
def ofEscape? (c : Char) : Option Char :=
  match c with
  | 't' => some '\t'
  | 'r' => some '\r'
  | 'n' => some '\n'
  | '0' => some '\x00'
  | '\\' => some '\\'
  | '"' => some '"'
  | '\'' => some '\''
  | _ => none

/-- The text up to the closing mark, which must be the last character. -/
def readQuoted : EscapeState → Text → Option Text
  | _, [] => none
  | .start, c :: rest =>
      if c = '"' then (if rest = [] then some [] else none)
      else if c = '\\' then readQuoted .backslash rest
      else (readQuoted .start rest).map (c :: ·)
  | .backslash, c :: rest =>
      if c = 'u' then readQuoted .letter rest
      else (ofEscape? c).bind fun d => (readQuoted .start rest).map (d :: ·)
  | .letter, c :: rest => if c = '\x7b' then readQuoted (.code 0) rest else none
  | .code value, c :: rest =>
      if c = '\x7d' then (readQuoted .start rest).map (Char.ofNat value :: ·)
      else (hexDigit? c).bind fun d => readQuoted (.code (16 * value + d)) rest

/-- The text that stands between the marks of a quoted text. -/
def unquote? : Text → Option Text
  | [] => none
  | c :: rest => if c = '"' then readQuoted .start rest else none

theorem readQuoted_hexadecimal (n : Nat) (rest : Text) :
    readQuoted (.code 0) (hexadecimal n ++ rest) = readQuoted (.code n) rest := by
  induction n using Nat.strongRecOn generalizing rest with
  | ind n ih =>
      have hstep (value d : Nat) (hd : d < 16) : readQuoted (.code value) (d.digitChar :: rest) =
          readQuoted (.code (16 * value + d)) rest := by
        have hbrace : ∀ d < 16, Nat.digitChar d ≠ '\x7d' := by decide
        rw [readQuoted, if_neg (hbrace d hd), hexDigit?_digitChar hd, Option.bind_some]
      by_cases hn : n < 16
      · rw [hexadecimal_of_lt hn, List.singleton_append, hstep 0 n hn, Nat.mul_zero, Nat.zero_add]
      · rw [hexadecimal_of_le (by omega), List.append_assoc, ih (n / 16) (by omega),
          List.singleton_append, hstep _ _ (by omega), Nat.div_add_mod]

theorem readQuoted_escapeChar (c : Char) (rest : Text) :
    readQuoted .start (escapeChar '"' c ++ rest) = (readQuoted .start rest).map (c :: ·) := by
  unfold escapeChar
  split_ifs with htab hreturn hfeed hzero hbackslash hquote hprintable
  · subst htab
    rfl
  · subst hreturn
    rfl
  · subst hfeed
    rfl
  · subst hzero
    rfl
  · subst hbackslash
    rfl
  · subst hquote
    rfl
  · rw [List.singleton_append, readQuoted, if_neg hquote, if_neg hbackslash]
  · have hcode :
        readQuoted .start (['\\', 'u', '\x7b'] ++ hexadecimal c.toNat ++ ['\x7d'] ++ rest) =
        readQuoted (.code 0) (hexadecimal c.toNat ++ '\x7d' :: rest) := by
      simp [readQuoted]
    rw [hcode, readQuoted_hexadecimal, readQuoted, if_pos rfl, Char.ofNat_toNat]

theorem unquote?_quote (text : Text) : unquote? (quote text) = some text := by
  have hread : readQuoted .start (text.flatMap (escapeChar '"') ++ ['"']) = some text := by
    induction text with
    | nil => rfl
    | cons c text ih =>
        rw [List.flatMap_cons, List.append_assoc, readQuoted_escapeChar, ih]
        rfl
  rw [quote, List.cons_append, unquote?, if_pos rfl, hread]

example : unquote? "\"\\u\x7b2028\x7d\\t\\\"é\"".toList = some "\u2028\t\"é".toList := by decide

theorem newline_notMem_escapeChar (c : Char) : '\n' ∉ escapeChar '"' c := by
  unfold escapeChar
  split_ifs with htab hreturn hfeed hzero hbackslash hquote hprintable
  -- Two forms depend on the character.
  any_goals decide
  · rw [List.mem_singleton]
    exact Ne.symm hfeed
  · have hdigit : '\n' ∉ hexadecimal c.toNat := by
      intro hmem
      obtain ⟨d, hd, heq⟩ := exists_digitChar_of_mem hmem
      have hall : ∀ d < 16, '\n' ≠ Nat.digitChar d := by decide
      exact hall d hd heq
    simp [hdigit]

theorem newline_notMem_quote (text : Text) : '\n' ∉ quote text := by
  simp [quote, newline_notMem_escapeChar]

end RuleLexer.Text
