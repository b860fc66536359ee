import RuleLexer.Proofs.Text.Runs
import RuleLexer.Text.Blank

/-!
# White space around a text

Trimming takes away all blanks around a text that neither begins nor ends
with one.
-/

namespace RuleLexer.Text

variable {a v b : Text}

theorem trim_of_blank (ha : ∀ c ∈ a, isBlank c = true) : trim a = [] := by
  have hstart : trimStart (a ++ []) = [] := dropWhile_run ha stops_nil
  rw [List.append_nil] at hstart
  rw [trim, hstart]
  rfl

theorem trimStart_append (ha : ∀ c ∈ a, isBlank c = true) (hne : v ≠ [])
    (hv : Stops isBlank v) (b : Text) : trimStart (a ++ (v ++ b)) = v ++ b :=
  dropWhile_run ha (stops_append_of_ne_nil hne hv b)

theorem trim_append (ha : ∀ c ∈ a, isBlank c = true) (hb : ∀ c ∈ b, isBlank c = true)
    (hne : v ≠ []) (hfirst : Stops isBlank v) (hlast : Stops isBlank v.reverse) :
    trim (a ++ (v ++ b)) = v := by
  have hdrop : (b.reverse ++ v.reverse).dropWhile isBlank = v.reverse :=
    dropWhile_run (by simpa using hb) hlast
  rw [trim, trimStart_append ha hne hfirst, trimEnd, List.reverse_append, hdrop,
    List.reverse_reverse]

theorem mem_of_mem_trim {text : Text} {c : Char} (h : c ∈ trim text) : c ∈ text := by
  have hstart : c ∈ trimStart text :=
    List.mem_reverse.mp ((List.dropWhile_sublist _).subset (List.mem_reverse.mp h))
  exact (List.dropWhile_sublist _).subset hstart

end RuleLexer.Text
