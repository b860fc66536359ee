import RuleLexer.Text.Span

/-!
# Runs of characters

A text splits in one way into its longest run of characters that satisfy a
predicate and a rest that does not begin with such a character.
-/

namespace RuleLexer.Text

variable {p q : Char → Bool} {a b text : Text}

/-- The text does not begin with a character that satisfies `p`. -/
def Stops (p : Char → Bool) (text : Text) : Prop := ∀ c ∈ text.head?, p c = false

@[simp] theorem stops_nil : Stops p [] := by simp [Stops]

@[simp] theorem stops_cons {c : Char} {rest : Text} : Stops p (c :: rest) ↔ p c = false := by
  simp [Stops]

theorem stops_append (ha : ∀ c ∈ a, p c = false) (hb : Stops p b) : Stops p (a ++ b) := by
  cases a with
  | nil => exact hb
  | cons c a => simpa using ha c

theorem stops_append_of_ne_nil (hne : a ≠ []) (ha : Stops p a) (b : Text) : Stops p (a ++ b) := by
  cases a with
  | nil => exact absurd rfl hne
  | cons c a => exact ha

theorem stops_dropWhile (p : Char → Bool) (text : Text) : Stops p (text.dropWhile p) := by
  induction text with
  | nil => simp
  | cons c text ih =>
      cases hc : p c with
      | false => simp [hc]
      | true => simpa [hc] using ih

theorem takeWhile_eq_nil_iff : text.takeWhile p = [] ↔ Stops p text := by
  cases text with
  | nil => simp
  | cons c text => cases hc : p c <;> simp [hc]

theorem takeWhile_eq_nil (h : Stops p text) : text.takeWhile p = [] := takeWhile_eq_nil_iff.mpr h

theorem dropWhile_eq_self (h : Stops p text) : text.dropWhile p = text := by
  cases text with
  | nil => rfl
  | cons c text => simp [stops_cons.mp h]

theorem takeWhile_append_stops (a : Text) (hb : Stops p b) :
    (a ++ b).takeWhile p = a.takeWhile p := by
  induction a with
  | nil => simpa using takeWhile_eq_nil hb
  | cons c a ih =>
      cases hc : p c with
      | false => simp [hc]
      | true => simp [hc, ih]

theorem takeWhile_run (ha : ∀ c ∈ a, p c = true) (hb : Stops p b) :
    (a ++ b).takeWhile p = a := by
  rw [List.takeWhile_append_of_pos ha, takeWhile_eq_nil hb, List.append_nil]

theorem dropWhile_run (ha : ∀ c ∈ a, p c = true) (hb : Stops p b) :
    (a ++ b).dropWhile p = b := by
  rw [List.dropWhile_append_of_pos ha, dropWhile_eq_self hb]

end RuleLexer.Text
