import RuleLexer.Text.Span

/-!
# Byte positions in a text

Positions count the bytes of the UTF-8 form. `dropBytes?` and `takeBytes?` cut a
text at a byte position and fail when the position lies within a character or past
the end, so a position at which both succeed is a character boundary.
-/

namespace RuleLexer.Text

def byteSize : Text → Nat
  | [] => 0
  | c :: rest => c.utf8Size + byteSize rest

@[simp] theorem byteSize_nil : byteSize [] = 0 := rfl

@[simp] theorem byteSize_cons (c : Char) (rest : Text) :
    byteSize (c :: rest) = c.utf8Size + byteSize rest := rfl

@[simp] theorem byteSize_append (a b : Text) : byteSize (a ++ b) = byteSize a + byteSize b := by
  induction a with
  | nil => simp
  | cons c a ih => simp [ih, Nat.add_assoc]

theorem byteSize_eq_zero {a : Text} : byteSize a = 0 ↔ a = [] := by
  cases a with
  | nil => simp
  | cons c a =>
      have := c.utf8Size_pos
      simp only [byteSize_cons, reduceCtorEq, iff_false]
      omega

/-- What follows the first `n` bytes, if these are whole characters. -/
def dropBytes? : Text → Nat → Option Text
  | text, 0 => some text
  | [], _ + 1 => none
  | c :: rest, n + 1 =>
      if c.utf8Size ≤ n + 1 then dropBytes? rest (n + 1 - c.utf8Size) else none

/-- The first `n` bytes, if these are whole characters. -/
def takeBytes? : Text → Nat → Option Text
  | _, 0 => some []
  | [], _ + 1 => none
  | c :: rest, n + 1 =>
      if c.utf8Size ≤ n + 1 then (takeBytes? rest (n + 1 - c.utf8Size)).map (c :: ·) else none

@[simp] theorem dropBytes?_zero (text : Text) : dropBytes? text 0 = some text := by
  cases text <;> rfl

@[simp] theorem takeBytes?_zero (text : Text) : takeBytes? text 0 = some [] := by
  cases text <;> rfl

theorem dropBytes?_eq_some {text rest : Text} {n : Nat} :
    dropBytes? text n = some rest ↔ ∃ front, text = front ++ rest ∧ byteSize front = n := by
  induction text generalizing n with
  | nil =>
      cases n with
      | zero =>
          simp only [dropBytes?_zero, Option.some.injEq, byteSize_eq_zero]
          constructor
          · rintro rfl
            exact ⟨[], rfl, rfl⟩
          · rintro ⟨front, h, rfl⟩
            simpa using h
      | succ n =>
          simp only [dropBytes?, reduceCtorEq, false_iff, not_exists, not_and]
          intro front h
          have := List.append_eq_nil_iff.mp h.symm
          simp [this.1]
  | cons c text ih =>
      cases n with
      | zero =>
          simp only [dropBytes?_zero, Option.some.injEq, byteSize_eq_zero]
          constructor
          · rintro rfl
            exact ⟨[], rfl, rfl⟩
          · rintro ⟨front, h, rfl⟩
            simpa using h
      | succ n =>
          have hpos := c.utf8Size_pos
          simp only [dropBytes?]
          split
          · rename_i hle
            rw [ih]
            constructor
            · rintro ⟨front, rfl, hsize⟩
              exact ⟨c :: front, rfl, by simp only [byteSize_cons]; omega⟩
            · rintro ⟨front, h, hsize⟩
              cases front with
              | nil => simp at hsize
              | cons d front =>
                  simp only [List.cons_append, List.cons.injEq] at h
                  obtain ⟨rfl, rfl⟩ := h
                  exact ⟨front, rfl, by simp only [byteSize_cons] at hsize; omega⟩
          · rename_i hle
            simp only [reduceCtorEq, false_iff, not_exists, not_and]
            intro front h hsize
            cases front with
            | nil => simp at hsize
            | cons d front =>
                simp only [List.cons_append, List.cons.injEq] at h
                obtain ⟨rfl, rfl⟩ := h
                simp only [byteSize_cons] at hsize
                omega

theorem takeBytes?_eq_some {text front : Text} {n : Nat} :
    takeBytes? text n = some front ↔ (∃ rest, text = front ++ rest) ∧ byteSize front = n := by
  induction text generalizing n front with
  | nil =>
      cases n with
      | zero =>
          simp only [takeBytes?_zero, Option.some.injEq, byteSize_eq_zero]
          constructor
          · rintro rfl
            exact ⟨⟨[], rfl⟩, rfl⟩
          · exact fun h => h.2.symm
      | succ n =>
          simp only [takeBytes?, reduceCtorEq, false_iff, not_and]
          rintro ⟨rest, h⟩
          have := List.append_eq_nil_iff.mp h.symm
          simp [this.1]
  | cons c text ih =>
      cases n with
      | zero =>
          simp only [takeBytes?_zero, Option.some.injEq, byteSize_eq_zero]
          constructor
          · rintro rfl
            exact ⟨⟨_, rfl⟩, rfl⟩
          · exact fun h => h.2.symm
      | succ n =>
          have hpos := c.utf8Size_pos
          simp only [takeBytes?]
          split
          · rename_i hle
            simp only [Option.map_eq_some_iff]
            constructor
            · rintro ⟨tail, h, rfl⟩
              obtain ⟨⟨rest, rfl⟩, hsize⟩ := ih.mp h
              exact ⟨⟨rest, rfl⟩, by simp only [byteSize_cons]; omega⟩
            · rintro ⟨⟨rest, h⟩, hsize⟩
              cases front with
              | nil => simp at hsize
              | cons d front =>
                  simp only [List.cons_append, List.cons.injEq] at h
                  obtain ⟨rfl, rfl⟩ := h
                  refine ⟨front, ih.mpr ⟨⟨rest, rfl⟩, ?_⟩, rfl⟩
                  simp only [byteSize_cons] at hsize
                  omega
          · rename_i hle
            simp only [reduceCtorEq, false_iff, not_and]
            rintro ⟨rest, h⟩ hsize
            cases front with
            | nil => simp at hsize
            | cons d front =>
                simp only [List.cons_append, List.cons.injEq] at h
                obtain ⟨rfl, rfl⟩ := h
                simp only [byteSize_cons] at hsize
                omega

/-- The text between two byte positions, and none when the positions are out of order,
past the end or within a character. -/
def between? (text : Text) (s : Span) : Option Text :=
  if s.start ≤ s.stop then
    (dropBytes? text s.start).bind fun rest => takeBytes? rest (s.stop - s.start)
  else none

/-- The byte position is between two characters or at an end of the text. -/
def isBoundary (text : Text) (offset : Nat) : Bool := (dropBytes? text offset).isSome

/-- The text starts with all of `start`. -/
def startsWith (text start : Text) : Bool := start.isPrefixOf text

theorem between?_append {text rest front : Text} {s : Span} {n : Nat}
    (h : between? text s = some (front ++ rest)) (hn : byteSize front = n) :
    between? text ⟨s.start + n, s.stop⟩ = some rest := by
  unfold between? at h ⊢
  split at h
  · rename_i hle
    obtain ⟨tail, htail, htake⟩ := Option.bind_eq_some_iff.mp h
    obtain ⟨before, rfl, hbefore⟩ := dropBytes?_eq_some.mp htail
    obtain ⟨⟨after, rfl⟩, hsize⟩ := takeBytes?_eq_some.mp htake
    simp only [byteSize_append] at hsize
    have hdrop : dropBytes? (before ++ (front ++ rest ++ after)) (s.start + n)
        = some (rest ++ after) :=
      dropBytes?_eq_some.mpr ⟨before ++ front, by simp, by simp [hbefore, hn]⟩
    rw [if_pos (by dsimp only; omega), hdrop]
    exact takeBytes?_eq_some.mpr ⟨⟨after, rfl⟩, by dsimp only; omega⟩
  · simp at h

end RuleLexer.Text
