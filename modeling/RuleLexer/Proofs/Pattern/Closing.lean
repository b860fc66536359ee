import RuleLexer.Pattern.Parser
import RuleLexer.Proofs.Chain

/-!
# Patterns in front of a closing bracket

A group reads its pattern from a text that goes on behind the pattern with a
closing bracket. No part of a pattern looks further than this bracket, and
none that can be read by itself takes the bracket in: it is left behind what
the part leaves. A comment that runs to the end of the text is the exception.
-/

namespace RuleLexer.Pattern

variable {α β γ : Type} {properties : Properties} {flags : Flags} {text rest : Text} {c : Char}

/-- Whatever `x` has read, `y` has read as well, and left a closing bracket behind what `x` left. -/
def Closes (x y : Except Error (α × Text)) : Prop :=
  ∀ a rest, x = .ok (a, rest) → y = .ok (a, rest ++ [')'])

theorem closes_ok (a : α) (rest : Text) : Closes (.ok (a, rest)) (.ok (a, rest ++ [')'])) := by
  intro b rest' h
  cases h
  rfl

theorem closes_error (e : Error) (y : Except Error (α × Text)) : Closes (.error e) y := by
  intro a rest h
  cases h

theorem Closes.bind {x y : Except Error (α × Text)} {f g : α × Text → Except Error (β × Text)}
    (h : Closes x y) (hfg : ∀ a rest, Closes (f (a, rest)) (g (a, rest ++ [')']))) :
    Closes (x >>= f) (y >>= g) := by
  cases x with
  | error e => exact closes_error e _
  | ok found =>
      obtain ⟨a, rest⟩ := found
      rw [h a rest rfl]
      exact hfg a rest

theorem closes_bind (x : Except Error γ) {f g : γ → Except Error (β × Text)}
    (h : ∀ c, Closes (f c) (g c)) : Closes (x >>= f) (x >>= g) := by
  cases x with
  | error e => exact closes_error e _
  | ok c => exact h c

theorem Closes.ite {p : Prop} [Decidable p] {x y x' y' : Except Error (α × Text)}
    (h : Closes x y) (h' : Closes x' y') : Closes (if p then x else x') (if p then y else y') := by
  split
  · exact h
  · exact h'

section Skip

/-- A closing bracket ends blanks, and belongs to a comment. -/
theorem skipSpaced_append (inComment : Bool) (text : Text) :
    skipSpaced inComment (text ++ [')']) = skipSpaced inComment text ++ [')'] ∨
      skipSpaced inComment text = [] ∧ skipSpaced inComment (text ++ [')']) = [] := by
  induction text generalizing inComment with
  | nil => cases inComment <;> decide
  | cons c text ih =>
      simp only [List.cons_append, skipSpaced]
      split
      · exact ih _
      · split
        · exact ih _
        · split
          · exact ih _
          · exact .inl rfl

theorem skip_append (flags : Flags) (text : Text) :
    flags.skip (text ++ [')']) = flags.skip text ++ [')'] ∨
      flags.skip text = [] ∧ flags.skip (text ++ [')']) = [] := by
  unfold Flags.skip
  split
  · exact skipSpaced_append false text
  · exact .inl rfl

theorem skip_append_of_cons (h : flags.skip text = c :: rest) :
    flags.skip (text ++ [')']) = c :: (rest ++ [')']) := by
  rcases skip_append flags text with happend | ⟨hnil, -⟩
  · rw [happend, h, List.cons_append]
  · rw [h] at hnil
    cases hnil

theorem length_skipSpaced_le (inComment : Bool) (text : Text) :
    (skipSpaced inComment text).length ≤ text.length := by
  induction text generalizing inComment with
  | nil => exact Nat.le_refl _
  | cons c text ih =>
      simp only [skipSpaced]
      split
      · exact Nat.le_succ_of_le (ih _)
      · split
        · exact Nat.le_succ_of_le (ih _)
        · split
          · exact Nat.le_succ_of_le (ih _)
          · exact Nat.le_refl _

theorem length_skip_le (flags : Flags) (text : Text) : (flags.skip text).length ≤ text.length := by
  unfold Flags.skip
  split
  · exact length_skipSpaced_le false text
  · exact Nat.le_refl _

theorem peekSpaced_append {inComment : Bool} (h : peekSpaced inComment text = some c) :
    peekSpaced inComment (text ++ [')']) = some c := by
  induction text generalizing inComment with
  | nil => cases h
  | cons d text ih =>
      simp only [List.cons_append, peekSpaced] at h ⊢
      split at h
      · rw [if_pos ‹_›]
        exact ih h
      · rw [if_neg ‹_›]
        split at h
        · rw [if_pos ‹_›]
          exact ih h
        · rw [if_neg ‹_›]
          exact h

theorem peek_append (h : flags.peek text = some c) : flags.peek (text ++ [')']) = some c := by
  unfold Flags.peek at h ⊢
  split at h
  · rw [if_pos ‹_›]
    exact peekSpaced_append h
  · rw [if_neg ‹_›, List.head?_append, h]
    rfl

/-- Where there is nothing to look at, there is nothing but blanks and a comment without text. -/
theorem skipSpaced_of_peekSpaced_none {inComment : Bool} (h : peekSpaced inComment text = none)
    (skipsComment : Bool) : skipSpaced skipsComment text = [] := by
  induction text generalizing inComment skipsComment with
  | nil => rfl
  | cons c text ih =>
      simp only [peekSpaced] at h
      -- A look ahead stays in a comment where a skip has left it, so both are in any state.
      split at h
      · rename_i hblank
        simp only [skipSpaced, hblank, if_true, ih h, ite_self]
      · split at h
        · rename_i hsign
          obtain ⟨-, hc⟩ := Bool.and_eq_true_iff.mp hsign
          simp only [skipSpaced, eq_of_beq hc, if_true, ih h, ite_self]
        · cases h

theorem skip_of_peek_none (h : flags.peek text = none) : flags.skip text = [] := by
  unfold Flags.peek at h
  unfold Flags.skip
  split at h
  · rw [if_pos ‹_›]
    exact skipSpaced_of_peekSpaced_none h false
  · rw [if_neg ‹_›]
    exact List.head?_eq_none_iff.mp h

end Skip

namespace Escape

theorem fixedHex_closes (value count : Nat) (text : Text) :
    Closes (fixedHex flags value count text) (fixedHex flags value count (text ++ [')'])) := by
  induction count generalizing value text with
  | zero => exact closes_ok value text
  | succ count ih =>
      simp only [fixedHex]
      cases hskip : flags.skip text with
      | nil => exact closes_error _ _
      | cons c rest =>
          rw [skip_append_of_cons hskip]
          simp only
          cases hexDigit? c with
          | none => exact closes_error _ _
          | some digit => exact ih _ rest

theorem braced_closes {admits : Char → Bool} {fuel fuel' : Nat} (hfuel : fuel ≤ fuel')
    (name text : Text) :
    Closes (braced flags admits name fuel text)
      (braced flags admits name fuel' (text ++ [')'])) := by
  induction fuel generalizing fuel' name text with
  | zero => exact closes_error _ _
  | succ fuel ih =>
      obtain ⟨fuel', rfl⟩ := Nat.exists_eq_add_of_le' (Nat.one_le_of_lt hfuel)
      simp only [braced]
      cases hskip : flags.skip text with
      | nil => exact closes_error _ _
      | cons c rest =>
          rw [skip_append_of_cons hskip]
          refine (closes_ok _ rest).ite (Closes.ite ?_ (closes_error _ _))
          exact ih (Nat.le_of_succ_le_succ hfuel) _ rest

theorem code_closes (count : Nat) (text : Text) :
    Closes (code flags count text) (code flags count (text ++ [')'])) := by
  unfold code
  cases hskip : flags.skip text with
  | nil => exact closes_error _ _
  | cons c rest =>
      rw [skip_append_of_cons hskip]
      by_cases hc : c = '\x7b'
      · subst hc
        refine (braced_closes (by simp) [] rest).bind fun digits rest => ?_
        exact (closes_error _ _).ite (closes_bind _ fun d => closes_ok _ rest)
      · simp only [hc, List.cons.injEq, false_and, imp_false, not_false_eq_true, implies_true]
        refine (fixedHex_closes 0 count (c :: rest)).bind fun n rest => ?_
        exact closes_bind _ fun d => closes_ok _ rest

theorem boundary_closes (text : Text) :
    Closes (boundary flags text) (boundary flags (text ++ [')'])) := by
  unfold boundary
  cases text with
  | nil => exact closes_ok _ []
  | cons c inner =>
      by_cases hc : c = '\x7b'
      · subst hc
        simp only [List.cons_append]
        cases hskip : flags.skip inner with
        | nil => exact closes_error _ _
        | cons d rest =>
            rw [skip_append_of_cons hskip]
            simp only
            split
            · refine (braced_closes (by simp) [] inner).bind fun name rest => ?_
              exact (closes_ok _ rest).ite <| (closes_ok _ rest).ite <| (closes_ok _ rest).ite <|
                (closes_ok _ rest).ite <| closes_error _ _
            · exact closes_ok _ ('\x7b' :: inner)
      · simp only [List.cons_append, hc, List.cons.injEq, false_and, imp_false,
          not_false_eq_true, implies_true]
        exact closes_ok _ (c :: inner)

theorem namedClass_closes (unicode ascii : CharSet) (negated : Bool) (rest : Text) :
    Closes ((namedClass flags unicode ascii negated).map (·, rest))
      ((namedClass flags unicode ascii negated).map (·, rest ++ [')'])) := by
  cases namedClass flags unicode ascii negated with
  | error e => exact closes_error e _
  | ok element => exact closes_ok element rest

theorem property_closes (negated : Bool) (text : Text) :
    Closes (property properties flags negated text)
      (property properties flags negated (text ++ [')'])) := by
  unfold property
  cases hskip : flags.skip text with
  | nil => exact closes_error _ _
  | cons c rest =>
      rw [skip_append_of_cons hskip]
      by_cases hslash : c = '\\'
      · subst hslash
        exact closes_error _ _
      · by_cases hbrace : c = '\x7b'
        · subst hbrace
          refine (braced_closes (by simp) [] rest).bind fun name rest => ?_
          exact closes_bind _ fun element => closes_ok element rest
        · simp only
          exact closes_bind _ fun element => closes_ok element rest

theorem read_closes (text : Text) :
    Closes (read properties flags text) (read properties flags (text ++ [')'])) := by
  cases text with
  | nil => exact closes_error _ _
  | cons c rest =>
      simp only [List.cons_append, read]
      refine (closes_ok _ rest).ite ?_
      split
      any_goals exact closes_ok _ rest
      any_goals exact closes_error _ _
      any_goals exact namedClass_closes _ _ _ rest
      any_goals exact code_closes _ rest
      any_goals exact property_closes _ rest
      exact boundary_closes rest

end Escape

namespace Brackets

theorem dashes_closes {fuel fuel' : Nat} (hfuel : fuel ≤ fuel') (items : List Nested)
    (text : Text) :
    Closes (dashes flags items fuel text) (dashes flags items fuel' (text ++ [')'])) := by
  induction fuel generalizing fuel' items text with
  | zero => exact closes_error _ _
  | succ fuel ih =>
      obtain ⟨fuel', rfl⟩ := Nat.exists_eq_add_of_le' (Nat.one_le_of_lt hfuel)
      simp only [dashes]
      cases hskip : flags.skip text with
      | nil => exact closes_error _ _
      | cons c rest =>
          rw [skip_append_of_cons hskip]
          exact (ih (Nat.le_of_succ_le_succ hfuel) _ rest).ite (closes_ok items (c :: rest))

theorem opening_closes (text : Text) :
    Closes (opening flags text) (opening flags (text ++ [')'])) := by
  unfold opening
  cases hskip : flags.skip text with
  | nil => exact closes_error _ _
  | cons c rest =>
      rw [skip_append_of_cons hskip]
      have hdashes : Closes
          (dashes flags [] (text.length + 1) (if c == '^' then rest else c :: rest))
          (dashes flags [] ((text ++ [')']).length + 1)
            (if c == '^' then rest ++ [')'] else c :: (rest ++ [')']))) := by
        have hfuel : text.length + 1 ≤ (text ++ [')']).length + 1 := by simp
        cases c == '^' with
        | false => exact dashes_closes hfuel [] (c :: rest)
        | true => exact dashes_closes hfuel [] rest
      refine hdashes.bind fun items rest => ?_
      cases rest with
      | nil => exact closes_ok _ []
      | cons d after =>
          by_cases hd : d = ']'
          · subst hd
            simp only [List.cons_append]
            refine Closes.ite ?_ (closes_ok _ (']' :: after))
            cases hafter : flags.skip after with
            | nil => exact closes_error _ _
            | cons e after =>
                rw [skip_append_of_cons hafter]
                exact closes_ok _ (e :: after)
          · simp only [List.cons_append, hd, List.cons.injEq, false_and, imp_false,
              not_false_eq_true, implies_true]
            exact closes_ok _ (d :: after)

theorem append_of_dropWhile {p : Char → Bool} (h : text.dropWhile p = c :: rest) (behind : Text) :
    (text ++ behind).takeWhile p = text.takeWhile p ∧
      (text ++ behind).dropWhile p = c :: (rest ++ behind) := by
  induction text with
  | nil => cases h
  | cons d text ih =>
      cases hd : p d with
      | false =>
          simp only [List.dropWhile_cons, hd] at h
          cases h
          simp [hd]
      | true =>
          simp only [List.dropWhile_cons, hd, if_true] at h
          simp [hd, ih h]

/-- The name of a class is looked for up to its end, but a closing bracket does not end it. -/
theorem className_append (negated : Bool) (text : Text) :
    (match (text ++ [')']).dropWhile (· ≠ ':') with
      | ':' :: ']' :: rest => (CharSet.asciiClass? ((text ++ [')']).takeWhile (· ≠ ':'))).map
          fun s => (negated, s, rest)
      | _ => none) =
    (match text.dropWhile (· ≠ ':') with
      | ':' :: ']' :: rest => (CharSet.asciiClass? (text.takeWhile (· ≠ ':'))).map
          fun s => (negated, s, rest)
      | _ => none).map fun (negated, s, rest) => (negated, s, rest ++ [')']) := by
  cases hdrop : text.dropWhile (· ≠ ':') with
  | nil =>
      have hnone : (text ++ [')']).dropWhile (· ≠ ':') = [] := by
        rw [List.dropWhile_append, hdrop]
        rfl
      rw [hnone]
      rfl
  | cons c rest =>
      obtain ⟨htake, hdrop'⟩ := append_of_dropWhile hdrop [')']
      rw [htake, hdrop']
      by_cases hc : c = ':'
      · subst hc
        cases rest with
        | nil => rfl
        | cons d rest =>
            by_cases hd : d = ']'
            · subst hd
              cases CharSet.asciiClass? (text.takeWhile (· ≠ ':')) <;> simp
            · simp [hd]
      · simp [hc]

theorem asciiNamed?_append (text : Text) :
    asciiNamed? (text ++ [')']) =
      (asciiNamed? text).map fun (negated, s, rest) => (negated, s, rest ++ [')']) := by
  unfold asciiNamed?
  cases text with
  | nil => rfl
  | cons c text =>
      by_cases hc : c = ':'
      · subst hc
        simp only [List.cons_append]
        cases text with
        | nil => exact className_append false []
        | cons d text =>
            by_cases hd : d = '^'
            · subst hd
              exact className_append true text
            · simp only [List.cons_append, hd, List.cons.injEq, false_and, imp_false,
                not_false_eq_true, implies_true]
              exact className_append false (d :: text)
      · simp [hc]

theorem member_closes (text : Text) :
    Closes (member properties flags text) (member properties flags (text ++ [')'])) := by
  cases text with
  | nil => exact closes_error _ _
  | cons c rest => exact (Escape.read_closes rest).ite (closes_ok _ rest)

/-- A member that is no end of a range, in front of what has been looked at. -/
theorem alone_closes (flags : Flags) (low : Element) (text : Text) : Closes
    (match low with
      | .literal _ _ => do return (CharSet.single (← memberChar flags low), text)
      | .named s => return (s, text)
      | .assert _ => .error .classMember)
    (match low with
      | .literal _ _ => do return (CharSet.single (← memberChar flags low), text ++ [')'])
      | .named s => return (s, text ++ [')'])
      | .assert _ => .error .classMember) := by
  cases low with
  | literal c asByte => exact closes_bind _ fun e => closes_ok _ text
  | named s => exact closes_ok _ text
  | assert a => exact closes_error _ _

theorem memberOrRange_closes (text : Text) :
    Closes (memberOrRange properties flags text)
      (memberOrRange properties flags (text ++ [')'])) := by
  unfold memberOrRange
  refine (member_closes text).bind fun low rest => ?_
  dsimp only
  cases hskip : flags.skip rest with
  | nil => exact closes_error _ _
  | cons d after =>
      rw [skip_append_of_cons hskip]
      have halone := alone_closes flags low (d :: after)
      by_cases hd : d = '-'
      · subst hd
        cases hpeek : flags.peek after with
        | none =>
            simp only [hpeek, skip_of_peek_none hpeek]
            exact closes_error _ _
        | some e =>
            simp only [hpeek, peek_append hpeek]
            refine halone.ite ?_
            cases hnext : flags.skip after with
            | nil => exact closes_error _ _
            | cons e next =>
                rw [skip_append_of_cons hnext]
                refine (member_closes (e :: next)).bind fun high rest => ?_
                refine closes_bind _ fun a => closes_bind _ fun b => ?_
                exact (closes_ok _ rest).ite (closes_error _ _)
      · simp only [hd, List.cons.injEq, false_and, imp_false, not_false_eq_true, implies_true]
        exact halone

/-- What stands in front of a closing bracket begins with two characters if the whole does. -/
theorem cons_cons_of_append {a b : Char} (hb : b ≠ ')') {behind : Text}
    (h : c :: (text ++ [')']) = a :: b :: behind) : ∃ rest, c :: text = a :: b :: rest := by
  cases text with
  | nil =>
      simp only [List.nil_append, List.cons.injEq] at h
      exact absurd h.2.1.symm hb
  | cons d text =>
      simp only [List.cons_append, List.cons.injEq] at h
      obtain ⟨rfl, rfl, -⟩ := h
      exact ⟨text, rfl⟩

theorem readFrom_closes {fuel fuel' : Nat} (hfuel : fuel ≤ fuel') (frame : Frame)
    (outer : List Frame) (text : Text) :
    Closes (readFrom properties flags frame outer fuel text)
      (readFrom properties flags frame outer fuel' (text ++ [')'])) := by
  induction fuel generalizing fuel' frame outer text with
  | zero => exact closes_error _ _
  | succ fuel ih =>
      obtain ⟨fuel', rfl⟩ := Nat.exists_eq_add_of_le' (Nat.one_le_of_lt hfuel)
      have hrest := Nat.le_of_succ_le_succ hfuel
      simp only [readFrom]
      cases hskip : flags.skip text with
      | nil => exact closes_error _ _
      | cons c rest =>
          rw [skip_append_of_cons hskip]
          split
          · contradiction
          · rename_i heq
            cases heq
            simp only [asciiNamed?_append]
            cases asciiNamed? rest with
            | none =>
                refine (opening_closes rest).bind fun inner rest => ?_
                exact ih hrest inner (frame :: outer) rest
            | some found =>
                obtain ⟨negated, s, rest⟩ := found
                exact closes_bind _ fun set => ih hrest _ outer rest
          · rename_i heq
            cases heq
            refine closes_bind _ fun closed => ?_
            cases outer with
            | nil => exact closes_ok closed rest
            | cons parent outer => exact ih hrest _ outer rest
          · rename_i heq
            cases heq
            exact ih hrest _ outer _
          · rename_i heq
            cases heq
            exact ih hrest _ outer _
          · rename_i heq
            cases heq
            exact ih hrest _ outer _
          · -- No two characters that stand for an operator have come about by the bracket.
            rename_i hopen hclose hinter hdiff hsymm
            split
            · contradiction
            · rename_i heq
              exact absurd (by rw [(List.cons.inj heq).1]) (hopen rest)
            · rename_i heq
              exact absurd (by rw [(List.cons.inj heq).1]) (hclose rest)
            · rename_i heq
              obtain ⟨behind, h⟩ := cons_cons_of_append (by decide) heq
              exact absurd h (hinter behind)
            · rename_i heq
              obtain ⟨behind, h⟩ := cons_cons_of_append (by decide) heq
              exact absurd h (hdiff behind)
            · rename_i heq
              obtain ⟨behind, h⟩ := cons_cons_of_append (by decide) heq
              exact absurd h (hsymm behind)
            · exact (memberOrRange_closes (c :: rest)).bind fun s rest => ih hrest _ outer rest

theorem read_closes (text : Text) :
    Closes (read properties flags text) (read properties flags (text ++ [')'])) := by
  refine (opening_closes text).bind fun frame rest => ?_
  exact readFrom_closes (by simp) frame [] rest

end Brackets

theorem Flags.read_closes (flags : Flags) (on : Bool) (seen : List Char) (text : Text) :
    Closes (flags.read on seen text) (flags.read on seen (text ++ [')'])) := by
  induction text generalizing flags on seen with
  | nil => exact closes_error _ _
  | cons c rest ih =>
      simp only [List.cons_append, read]
      refine ((closes_error _ _).ite (closes_ok flags (c :: rest))).ite ?_
      refine (closes_error _ _).ite ((ih _ _ _).ite ?_)
      cases flags.switch? c on with
      | none => exact closes_error _ _
      | some flags => exact ih flags on _

namespace Parser

theorem groupName_closes (name text : Text) :
    Closes (groupName name text) (groupName name (text ++ [')'])) := by
  induction text generalizing name with
  | nil => exact closes_error _ _
  | cons c rest ih =>
      simp only [List.cons_append, groupName]
      exact ((closes_error _ _).ite (closes_ok _ rest)).ite ((ih _).ite (closes_error _ _))

theorem greedyMark_append (text : Text) :
    greedyMark (text ++ [')']) = ((greedyMark text).1, (greedyMark text).2 ++ [')']) := by
  cases text with
  | nil => rfl
  | cons c rest =>
      by_cases hc : c = '?'
      · subst hc
        rfl
      · simp [greedyMark, hc]

theorem trimStart_append (text : Text) :
    Text.trimStart (text ++ [')']) = Text.trimStart text ++ [')'] := by
  have hbracket : [')'].dropWhile Text.isBlank = [')'] := by decide
  unfold Text.trimStart
  rw [List.dropWhile_append, hbracket]
  split
  · rename_i hnil
    rw [List.isEmpty_iff.mp hnil, List.nil_append]
  · rfl

/-- The digits that stand in front of something are those that stand in front of the bracket. -/
theorem digits_append {fuel fuel' : Nat} (hfuel : text.length ≤ fuel) (hle : fuel ≤ fuel')
    {acc ds : List Nat} (h : digits flags acc fuel text = (ds, c :: rest)) :
    digits flags acc fuel' (text ++ [')']) = (ds, c :: (rest ++ [')'])) := by
  induction fuel generalizing fuel' acc text with
  | zero =>
      obtain rfl := List.length_eq_zero_iff.mp (Nat.le_zero.mp hfuel)
      simp [digits] at h
  | succ fuel ih =>
      obtain ⟨fuel', rfl⟩ := Nat.exists_eq_add_of_le' (Nat.one_le_of_lt hle)
      cases text with
      | nil => simp [digits] at h
      | cons d text =>
          simp only [digits, List.cons_append] at h ⊢
          split at h
          · rename_i hd
            rw [if_pos hd]
            rcases skip_append flags text with happend | ⟨hnil, -⟩
            · have hlength := length_skip_le flags text
              rw [happend]
              exact ih (Nat.le_trans hlength (Nat.le_of_succ_le_succ hfuel))
                (Nat.le_of_succ_le_succ hle) h
            · -- Behind the last digit there is nothing but a comment.
              rw [hnil] at h
              cases fuel <;> simp [digits] at h
          · rename_i hd
            rw [if_neg hd]
            cases h
            rfl

theorem count_append {n : Nat} (h : count flags text = .ok (n, c :: rest)) :
    count flags (text ++ [')']) = .ok (n, c :: (rest ++ [')'])) := by
  unfold count at h ⊢
  cases hdigits : digits flags [] text.length (Text.trimStart text) with
  | mk ds left =>
      rw [hdigits] at h
      simp only at h
      split at h
      · cases h
      · rename_i hcount
        obtain ⟨rfl, htrim⟩ := Prod.mk.inj (Except.ok.inj h)
        cases left with
        | nil => cases htrim
        | cons d left =>
            have hlength : (Text.trimStart text).length ≤ text.length :=
              (List.dropWhile_sublist _).length_le
            have hmore : text.length ≤ (text ++ [')']).length := by simp
            have hclosed := digits_append hlength hmore hdigits
            rw [trimStart_append, hclosed]
            simp only
            rw [if_neg hcount, ← List.cons_append, trimStart_append, htrim, List.cons_append]

/-- Where something must stand behind a count, it stands in front of the bracket. -/
theorem count_bind {f g : Nat × Text → Except Error (β × Text)}
    (hnil : ∀ n, ∃ e, f (n, []) = .error e)
    (hcons : ∀ n c rest, Closes (f (n, c :: rest)) (g (n, c :: (rest ++ [')'])))) (text : Text) :
    Closes (count flags text >>= f) (count flags (text ++ [')']) >>= g) := by
  cases hcount : count flags text with
  | error e => exact closes_error e _
  | ok found =>
      obtain ⟨n, rest⟩ := found
      cases rest with
      | nil =>
          obtain ⟨e, he⟩ := hnil n
          change Closes (f (n, [])) _
          rw [he]
          exact closes_error e _
      | cons c rest =>
          rw [count_append hcount]
          exact hcons n c rest

theorem counts_closes (text : Text) :
    Closes (counts flags text) (counts flags (text ++ [')'])) := by
  unfold counts
  rcases skip_append flags text with happend | ⟨hnil, -⟩
  · rw [happend]
    refine count_bind (fun n => ⟨_, rfl⟩) (fun min c rest => ?_) _
    by_cases hclose : c = '\x7d'
    · subst hclose
      exact closes_ok _ rest
    · by_cases hcomma : c = ','
      · subst hcomma
        cases hskip : flags.skip rest with
        | nil =>
            simp only [hskip]
            exact closes_error _ _
        | cons d rest' =>
            simp only [hskip, skip_append_of_cons hskip]
            by_cases hd : d = '\x7d'
            · subst hd
              exact closes_ok _ rest'
            · simp only [hd, List.cons.injEq, false_and, imp_false, not_false_eq_true, implies_true]
              refine count_bind (fun n => ⟨_, rfl⟩) (fun max e rest => ?_) (d :: rest')
              by_cases he : e = '\x7d'
              · subst he
                exact (closes_ok _ rest).ite (closes_error _ _)
              · simp only [he, List.cons.injEq, false_and, imp_false, not_false_eq_true,
                  implies_true]
                exact closes_error _ _
      · simp only [hclose, hcomma, List.cons.injEq, false_and, imp_false, not_false_eq_true,
          implies_true]
        exact closes_error _ _
  · rw [hnil]
    exact closes_error _ _

end Parser

end RuleLexer.Pattern
