import RuleLexer.Text.LowerCase
import Mathlib.Data.List.Basic

/-!
# Characters and their lower-case mappings

A character with a lower-case mapping is a cased letter, and so is what it
is mapped to, which is mapped no further. So a mapping may be applied early:
the letters around it are seen as before. The tables are too long to look at
every character in them, so they are compared run by run with the ranges.
-/

namespace RuleLexer.Text

/-- The run maps the code point to the image. -/
def CaseRun.Maps (run : CaseRun) (n image : Nat) : Prop :=
  run.first ≤ n ∧ n ≤ run.last ∧ (n - run.first) % run.step = 0 ∧
    image = run.image + (n - run.first)

theorem exists_maps_of_imageIn {runs : List CaseRun} {n image : Nat}
    (h : imageIn runs n = some image) : ∃ run ∈ runs, run.Maps n image := by
  induction runs with
  | nil => simp [imageIn] at h
  | cons run rest ih =>
      have hrest (h : imageIn rest n = some image) : ∃ run' ∈ run :: rest, run'.Maps n image := by
        obtain ⟨run', hmem, hmaps⟩ := ih h
        exact ⟨run', List.mem_cons_of_mem _ hmem, hmaps⟩
      rw [imageIn] at h
      split at h
      · simp at h
      · split at h
        · split at h
          · exact ⟨run, List.mem_cons_self, by omega, by omega, ‹_›, (Option.some.inj h).symm⟩
          · exact hrest h
        · exact hrest h

theorem imageIn_eq_none {runs : List CaseRun} {n : Nat}
    (h : ∀ run ∈ runs, ∀ image, ¬run.Maps n image) : imageIn runs n = none := by
  cases himage : imageIn runs n with
  | none => rfl
  | some image =>
      obtain ⟨run, hmem, hmaps⟩ := exists_maps_of_imageIn himage
      exact absurd hmaps (h run hmem image)

/-- Every `step`-th number from `first` to `last` lies in one of the ranges. -/
def covers (step : Nat) : List (Nat × Nat) → Nat → Nat → Bool
  | [], first, last => Nat.blt last first
  | (low, high) :: rest, first, last =>
      Nat.blt last first || (Nat.ble low first &&
        covers step rest
          (if Nat.blt high first then first else first + step * ((high - first) / step + 1)) last)

/-- No number from `first` to `last` lies in one of the ranges. -/
def avoids : List (Nat × Nat) → Nat → Nat → Bool
  | [], _, _ => true
  | (low, high) :: rest, first, last =>
      Nat.blt last low || (Nat.blt high first && avoids rest first last)

theorem inRanges_of_covers {step : Nat} {ranges : List (Nat × Nat)} {first last k : Nat}
    (h : covers step ranges first last = true) (hk : first + step * k ≤ last) :
    inRanges ranges (first + step * k) = true := by
  induction ranges generalizing first k with
  | nil =>
      simp only [covers, Nat.blt_eq] at h
      omega
  | cons range rest ih =>
      obtain ⟨low, high⟩ := range
      simp only [covers, Bool.or_eq_true, Bool.and_eq_true, Nat.blt_eq, Nat.ble_eq] at h
      rcases h with hlast | ⟨hlow, hrest⟩
      · omega
      rw [inRanges, if_neg (by omega : ¬first + step * k < low)]
      by_cases hhigh : first + step * k ≤ high
      · rw [if_pos hhigh]
      rw [if_neg hhigh]
      by_cases hbehind : high < first
      · rw [if_pos hbehind] at hrest
        exact ih hrest hk
      · -- The first number behind the range is the one that the rest has to begin with.
        rw [if_neg hbehind] at hrest
        have hjump : (high - first) / step + 1 ≤ k := by
          refine Nat.div_lt_of_lt_mul ?_
          omega
        have hsplit : first + step * k = first + step * ((high - first) / step + 1) +
            step * (k - ((high - first) / step + 1)) := by
          rw [Nat.add_assoc, ← Nat.mul_add, Nat.add_sub_cancel' hjump]
        rw [hsplit] at hk ⊢
        exact ih hrest hk

theorem inRanges_of_avoids {ranges : List (Nat × Nat)} {first last n : Nat}
    (h : avoids ranges first last = true) (hfirst : first ≤ n) (hlast : n ≤ last) :
    inRanges ranges n = false := by
  induction ranges with
  | nil => rfl
  | cons range rest ih =>
      obtain ⟨low, high⟩ := range
      simp only [avoids, Bool.or_eq_true, Bool.and_eq_true, Nat.blt_eq] at h
      rw [inRanges]
      rcases h with hlow | ⟨hhigh, hrest⟩
      · rw [if_pos (by omega)]
      · rw [ih hrest, if_neg (by omega : ¬n ≤ high), ite_self]

/-- No code point is an image of the first run and has one in the second. -/
def CaseRun.clear (run other : CaseRun) : Bool :=
  Nat.blt (run.image + (run.last - run.first)) other.first || Nat.blt other.last run.image ||
    (other.step == 2 && (run.step == 2 || run.first == run.last) &&
      (run.image + other.first) % 2 == 1)

theorem CaseRun.Maps.of_clear {run other : CaseRun} {n image image' : Nat}
    (h : run.Maps n image) (hclear : run.clear other = true) : ¬other.Maps image image' := by
  obtain ⟨hfirst, hlast, hstep, rfl⟩ := h
  rintro ⟨hfirst', hlast', hstep', -⟩
  simp only [clear, Bool.or_eq_true, Bool.and_eq_true, Nat.blt_eq, beq_iff_eq] at hclear
  rcases hclear with (hbehind | hbefore) | ⟨⟨htwo, hrun⟩, hodd⟩
  · omega
  · omega
  · rw [htwo] at hstep'
    rcases hrun with hrun | hrun
    · rw [hrun] at hstep
      omega
    · omega

/-- What the tables say of all code points of a run and of their images. -/
def CaseRun.sound (run : CaseRun) : Bool :=
  let lastImage := run.image + (run.last - run.first)
  covers run.step casedRanges run.first run.last && covers run.step casedRanges run.image lastImage &&
    avoids caseIgnorableRanges run.first run.last &&
    avoids caseIgnorableRanges run.image lastImage &&
    -- The capital I with a dot has a mapping of its own, and surrogates are no characters.
    avoids [(0x130, 0x130), (0xD800, 0xDFFF)] run.image lastImage && Nat.blt lastImage 0x110000 &&
    lowerRuns.all run.clear

theorem lowerRuns_sound : ∀ run ∈ lowerRuns, run.sound = true :=
  List.all_eq_true.mp (by decide +kernel)

/-- Another character sees a letter here, and not what stands behind it. -/
def IsCasedLetter (c : Char) : Prop := isCased c = true ∧ isCaseIgnorable c = false

theorem CaseRun.Maps.sound {run : CaseRun} {n image : Nat} (h : run.Maps n image)
    (hsound : run.sound = true) :
    (inRanges casedRanges n = true ∧ inRanges caseIgnorableRanges n = false) ∧
      (inRanges casedRanges image = true ∧ inRanges caseIgnorableRanges image = false) ∧
      image ≠ 0x130 ∧ image.isValidChar ∧ ∀ other ∈ lowerRuns, run.clear other = true := by
  simp only [CaseRun.sound, Bool.and_eq_true, Nat.blt_eq, List.all_eq_true] at hsound
  obtain ⟨⟨⟨⟨⟨⟨hcased, hcased'⟩, hseen⟩, hseen'⟩, hspecial⟩, hlimit⟩, hclear⟩ := hsound
  obtain ⟨hfirst, hlast, hstep, rfl⟩ := h
  obtain ⟨k, hk⟩ := Nat.dvd_of_mod_eq_zero hstep
  have hn : n = run.first + run.step * k := by omega
  have hspecial' := inRanges_of_avoids hspecial (Nat.le_add_right _ (n - run.first)) (by omega)
  have hother : run.image + (n - run.first) ≠ 0x130 ∧
      ¬(0xD800 ≤ run.image + (n - run.first) ∧ run.image + (n - run.first) ≤ 0xDFFF) := by
    grind [inRanges]
  refine ⟨⟨?_, inRanges_of_avoids hseen hfirst hlast⟩, ⟨?_, ?_⟩, hother.1, ?_, hclear⟩
  · rw [hn]
    exact inRanges_of_covers hcased (by omega)
  · rw [hk]
    exact inRanges_of_covers hcased' (by omega)
  · exact inRanges_of_avoids hseen' (by omega) (by omega)
  · rw [Nat.isValidChar]
    omega

/-- A character is mapped to itself, or it is a cased letter that is mapped to another one. -/
theorem lowerChar_cases (c : Char) :
    c = '\u0130' ∨ lowerChar c = [c] ∨
      ∃ d, lowerChar c = [d] ∧ lowerChar d = [d] ∧ IsCasedLetter c ∧ IsCasedLetter d := by
  by_cases hdot : c = '\u0130'
  · exact .inl hdot
  · rw [lowerChar, if_neg hdot]
    cases himage : imageIn lowerRuns c.toNat with
    | none => exact .inr (.inl rfl)
    | some image =>
        obtain ⟨run, hmem, hmaps⟩ := exists_maps_of_imageIn himage
        obtain ⟨hc, hd, hspecial, hvalid, hclear⟩ := hmaps.sound (lowerRuns_sound run hmem)
        have htoNat : (Char.ofNat image).toNat = image := by
          rw [Char.ofNat, dif_pos hvalid]
          rfl
        refine .inr (.inr ⟨Char.ofNat image, rfl, ?_, hc, ?_⟩)
        · have hsettled : imageIn lowerRuns image = none :=
            imageIn_eq_none fun other hother _ => hmaps.of_clear (hclear other hother)
          rw [lowerChar, if_neg, htoNat, hsettled]
          intro heq
          exact hspecial (htoNat.symm.trans (congrArg Char.toNat heq))
        · rw [IsCasedLetter, isCased, isCaseIgnorable, htoNat]
          exact hd

theorem lowerChar_dotted : lowerChar '\u0130' = ['i', '\u0307'] := rfl

theorem lowerChar_i : lowerChar 'i' = ['i'] := by decide +kernel

theorem lowerChar_dotAbove : lowerChar '\u0307' = ['\u0307'] := by decide +kernel

theorem lowerChar_sigma : lowerChar '\u03A3' = ['\u03C3'] := by decide +kernel

theorem lowerChar_of_mem {c d : Char} (h : d ∈ lowerChar c) : lowerChar d = [d] := by
  rcases lowerChar_cases c with rfl | hsame | ⟨_, hother, hsettled, -⟩
  · rw [lowerChar_dotted, List.mem_pair] at h
    rcases h with rfl | rfl
    · exact lowerChar_i
    · exact lowerChar_dotAbove
  · obtain rfl : d = c := by simpa [hsame] using h
    exact hsame
  · obtain rfl := List.mem_singleton.mp (hother ▸ h)
    exact hsettled

theorem sigma_notMem_lowerChar (c : Char) : '\u03A3' ∉ lowerChar c := fun h =>
  absurd (lowerChar_of_mem h) (by simp [lowerChar_sigma])

/-! ## The letters around a character -/

theorem meetsCased_cons (c : Char) (text : Text) :
    meetsCased (c :: text) = if isCaseIgnorable c then meetsCased text else isCased c := by
  cases hc : isCaseIgnorable c <;> simp [meetsCased, hc]

theorem IsCasedLetter.meetsCased_cons {c : Char} (h : IsCasedLetter c) (text : Text) :
    meetsCased (c :: text) = true := by
  rw [Text.meetsCased_cons, h.2, h.1]
  rfl

theorem isCasedLetter_i : IsCasedLetter 'i' := ⟨by decide +kernel, by decide +kernel⟩

theorem isCasedLetter_dotted : IsCasedLetter '\u0130' := ⟨by decide +kernel, by decide +kernel⟩

/-- Behind characters that are left aside comes a cased letter. -/
theorem meetsCased_iff {text : Text} :
    meetsCased text = true ↔ ∃ aside c rest, text = aside ++ c :: rest ∧
      (∀ d ∈ aside, isCaseIgnorable d = true) ∧ IsCasedLetter c := by
  constructor
  · intro h
    induction text with
    | nil => simp [meetsCased] at h
    | cons c text ih =>
        rw [meetsCased_cons] at h
        cases hc : isCaseIgnorable c with
        | true =>
            rw [hc, if_pos rfl] at h
            obtain ⟨aside, d, rest, rfl, haside, hd⟩ := ih h
            exact ⟨c :: aside, d, rest, rfl, List.forall_mem_cons.mpr ⟨hc, haside⟩, hd⟩
        | false =>
            rw [hc, if_neg Bool.false_ne_true] at h
            exact ⟨[], c, text, rfl, by simp, h, hc⟩
  · rintro ⟨aside, c, rest, rfl, haside, hc⟩
    induction aside with
    | nil => exact hc.meetsCased_cons rest
    | cons d aside ih =>
        rw [List.forall_mem_cons] at haside
        rw [List.cons_append, meetsCased_cons, haside.1, if_pos rfl]
        exact ih haside.2

/-- A mapping is seen from the left as its character is. -/
theorem meetsCased_lowerChar (c : Char) (text : Text) :
    meetsCased (lowerChar c ++ text) = meetsCased (c :: text) := by
  rcases lowerChar_cases c with rfl | hsame | ⟨d, hother, -, hc, hd⟩
  · exact (isCasedLetter_i.meetsCased_cons _).trans (isCasedLetter_dotted.meetsCased_cons _).symm
  · rw [hsame, List.singleton_append]
  · rw [hother, List.singleton_append, hc.meetsCased_cons, hd.meetsCased_cons]

/-- A mapping is seen from the right as its character is. -/
theorem meetsCased_reverse_lowerChar (c : Char) (text : Text) :
    meetsCased ((lowerChar c).reverse ++ text) = meetsCased (c :: text) := by
  rcases lowerChar_cases c with rfl | hsame | ⟨d, hother, -, hc, hd⟩
  · have hdot : isCaseIgnorable '\u0307' = true := by decide +kernel
    change meetsCased ('\u0307' :: 'i' :: text) = _
    rw [meetsCased_cons, hdot, if_pos rfl, isCasedLetter_i.meetsCased_cons,
      isCasedLetter_dotted.meetsCased_cons]
  · rw [hsame, List.reverse_singleton, List.singleton_append]
  · rw [hother, List.reverse_singleton, List.singleton_append, hc.meetsCased_cons,
      hd.meetsCased_cons]

/-- Two contexts on the same side show the same, also from behind one more character. -/
theorem meetsCased_cons_congr {before before' : Text} (h : meetsCased before = meetsCased before')
    (c : Char) : meetsCased (c :: before) = meetsCased (c :: before') := by
  rw [meetsCased_cons, meetsCased_cons, h]

/-! ## Words of which some characters are replaced -/

/-- A word, with the characters marked that are to be replaced by their lower-case mappings. -/
abbrev Marked := List (Char × Bool)

namespace Marked

def word (m : Marked) : Text := m.map Prod.fst

def replaced (m : Marked) : Text := m.flatMap fun c => if c.2 then lowerChar c.1 else [c.1]

@[simp] theorem word_nil : word [] = [] := rfl

@[simp] theorem word_cons (c : Char) (mark : Bool) (m : Marked) :
    word ((c, mark) :: m) = c :: m.word := rfl

theorem replaced_cons_false (c : Char) (m : Marked) :
    replaced ((c, false) :: m) = c :: m.replaced := rfl

theorem replaced_cons_true (c : Char) (m : Marked) :
    replaced ((c, true) :: m) = lowerChar c ++ m.replaced := rfl

theorem meetsCased_replaced (m : Marked) : meetsCased m.replaced = meetsCased m.word := by
  induction m with
  | nil => rfl
  | cons c m ih =>
      obtain ⟨c, mark⟩ := c
      cases mark with
      | false =>
          rw [replaced_cons_false, word_cons]
          exact meetsCased_cons_congr ih c
      | true =>
          rw [replaced_cons_true, word_cons, meetsCased_lowerChar]
          exact meetsCased_cons_congr ih c

end Marked

/-- The lower-case form of a character between two texts, of which the first is nearest first. -/
def lowerBetween (before : Text) (c : Char) (after : Text) : Text :=
  if c = '\u03A3' then
    if meetsCased before && !meetsCased after then ['\u03C2'] else ['\u03C3']
  else lowerChar c

theorem lowerAfter_cons (before : Text) (c : Char) (rest : Text) :
    lowerAfter before (c :: rest) = lowerBetween before c rest ++ lowerAfter (c :: before) rest := rfl

/-- What is mapped to itself stays, and the text behind it sees it in front. -/
theorem lowerAfter_append {front : Text} (hfront : ∀ c ∈ front, lowerChar c = [c])
    (hsigma : '\u03A3' ∉ front) (before rest : Text) :
    lowerAfter before (front ++ rest) = front ++ lowerAfter (front.reverse ++ before) rest := by
  induction front generalizing before with
  | nil => rfl
  | cons c front ih =>
      rw [List.forall_mem_cons] at hfront
      rw [List.mem_cons, not_or] at hsigma
      rw [List.cons_append, lowerAfter_cons, lowerBetween, if_neg (Ne.symm hsigma.1), hfront.1,
        ih hfront.2 hsigma.2]
      simp

theorem length_lowerBetween (before : Text) (c : Char) (after : Text) :
    (lowerBetween before c after).length = (lowerChar c).length := by
  unfold lowerBetween
  split
  · rename_i hc
    rw [hc, lowerChar_sigma]
    split <;> rfl
  · rfl

/-- The lower-case form is the mapping, but for a sigma at the end of a word. -/
theorem lowerChar_eq_lowerBetween_iff {before after : Text} {c : Char} :
    lowerChar c = lowerBetween before c after ↔
      (c = '\u03A3' → ¬(meetsCased before = true ∧ meetsCased after = false)) := by
  by_cases hc : c = '\u03A3'
  · subst hc
    rw [lowerBetween, if_pos rfl, lowerChar_sigma]
    cases meetsCased before <;> cases meetsCased after <;> simp
  · simp [lowerBetween, hc]

/-- Where an element stands in a list with one more in front: there, or further back. -/
theorem forall_split_cons {α : Type} {a x : α} {l : List α} {P : List α → List α → Prop} :
    (∀ front back, a :: l = front ++ x :: back → P front back) ↔
      (a = x → P [] l) ∧ ∀ front back, l = front ++ x :: back → P (a :: front) back := by
  constructor
  · refine fun h => ⟨?_, ?_⟩
    · rintro rfl
      exact h [] l rfl
    · rintro front back rfl
      exact h (a :: front) back rfl
  · rintro ⟨hfirst, hrest⟩ front back hsplit
    cases front with
    | nil =>
        obtain ⟨rfl, rfl⟩ := List.cons.inj hsplit
        exact hfirst rfl
    | cons b front =>
        obtain ⟨rfl, htail⟩ := List.cons.inj hsplit
        exact hrest front back htail

/-- From contexts that show the same, the two forms of a word are the same exactly if no sigma at
the end of a word is replaced. -/
theorem lowerAfter_replaced_iff (m : Marked) {before before' : Text}
    (h : meetsCased before' = meetsCased before) :
    lowerAfter before' m.replaced = lowerAfter before m.word ↔
      ∀ front back, m = front ++ ('\u03A3', true) :: back →
        ¬(meetsCased ((Marked.word front).reverse ++ before) = true ∧
          meetsCased (Marked.word back) = false) := by
  induction m generalizing before before' with
  | nil => simp [Marked.word, Marked.replaced, lowerAfter]
  | cons c m ih =>
      obtain ⟨c, mark⟩ := c
      rw [forall_split_cons]
      simp only [Marked.word_cons, List.reverse_cons, List.append_assoc, List.singleton_append]
      rw [lowerAfter_cons]
      cases mark with
      | false =>
          have hhere : lowerBetween before' c (Marked.replaced m) =
              lowerBetween before c (Marked.word m) := by
            rw [lowerBetween, lowerBetween, h, Marked.meetsCased_replaced]
          rw [Marked.replaced_cons_false, lowerAfter_cons, hhere, List.append_cancel_left_eq,
            ih (meetsCased_cons_congr h c)]
          simp
      | true =>
          have hnext : meetsCased ((lowerChar c).reverse ++ before') = meetsCased (c :: before) :=
            (meetsCased_reverse_lowerChar c before').trans (meetsCased_cons_congr h c)
          rw [Marked.replaced_cons_true,
            lowerAfter_append (fun d hd => lowerChar_of_mem hd) (sigma_notMem_lowerChar c),
            List.append_eq_append_iff_of_size_eq_left (length_lowerBetween before c _).symm,
            lowerChar_eq_lowerBetween_iff, ih hnext]
          simp

/-- A character between these two texts is at the end of a word: a cased letter stands before it and
none after it, characters that are left aside apart. -/
def EndsWord (before after : Text) : Prop :=
  (∃ front c aside, before = front ++ c :: aside ∧ IsCasedLetter c ∧
      ∀ d ∈ aside, isCaseIgnorable d = true) ∧
    ¬∃ aside c rest, after = aside ++ c :: rest ∧ (∀ d ∈ aside, isCaseIgnorable d = true) ∧
      IsCasedLetter c

theorem endsWord_iff {before after : Text} :
    EndsWord before after ↔ meetsCased before.reverse = true ∧ meetsCased after = false := by
  rw [EndsWord, ← meetsCased_iff, Bool.not_eq_true]
  refine and_congr_left' ?_
  rw [meetsCased_iff]
  constructor
  · rintro ⟨front, c, aside, rfl, hc, haside⟩
    exact ⟨aside.reverse, c, front.reverse, by simp, by simpa using haside, hc⟩
  · rintro ⟨aside, c, rest, hsplit, haside, hc⟩
    refine ⟨rest.reverse, c, aside.reverse, ?_, hc, by simpa using haside⟩
    rw [← List.reverse_reverse before, hsplit]
    simp

/-- Replacing characters of a word by their lower-case mappings keeps its lower-case form exactly if
no capital sigma at the end of a word is among them. -/
theorem toLower_replaced_iff (m : Marked) : toLower m.replaced = toLower m.word ↔
    ∀ front back, m = front ++ ('\u03A3', true) :: back →
      ¬EndsWord (Marked.word front) (Marked.word back) := by
  simp only [endsWord_iff, toLower, lowerAfter_replaced_iff m rfl, List.append_nil]

end RuleLexer.Text
