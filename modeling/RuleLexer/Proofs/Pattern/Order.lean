import RuleLexer.Pattern.Basic
import RuleLexer.Text.Bytes
import Mathlib.Data.List.Basic

/-!
# Matches in order of preference

What a pattern matches at a place of a text is a list of lengths, the
preferred match first. It is the list that a search with backtracking goes
through: a sequence goes through its second part behind each match of its
first, a choice through its first branch before its second, and a greedy
repetition goes on before it stops. An iteration that reads nothing is the
last one, and only the first may read nothing.
-/

namespace RuleLexer

/-- A place in a text: the character before it and the text behind it. -/
structure Cursor where
  before : Option Char
  rest : Text

namespace Cursor

variable (here : Cursor) (n m : Nat)

def surround : Surround := ⟨here.before, here.rest.head?⟩

/-- The place `n` characters further on. -/
def skip : Cursor := ⟨(here.rest.take n).getLast?.or here.before, here.rest.drop n⟩

/-- The size of the next `n` characters. -/
def bytes : Nat := Text.byteSize (here.rest.take n)

@[simp] theorem skip_zero : here.skip 0 = here := by simp [skip]

theorem length_skip : (here.skip n).rest.length = here.rest.length - n := List.length_drop

theorem skip_skip : (here.skip n).skip m = here.skip (n + m) := by
  simp only [skip, List.drop_drop, List.take_add, List.getLast?_append, Option.or_assoc]

theorem bytes_add : here.bytes (n + m) = here.bytes n + (here.skip n).bytes m := by
  simp only [bytes, skip, List.take_add, Text.byteSize_append]

end Cursor

/-- How many characters each match at a place reads, the preferred match first. -/
abbrev Matcher := Cursor → List Nat

namespace Matcher

def empty : Matcher := fun _ => [0]

def set (s : CharSet) : Matcher := fun here =>
  match here.rest with
  | [] => []
  | c :: _ => if s.mem c then [1] else []

def assert (a : Assertion) : Matcher := fun here => if a.holds here.surround then [0] else []

def cat (p q : Matcher) : Matcher := fun here =>
  (p here).flatMap fun n => (q (here.skip n)).map (n + ·)

def alt (p q : Matcher) : Matcher := fun here => p here ++ q here

def opt (greedy : Bool) (p : Matcher) : Matcher := if greedy then p.alt empty else empty.alt p

/-- `p` this many times, and then `last`. -/
def times (p : Matcher) : Nat → Matcher → Matcher
  | 0, last => last
  | n + 1, last => p.cat (times p n last)

def upTo (greedy : Bool) (p : Matcher) : Nat → Matcher
  | 0 => empty
  | n + 1 => opt greedy (p.cat (upTo greedy p n))

/-- The matches that read something. -/
def reading (p : Matcher) : Matcher := fun here => (p here).filter (0 < ·)

/-- Any number of iterations that read something. There are not more of them than characters. -/
def further (greedy : Bool) (p : Matcher) : Matcher := fun here =>
  p.reading.upTo greedy here.rest.length here

def plus (greedy : Bool) (p : Matcher) : Matcher := fun here =>
  (p here).flatMap fun n =>
    if n = 0 then [0] else (p.further greedy (here.skip n)).map (n + ·)

/-- From `min` to `max` times `p`, without an upper bound if there is no `max`. -/
def repeated (greedy : Bool) (min : Nat) (max : Option Nat) (p : Matcher) : Matcher :=
  match min, max with
  | 0, none => opt greedy (p.plus greedy)
  | n + 1, none => p.times n (p.plus greedy)
  | n, some m => p.times n (p.upTo greedy (m - n))

end Matcher

namespace Pattern

/-- The matches of a pattern, each repetition with the bounds that are written. -/
def matcher : Pattern → Matcher
  | empty => .empty
  | set s _ => .set s
  | assert a => .assert a
  | repeated p min max greedy => .repeated greedy min max p.matcher
  | group p => p.matcher
  | cat p q => p.matcher.cat q.matcher
  | alt p q => p.matcher.alt q.matcher

/-- No repetition asks for more than it allows. -/
def Ordered : Pattern → Prop
  | empty => True
  | set _ _ => True
  | assert _ => True
  | repeated p min max _ => (∀ m ∈ max, min ≤ m) ∧ p.Ordered
  | group p => p.Ordered
  | cat p q => p.Ordered ∧ q.Ordered
  | alt p q => p.Ordered ∧ q.Ordered

/-- Where the preferred match at the start of a text ends. -/
def preferred (p : Pattern) (text : Text) : Option Nat :=
  (p.matcher ⟨none, text⟩).head?.map fun n => Text.byteSize (text.take n)

end Pattern

namespace Matcher

/-- Every match is of a length that has the property at its place. -/
def Every (P : Cursor → Nat → Prop) (p : Matcher) : Prop := ∀ here, ∀ n ∈ p here, P here n

/-- A property of lengths that holds where nothing is read and of two lengths one behind the
other. -/
structure Additive (P : Cursor → Nat → Prop) : Prop where
  zero : ∀ here, P here 0
  add : ∀ {here i j}, P here i → P (here.skip i) j → P here (i + j)

section Every

variable {P : Cursor → Nat → Prop} {p q : Matcher} {greedy : Bool}

theorem Additive.empty (hP : Additive P) : empty.Every P := by
  intro here n hn
  rw [List.mem_singleton.mp hn]
  exact hP.zero here

theorem Additive.assert (hP : Additive P) (a : Assertion) : (assert a).Every P := by
  intro here n hn
  simp only [Matcher.assert] at hn
  split at hn
  · rw [List.mem_singleton.mp hn]
    exact hP.zero here
  · cases hn

theorem Every.alt (hp : p.Every P) (hq : q.Every P) : (p.alt q).Every P := by
  intro here n hn
  rcases List.mem_append.mp hn with hn | hn
  · exact hp here n hn
  · exact hq here n hn

theorem Every.reading (hp : p.Every P) : p.reading.Every P :=
  fun here n hn => hp here n (List.mem_filter.mp hn).1

theorem Every.cat (hp : p.Every P) (hq : q.Every P) (hP : Additive P) : (p.cat q).Every P := by
  intro here n hn
  obtain ⟨i, hi, hn⟩ := List.mem_flatMap.mp hn
  obtain ⟨j, hj, rfl⟩ := List.mem_map.mp hn
  exact hP.add (hp here i hi) (hq (here.skip i) j hj)

theorem Every.opt (hp : p.Every P) (hP : Additive P) : (p.opt greedy).Every P := by
  cases greedy
  · exact hP.empty.alt hp
  · exact hp.alt hP.empty

theorem Every.times (hp : p.Every P) (hq : q.Every P) (hP : Additive P) (n : Nat) :
    (p.times n q).Every P := by
  induction n with
  | zero => exact hq
  | succ n ih => exact hp.cat ih hP

theorem Every.upTo (hp : p.Every P) (hP : Additive P) (n : Nat) : (p.upTo greedy n).Every P := by
  induction n with
  | zero => exact hP.empty
  | succ n ih => exact (hp.cat ih hP).opt hP

theorem Every.plus (hp : p.Every P) (hP : Additive P) : (p.plus greedy).Every P := by
  intro here n hn
  obtain ⟨i, hi, hn⟩ := List.mem_flatMap.mp hn
  split at hn
  · rw [List.mem_singleton.mp hn]
    exact hP.zero here
  · obtain ⟨j, hj, rfl⟩ := List.mem_map.mp hn
    exact hP.add (hp here i hi) (hp.reading.upTo hP _ (here.skip i) j hj)

theorem Every.repeated (hp : p.Every P) (hP : Additive P) (min : Nat) (max : Option Nat) :
    (p.repeated greedy min max).Every P := by
  unfold Matcher.repeated
  split
  · exact (hp.plus hP).opt hP
  · exact hp.times (hp.plus hP) hP _
  · exact hp.times (hp.upTo hP _) hP _

end Every

/-- No match reads past the end of the text. -/
def Within : Matcher → Prop := Every fun here n => n ≤ here.rest.length

theorem additive_within : Additive fun here n => n ≤ here.rest.length where
  zero := fun _ => Nat.zero_le _
  add := by
    intro here i j hi hj
    rw [here.length_skip] at hj
    omega

theorem within_set (s : CharSet) : (set s).Within := by
  rintro ⟨before, rest⟩ n hn
  cases rest with
  | nil => cases hn
  | cons c rest =>
      simp only [set] at hn
      split at hn
      · simp_all
      · cases hn

section Iterations

variable {p q : Matcher} {greedy : Bool} {here : Cursor}

theorem pos_of_mem_reading {n : Nat} (h : n ∈ p.reading here) : 0 < n :=
  of_decide_eq_true (List.mem_filter.mp h).2

theorem opt_congr (h : p here = q here) : p.opt greedy here = q.opt greedy here := by
  cases greedy
  · exact congrArg (empty here ++ ·) h
  · exact congrArg (· ++ empty here) h

theorem cat_congr {last : Matcher} (h : ∀ n ∈ p here, q (here.skip n) = last (here.skip n)) :
    p.cat q here = p.cat last here :=
  List.flatMap_congr fun n hn => by rw [h n hn]

theorem cat_empty (p : Matcher) : p.cat empty = p := by
  funext here
  simp [cat, empty]

/-- More iterations that read something than there are characters change nothing. -/
theorem Within.upTo_reading (hp : p.Within) {n m : Nat} (hn : here.rest.length ≤ n)
    (hm : here.rest.length ≤ m) :
    p.reading.upTo greedy n here = p.reading.upTo greedy m here := by
  have hend (n : Nat) {here : Cursor} (h : here.rest.length = 0) :
      p.reading.upTo greedy n here = [0] := by
    have hnone : p.reading here = [] := by
      refine List.eq_nil_iff_forall_not_mem.mpr fun i hi => ?_
      have hle := Every.reading hp here i hi
      have hpos := pos_of_mem_reading hi
      omega
    cases n with
    | zero => rfl
    | succ n =>
        cases greedy <;>
          simp [Matcher.upTo, Matcher.opt, Matcher.alt, Matcher.cat, empty, hnone]
  induction n generalizing m here with
  | zero => rw [hend 0 (by omega), hend m (by omega)]
  | succ n ih =>
      cases m with
      | zero => rw [hend _ (by omega), hend _ (by omega)]
      | succ m =>
          refine opt_congr (cat_congr fun i hi => ?_)
          have hpos := pos_of_mem_reading hi
          have hlength := here.length_skip i
          exact ih (by omega) (by omega)

/-- To go on is to read once and go on, or to stop. -/
theorem Within.further_eq (hp : p.Within) (here : Cursor) :
    p.further greedy here = (p.reading.cat (p.further greedy)).opt greedy here := by
  have hstep : p.further greedy here = p.reading.upTo greedy (here.rest.length + 1) here :=
    hp.upTo_reading (Nat.le_refl _) (Nat.le_succ _)
  rw [hstep]
  refine opt_congr (cat_congr fun i _ => ?_)
  have hlength := here.length_skip i
  exact hp.upTo_reading (by omega) (Nat.le_refl _)

end Iterations

/-- No match reads anything. -/
def Still : Matcher → Prop := Every fun _ n => n = 0

theorem additive_still : Additive fun _ n => n = 0 where
  zero := fun _ => rfl
  add := by
    rintro here i j rfl rfl
    rfl

/-- The first match for which something holds is the same in both. -/
def Alike (p q : Matcher) : Prop :=
  ∀ (here : Cursor) (f : Nat → Option Nat), (p here).findSome? f = (q here).findSome? f

section Still

variable {p q : Matcher} {greedy : Bool} {here : Cursor}

theorem opt_ne_nil : p.opt greedy here ≠ [] := by
  cases greedy <;> simp [opt, alt, empty]

theorem upTo_ne_nil (n : Nat) : p.upTo greedy n here ≠ [] := by
  cases n with
  | zero => simp [upTo, empty]
  | succ n => exact opt_ne_nil

theorem Still.cat_eq_nil (hp : p.Still) : p.cat q here = [] ↔ p here = [] ∨ q here = [] := by
  simp only [Matcher.cat, List.flatMap_eq_nil_iff, List.map_eq_nil_iff]
  constructor
  · intro h
    by_cases hnil : p here = []
    · exact .inl hnil
    · obtain ⟨n, hn⟩ := List.exists_mem_of_ne_nil _ hnil
      have hq := h n hn
      rw [hp here n hn, here.skip_zero] at hq
      exact .inr hq
  · rintro (hnil | hnil) n hn
    · simp [hnil] at hn
    · rwa [hp here n hn, here.skip_zero]

theorem Still.times_eq_nil (hp : p.Still) (n : Nat) :
    p.times n q here = [] ↔ 0 < n ∧ p here = [] ∨ q here = [] := by
  induction n with
  | zero => simp [Matcher.times]
  | succ n ih =>
      rw [Matcher.times, hp.cat_eq_nil, ih]
      by_cases hnil : p here = [] <;> simp [hnil]

theorem Still.plus_eq_nil (hp : p.Still) : p.plus greedy here = [] ↔ p here = [] := by
  simp only [Matcher.plus, List.flatMap_eq_nil_iff]
  constructor
  · intro h
    refine List.eq_nil_iff_forall_not_mem.mpr fun n hn => ?_
    have hzero := h n hn
    rw [if_pos (hp here n hn)] at hzero
    cases hzero
  · intro hnil n hn
    simp [hnil] at hn

theorem Still.repeated_eq_nil (hp : p.Still) (min : Nat) (max : Option Nat) :
    p.repeated greedy min max here = [] ↔ 0 < min ∧ p here = [] := by
  unfold Matcher.repeated
  split
  · simp [opt_ne_nil]
  · rw [hp.times_eq_nil, hp.plus_eq_nil]
    by_cases hnil : p here = [] <;> simp [hnil]
  · rw [hp.times_eq_nil]
    simp [upTo_ne_nil]

theorem Still.alike (hp : p.Still) (hq : q.Still) (h : ∀ here, p here = [] ↔ q here = []) :
    p.Alike q := by
  have hzero {l : List Nat} (hl : ∀ n ∈ l, n = 0) (hne : l ≠ []) (f : Nat → Option Nat) :
      l.findSome? f = f 0 := by
    obtain ⟨k, rfl⟩ : ∃ k, l = List.replicate (k + 1) 0 := by
      refine ⟨l.length - 1, ?_⟩
      have hpos := List.length_pos_of_ne_nil hne
      rw [Nat.sub_add_cancel hpos]
      exact List.eq_replicate_of_mem hl
    rw [List.findSome?_replicate, if_neg (Nat.succ_ne_zero k)]
  intro here f
  by_cases hnil : p here = []
  · rw [hnil, (h here).mp hnil]
  · rw [hzero (hp here) hnil, hzero (hq here) fun hq => hnil ((h here).mpr hq)]

/-- How often what reads nothing is repeated does not matter, as long as it is repeated at all. -/
theorem Still.repeated_alike (hp : p.Still) {min min' : Nat} (h : 0 < min ↔ 0 < min')
    (max max' : Option Nat) : (p.repeated greedy min max).Alike (p.repeated greedy min' max') :=
  have hstill (min : Nat) (max : Option Nat) : (p.repeated greedy min max).Still :=
    Every.repeated hp additive_still min max
  (hstill min max).alike (hstill min' max') fun here => by
    rw [hp.repeated_eq_nil, hp.repeated_eq_nil, h]

end Still

end Matcher

end RuleLexer
