import RuleLexer.Proofs.Pattern.Greedy
import RuleLexer.Proofs.Pattern.Order

/-!
# The search finds the preferred match

An expression realizes a matcher if, whatever comes after a match, the pass
over the text takes the first match of the matcher's list that can be gone on
from. Each form of an expression realizes the matcher of that form, so an
expression that is made from a pattern realizes the matcher of the pattern.
-/

namespace RuleLexer

open Text

namespace Matcher

/-- Where a match of `n` characters leads: `now` goes on from here if it reads nothing, and
otherwise `k` goes on behind it. -/
def goOn (k : Cursor → Option Nat) (here : Cursor) (now : Option Nat) (n : Nat) : Option Nat :=
  if n = 0 then now else (k (here.skip n)).map (here.bytes n + ·)

/-- The first match that leads anywhere. -/
def best (p : Matcher) (k : Cursor → Option Nat) (here : Cursor) (now : Option Nat) : Option Nat :=
  (p here).findSome? (goOn k here now)

section Best

variable (p q : Matcher) (greedy : Bool) (k : Cursor → Option Nat) (here : Cursor)
  (now : Option Nat)

theorem goOn_zero : goOn k here now 0 = now := rfl

theorem goOn_add {n : Nat} (hn : 0 < n) (i : Nat) : goOn k here now (n + i) =
    (goOn k (here.skip n) (k (here.skip n)) i).map (here.bytes n + ·) := by
  have hne : n + i ≠ 0 := by omega
  by_cases hi : i = 0
  · subst hi
    rw [Nat.add_zero, goOn_zero, goOn, if_neg (Nat.ne_of_gt hn)]
  · simp only [goOn, hne, hi, if_false, ← Cursor.skip_skip, here.bytes_add, Option.map_map,
      Function.comp_def, Nat.add_assoc]

theorem best_empty : empty.best k here now = now := by
  cases now <;> rfl

theorem best_alt : (p.alt q).best k here now = (p.best k here now <|> q.best k here now) := by
  simp only [best, alt, List.findSome?_append, Option.orElse_eq_orElse, Option.orElse_eq_or]

theorem best_opt : (p.opt greedy).best k here now =
    if greedy then p.best k here now <|> now else now <|> p.best k here now := by
  cases greedy
  · exact (best_alt empty p k here now).trans (by rw [best_empty]; rfl)
  · exact (best_alt p empty k here now).trans (by rw [best_empty]; rfl)

theorem findSome?_flatMap {α β γ : Type} (l : List α) (f : α → List β) (g : β → Option γ) :
    (l.flatMap f).findSome? g = l.findSome? fun a => (f a).findSome? g := by
  induction l with
  | nil => rfl
  | cons a l ih =>
      rw [List.flatMap_cons, List.findSome?_append, ih, List.findSome?_cons]
      cases (f a).findSome? g <;> rfl

/-- Behind a match that reads something, `k` goes on from the places behind the next one. -/
theorem best_behind {n : Nat} (hn : 0 < n) :
    ((q (here.skip n)).map (n + ·)).findSome? (goOn k here now) =
      (q.best k (here.skip n) (k (here.skip n))).map (here.bytes n + ·) := by
  rw [List.findSome?_map, best, List.map_findSome?]
  exact congrFun (congrArg List.findSome? (funext (goOn_add k here now hn))) _

theorem best_cat : (p.cat q).best k here now =
    p.best (fun there => q.best k there (k there)) here (q.best k here now) := by
  rw [best, cat, findSome?_flatMap]
  refine congrFun (congrArg List.findSome? (funext fun n => ?_)) _
  by_cases hn : n = 0
  · simp [hn, best, goOn_zero]
  · rw [best_behind q k here now (Nat.pos_of_ne_zero hn), goOn, if_neg hn]

theorem best_plus : (p.plus greedy).best k here now =
    p.best (fun there => (p.further greedy).best k there (k there)) here now := by
  rw [best, plus, findSome?_flatMap]
  refine congrFun (congrArg List.findSome? (funext fun n => ?_)) _
  by_cases hn : n = 0
  · subst hn
    exact best_empty k here now
  · rw [if_neg hn, best_behind _ k here now (Nat.pos_of_ne_zero hn), goOn, if_neg hn]

theorem best_reading : p.reading.best k here now = p.best k here none := by
  unfold best reading
  induction p here with
  | nil => rfl
  | cons n l ih =>
      rw [List.filter_cons, List.findSome?_cons]
      by_cases hn : n = 0
      · simp only [hn, Nat.lt_irrefl, decide_false, Bool.false_eq_true, if_false, ih, goOn_zero]
      · have hpos : 0 < n := Nat.pos_of_ne_zero hn
        simp only [hpos, decide_true, if_true, List.findSome?_cons, ih, goOn, hn, if_false]

theorem Within.best_further {p : Matcher} (hp : p.Within) :
    let further := fun there => (p.further greedy).best k there (k there)
    (p.further greedy).best k here now =
      if greedy then p.best further here none <|> now else now <|> p.best further here none := by
  have hopt : (p.further greedy).best k here now =
      ((p.reading.cat (p.further greedy)).opt greedy).best k here now := by
    rw [best, hp.further_eq, best]
  rw [hopt, best_opt, best_cat, best_reading]

end Best

end Matcher

namespace Regex

namespace Reach

variable (a b : Reach) (k : Option Nat)

theorem progress_eq : a.progress = a.followedBy none := by
  obtain ⟨first, nothing, last⟩ := a
  cases nothing <;> cases first <;> rfl

theorem followedBy_cat :
    (if a.nothing then a.cat b else ⟨a.progress, false, none⟩).followedBy k =
      a.followedBy (b.followedBy k) := by
  obtain ⟨first, nothing, last⟩ := a
  obtain ⟨first', nothing', last'⟩ := b
  cases nothing
  · cases first <;> cases last <;> rfl
  · cases nothing' <;> cases first <;> cases first' <;> cases k <;> cases last' <;> cases last <;>
      rfl

theorem followedBy_alt : (a.alt b).followedBy k = (a.followedBy k <|> b.followedBy k) := by
  obtain ⟨first, nothing, last⟩ := a
  obtain ⟨first', nothing', last'⟩ := b
  cases nothing <;> cases nothing' <;> cases first <;> cases first' <;> cases k <;> cases last <;>
    cases last' <;> rfl

end Reach

/-- The columns along a text when the match of the whole expression is followed by `k`. -/
def columns (r : Regex) (k : Cursor → Option Nat) (before : Option Char) : Text → Column r
  | [] => column r ⟨before, none⟩ (Column.blank r) (k ⟨before, []⟩)
  | c :: rest => column r ⟨before, some c⟩ (columns r k (some c) rest) (k ⟨before, c :: rest⟩)

/-- The column behind the next character. -/
def nextColumn (r : Regex) (k : Cursor → Option Nat) : Cursor → Column r
  | ⟨_, []⟩ => Column.blank r
  | ⟨_, c :: rest⟩ => columns r k (some c) rest

/-- What an expression can do at a place when it is followed by `k`. -/
def reachAt (r : Regex) (k : Cursor → Option Nat) (here : Cursor) : Reach :=
  reach r here.surround (nextColumn r k here)

theorem scan_eq_columns (r : Regex) (before : Option Char) (text : Text) :
    (scan r before text).1 = columns r (fun _ => some 0) before text := by
  induction text generalizing before with
  | nil => rw [scan_nil, columns]
  | cons c text ih => rw [scan_cons, columns, ih]

theorem lengthAt_eq (r : Regex) (before : Option Char) (text : Text) :
    lengthAt r before text = (reachAt r (fun _ => some 0) ⟨before, text⟩).followedBy (some 0) := by
  cases text with
  | nil => rfl
  | cons c text => rw [lengthAt, scan_eq_columns]; rfl

/-- The search takes the first match of the list that can be gone on from. -/
structure Realizes (r : Regex) (p : Matcher) : Prop where
  within : p.Within
  followedBy : ∀ k here now, (reachAt r k here).followedBy now = p.best k here now

variable {r s : Regex} {p q : Matcher}

theorem Realizes.progress (h : r.Realizes p) (k : Cursor → Option Nat) (here : Cursor) :
    (reachAt r k here).progress = p.best k here none := by
  rw [Reach.progress_eq, h.followedBy]

theorem realizes_empty : empty.Realizes .empty where
  within := Matcher.additive_within.empty
  followedBy := by
    intro k here now
    rw [Matcher.best_empty]
    cases now <;> rfl

theorem realizes_assert (a : Assertion) : (assert a).Realizes (.assert a) where
  within := Matcher.additive_within.assert a
  followedBy := by
    intro k here now
    change (⟨none, a.holds here.surround, none⟩ : Reach).followedBy now = _
    cases hholds : a.holds here.surround <;> cases now <;>
      simp [Reach.followedBy, Matcher.best, Matcher.goOn, Matcher.assert, hholds]

theorem realizes_set (s : CharSet) : (set s).Realizes (.set s) where
  within := Matcher.within_set s
  followedBy := by
    rintro k ⟨before, rest⟩ now
    cases rest with
    | nil => rfl
    | cons c rest =>
        have hcolumn : nextColumn (set s) k ⟨before, c :: rest⟩ = k ⟨some c, rest⟩ := by
          cases rest <;> rfl
        have hreach : reachAt (set s) k ⟨before, c :: rest⟩ =
            ⟨if s.mem c then (k ⟨some c, rest⟩).map (c.utf8Size + ·) else none, false, none⟩ := by
          rw [← hcolumn]
          rfl
        rw [hreach]
        cases hmem : s.mem c with
        | false => simp [Reach.followedBy, Matcher.best, Matcher.set, hmem]
        | true =>
            simp [Reach.followedBy, Matcher.best, Matcher.goOn, Matcher.set, hmem, Cursor.skip,
              Cursor.bytes]

theorem columns_cat (r s : Regex) (k : Cursor → Option Nat) (before : Option Char) (text : Text) :
    columns (.cat r s) k before text =
      (columns r (fun there => (reachAt s k there).followedBy (k there)) before text,
        columns s k before text) := by
  induction text generalizing before with
  | nil => rfl
  | cons c text ih => rw [columns, ih]; rfl

theorem nextColumn_cat (r s : Regex) (k : Cursor → Option Nat) (here : Cursor) :
    nextColumn (.cat r s) k here =
      (nextColumn r (fun there => (reachAt s k there).followedBy (k there)) here,
        nextColumn s k here) := by
  obtain ⟨before, rest⟩ := here
  cases rest with
  | nil => rfl
  | cons c rest => exact columns_cat r s k (some c) rest

theorem Realizes.cat (hr : r.Realizes p) (hs : s.Realizes q) :
    (Regex.cat r s).Realizes (p.cat q) where
  within := Matcher.Every.cat hr.within hs.within Matcher.additive_within
  followedBy := by
    intro k here now
    have hk : (fun there => (reachAt s k there).followedBy (k there)) =
        fun there => q.best k there (k there) := funext fun there => hs.followedBy k there _
    rw [reachAt, nextColumn_cat, Matcher.best_cat, ← hk, ← hr.followedBy, ← hs.followedBy]
    exact Reach.followedBy_cat _ _ now

theorem nextColumn_alt (r s : Regex) (k : Cursor → Option Nat) (here : Cursor) :
    nextColumn (.alt r s) k here = (nextColumn r k here, nextColumn s k here) := by
  have hcolumns (before : Option Char) (text : Text) : columns (.alt r s) k before text =
      (columns r k before text, columns s k before text) := by
    induction text generalizing before with
    | nil => rfl
    | cons c text ih => rw [columns, ih]; rfl
  obtain ⟨before, rest⟩ := here
  cases rest with
  | nil => rfl
  | cons c rest => exact hcolumns (some c) rest

theorem Realizes.alt (hr : r.Realizes p) (hs : s.Realizes q) :
    (Regex.alt r s).Realizes (p.alt q) where
  within := Matcher.Every.alt hr.within hs.within
  followedBy := by
    intro k here now
    rw [reachAt, nextColumn_alt, Matcher.best_alt, ← hr.followedBy, ← hs.followedBy]
    exact Reach.followedBy_alt _ _ now

theorem Realizes.opt (hr : r.Realizes p) (greedy : Bool) :
    (Regex.opt greedy r).Realizes (p.opt greedy) := by
  cases greedy
  · exact realizes_empty.alt hr
  · exact hr.alt realizes_empty

/-- What follows an iteration that read something is another one or what follows the repetition. -/
theorem nextColumn_plus (greedy : Bool) {k again : Cursor → Option Nat}
    (h : ∀ here, again here = if greedy then (reachAt r again here).progress <|> k here
      else k here <|> (reachAt r again here).progress) (here : Cursor) :
    nextColumn (.plus greedy r) k here = nextColumn r again here := by
  have hcolumns (before : Option Char) (text : Text) :
      columns (.plus greedy r) k before text = columns r again before text := by
    induction text generalizing before with
    | nil =>
        rw [columns, columns, h]
        rfl
    | cons c text ih =>
        rw [columns, columns, h, ih]
        rfl
  obtain ⟨before, rest⟩ := here
  cases rest with
  | nil => rfl
  | cons c rest => exact hcolumns (some c) rest

theorem Realizes.plus (hr : r.Realizes p) (greedy : Bool) :
    (Regex.plus greedy r).Realizes (p.plus greedy) where
  within := Matcher.Every.plus hr.within Matcher.additive_within
  followedBy := by
    intro k here now
    -- Behind an iteration that read something stands what the repetition can still do there.
    let again := fun there => (p.further greedy).best k there (k there)
    have hagain : ∀ there, again there =
        if greedy then (reachAt r again there).progress <|> k there
        else k there <|> (reachAt r again there).progress := by
      intro there
      rw [hr.progress]
      exact hr.within.best_further greedy k there _
    rw [Matcher.best_plus, ← hr.followedBy, reachAt, nextColumn_plus greedy hagain]
    rfl

theorem Realizes.times (hr : r.Realizes p) (hs : s.Realizes q) (n : Nat) :
    (Regex.times r n s).Realizes (p.times n q) := by
  induction n with
  | zero => exact hs
  | succ n ih => exact hr.cat ih

theorem Realizes.upTo (hr : r.Realizes p) (greedy : Bool) (n : Nat) :
    (Regex.upTo greedy r n).Realizes (p.upTo greedy n) := by
  induction n with
  | zero => exact realizes_empty
  | succ n ih =>
      cases n with
      | zero =>
          have hone : p.upTo greedy 1 = p.opt greedy := by
            rw [Matcher.upTo, Matcher.upTo, Matcher.cat_empty]
          rw [hone]
          exact hr.opt greedy
      | succ n => exact (hr.cat ih).opt greedy

theorem Realizes.repeated (hr : r.Realizes p) (greedy : Bool) (min : Nat) (max : Option Nat) :
    (Regex.repeated greedy min max r).Realizes (p.repeated greedy min max) := by
  cases max with
  | some max => cases min <;> exact hr.times (hr.upTo greedy _) _
  | none =>
      cases min with
      | zero => exact (hr.plus greedy).opt greedy
      | succ min => exact hr.times (hr.plus greedy) min

theorem Realizes.of_alike (hr : r.Realizes p) (hq : q.Within) (h : p.Alike q) : r.Realizes q where
  within := hq
  followedBy := fun k here now => (hr.followedBy k here now).trans (h here _)

end Regex

namespace Pattern

variable {p : Pattern}

theorem Ordered.still (h : p.Ordered) (hnothing : p.readsNothing = true) : p.matcher.Still := by
  have hadd := Matcher.additive_still
  induction p with
  | empty => exact hadd.empty
  | set s nest => cases hnothing
  | assert a => exact hadd.assert a
  | group p ih => exact ih h hnothing
  | cat p q ihp ihq =>
      obtain ⟨hp, hq⟩ := (Bool.and_eq_true _ _).mp hnothing
      exact Matcher.Every.cat (ihp h.1 hp) (ihq h.2 hq) hadd
  | alt p q ihp ihq =>
      obtain ⟨hp, hq⟩ := (Bool.and_eq_true _ _).mp hnothing
      exact Matcher.Every.alt (ihp h.1 hp) (ihq h.2 hq)
  | repeated p min max greedy ih =>
      rcases (Bool.or_eq_true _ _).mp hnothing with hmax | hp
      · obtain rfl : max = some 0 := beq_iff_eq.mp hmax
        obtain rfl : min = 0 := Nat.le_zero.mp (h.1 0 rfl)
        exact hadd.empty
      · exact Matcher.Every.repeated (ih h.2 hp) hadd min max

/-- An expression made from a pattern finds the preferred match of the pattern. -/
theorem Ordered.realizes (h : p.Ordered) : p.toRegex.Realizes p.matcher := by
  induction p with
  | empty => exact Regex.realizes_empty
  | set s nest => exact Regex.realizes_set s
  | assert a => exact Regex.realizes_assert a
  | group p ih => exact ih h
  | cat p q ihp ihq => exact (ihp h.1).cat (ihq h.2)
  | alt p q ihp ihq => exact (ihp h.1).alt (ihq h.2)
  | repeated p min max greedy ih =>
      have hp := ih h.2
      cases hnothing : p.readsNothing with
      | true =>
          have hpos : 0 < Nat.min min 1 ↔ 0 < min := Nat.lt_min.trans (and_iff_left Nat.one_pos)
          have hbounds : p.bounds min max = (Nat.min min 1, some (Nat.min (max.getD 1) 1)) :=
            if_pos hnothing
          rw [toRegex, hbounds]
          exact (hp.repeated greedy _ _).of_alike
            (Matcher.Every.repeated hp.within Matcher.additive_within min max)
            ((h.2.still hnothing).repeated_alike hpos _ max)
      | false =>
          have hbounds : p.bounds min max = (min, max) := if_neg (by simp [hnothing])
          rw [toRegex, hbounds]
          exact hp.repeated greedy min max

theorem Ordered.lengthAt_eq (h : p.Ordered) (text : Text) :
    p.toRegex.lengthAt none text = p.preferred text := by
  rw [Regex.lengthAt_eq, h.realizes.followedBy, Matcher.best, preferred]
  cases p.matcher ⟨none, text⟩ with
  | nil => rfl
  | cons n l =>
      by_cases hn : n = 0
      · simp [hn, Matcher.goOn]
      · simp [hn, Matcher.goOn, Cursor.bytes]

end Pattern

end RuleLexer
