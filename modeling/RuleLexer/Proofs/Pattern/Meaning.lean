import RuleLexer.Proofs.Pattern.Anchoring
import RuleLexer.Proofs.Pattern.Preference

/-!
# What an anchored pattern matches

A pattern that can be read by itself is compiled to the anchor and its own tree. So what it matches
at the start of a text is the preferred match of the tree, unless that match is empty. An anchor
that is written before the pattern stands at the head of its first branch while the pattern is read,
at the bottom of the levels, and matches what the added one matches.
-/

namespace RuleLexer

namespace Pattern

theorem ordered_sequence {ps : List Pattern} (h : ∀ p ∈ ps, p.Ordered) : (sequence ps).Ordered := by
  induction ps with
  | nil => trivial
  | cons p ps ih =>
      obtain ⟨hp, hps⟩ := List.forall_mem_cons.mp h
      cases ps with
      | nil => exact hp
      | cons q ps => exact ⟨hp, ih hps⟩

theorem ordered_choice {ps : List Pattern} (h : ∀ p ∈ ps, p.Ordered) : (choice ps).Ordered := by
  induction ps with
  | nil => trivial
  | cons p ps ih =>
      obtain ⟨hp, hps⟩ := List.forall_mem_cons.mp h
      cases ps with
      | nil => exact hp
      | cons q ps => exact ⟨hp, ih hps⟩

/-- Both have the same matches at the start of every text. -/
def SameAtStart (p q : Pattern) : Prop := ∀ text, p.matcher ⟨none, text⟩ = q.matcher ⟨none, text⟩

theorem SameAtStart.preferred_eq {p q : Pattern} (h : p.SameAtStart q) (text : Text) :
    p.preferred text = q.preferred text := by
  rw [preferred, preferred, h]

theorem sameAtStart_anchored (p : Pattern) : SameAtStart (.cat (.assert .textStart) p) p := by
  intro text
  simp [matcher, Matcher.cat, Matcher.assert, Assertion.holds, Cursor.surround]

theorem sameAtStart_sequence (ps : List Pattern) :
    (sequence ps).SameAtStart (sequence (.assert .textStart :: ps)) := by
  intro text
  cases ps with
  | nil => simp [sequence, matcher, Matcher.empty, Matcher.assert, Assertion.holds, Cursor.surround]
  | cons p ps => exact (sameAtStart_anchored (sequence (p :: ps)) text).symm

theorem sameAtStart_choice {p q : Pattern} (h : p.SameAtStart q) (ps : List Pattern) :
    (choice (p :: ps)).SameAtStart (choice (q :: ps)) := by
  intro text
  cases ps with
  | nil => exact h text
  | cons r ps => exact congrArg (· ++ (choice (r :: ps)).matcher ⟨none, text⟩) (h text)

namespace Parser

/-- Everything that has been read at the level asks for no more repetitions than it allows. -/
structure Level.Ordered (level : Level) : Prop where
  branches : ∀ p ∈ level.branches, p.Ordered
  pieces : ∀ piece ∈ level.pieces, piece.toPattern.Ordered

namespace Level.Ordered

variable {level : Level}

theorem start : Level.start.Ordered := ⟨by simp [Level.start], by simp [Level.start]⟩

theorem cons (h : level.Ordered) (piece : Piece) (hpiece : piece.toPattern.Ordered) :
    Level.Ordered ⟨level.branches, piece :: level.pieces⟩ :=
  ⟨h.branches, List.forall_mem_cons.mpr ⟨hpiece, h.pieces⟩⟩

theorem branch (h : level.Ordered) : level.branch.Ordered := by
  refine ordered_sequence fun p hp => ?_
  obtain ⟨piece, hpiece, rfl⟩ := List.mem_map.mp hp
  exact h.pieces piece (List.mem_reverse.mp hpiece)

theorem nextBranch (h : level.Ordered) : level.nextBranch.Ordered :=
  ⟨List.forall_mem_cons.mpr ⟨h.branch, h.branches⟩, by simp [Level.nextBranch]⟩

theorem finish (h : level.Ordered) : level.finish.Ordered :=
  ordered_choice fun p hp => h.nextBranch.branches p (List.mem_reverse.mp hp)

end Level.Ordered

structure State.Ordered (st : State) : Prop where
  level : st.level.Ordered
  outer : ∀ parent ∈ st.outer, parent.2.Ordered

variable {st st' : State} {act : Action}

theorem Action.Ordered.run (hact : act.Ordered) (h : st.Ordered) (hrun : act.run st = .ok st') :
    st'.Ordered := by
  obtain ⟨flags, ⟨branches, pieces⟩, outer, names⟩ := st
  obtain ⟨hlevel, houter⟩ := h
  cases act with
  | enter flags' names' =>
      cases hrun
      exact ⟨.start, List.forall_mem_cons.mpr ⟨hlevel, houter⟩⟩
  | close =>
      cases outer with
      | nil => cases hrun
      | cons parent outer =>
          cases hrun
          obtain ⟨hparent, houter⟩ := List.forall_mem_cons.mp houter
          exact ⟨hparent.cons (.tree (.group _)) hlevel.finish, houter⟩
  | nextBranch =>
      cases hrun
      exact ⟨hlevel.nextBranch, houter⟩
  | push p =>
      cases hrun
      exact ⟨hlevel.cons (.tree p) hact, houter⟩
  | set flags' =>
      cases hrun
      exact ⟨hlevel.cons .setting trivial, houter⟩
  | repeated min max greedy =>
      cases pieces with
      | nil => cases hrun
      | cons piece pieces =>
          cases piece with
          | setting => cases hrun
          | tree p =>
              cases hrun
              obtain ⟨hp, hpieces⟩ := List.forall_mem_cons.mp hlevel.pieces
              exact ⟨⟨hlevel.branches, List.forall_mem_cons.mpr ⟨⟨hact, hp⟩, hpieces⟩⟩, houter⟩

/-- The second level is the first one with the assertion of the start of the text before its first
branch. -/
inductive Level.Headed : Level → Level → Prop where
  | piece (pieces : List Piece) :
      Headed ⟨[], pieces⟩ ⟨[], pieces ++ [.tree (.assert .textStart)]⟩
  | branch (branches : List Pattern) (pieces : List Piece) {p q : Pattern} (h : p.SameAtStart q) :
      Headed ⟨branches ++ [p], pieces⟩ ⟨branches ++ [q], pieces⟩

namespace Level.Headed

variable {level other : Level}

theorem cons (h : level.Headed other) (piece : Piece) : Level.Headed
    ⟨level.branches, piece :: level.pieces⟩ ⟨other.branches, piece :: other.pieces⟩ := by
  cases h with
  | piece pieces => exact .piece (piece :: pieces)
  | branch branches pieces h => exact .branch branches (piece :: pieces) h

theorem sameAtStart_branch (pieces : List Piece) : (Level.branch ⟨[], pieces⟩).SameAtStart
    (Level.branch ⟨[], pieces ++ [.tree (.assert .textStart)]⟩) := by
  rw [Level.branch, Level.branch, List.reverse_append]
  exact sameAtStart_sequence _

theorem nextBranch (h : level.Headed other) : level.nextBranch.Headed other.nextBranch := by
  cases h with
  | piece pieces => exact .branch [] [] (sameAtStart_branch pieces)
  | branch branches pieces h => exact .branch (_ :: branches) [] h

theorem finish (h : level.Headed other) : level.finish.SameAtStart other.finish := by
  cases h with
  | piece pieces => exact sameAtStart_branch pieces
  | branch branches pieces h =>
      rw [Level.finish, Level.finish, ← List.cons_append, ← List.cons_append, List.reverse_append,
        List.reverse_append]
      exact sameAtStart_choice h _

end Level.Headed

/-- The second stack of levels is the first one with the assertion of the start of the text before
the first branch at its bottom, and with one more group around it. -/
inductive Headed (base : Flags × Level) :
    Level → List (Flags × Level) → Level → List (Flags × Level) → Prop where
  | bottom {level level' : Level} (h : level.Headed level') : Headed base level [] level' [base]
  | inner (level : Level) (flags : Flags) {parent parent' : Level}
      {outer outer' : List (Flags × Level)} (h : Headed base parent outer parent' outer') :
      Headed base level ((flags, parent) :: outer) level ((flags, parent') :: outer')

namespace Headed

variable {base : Flags × Level} {level level' : Level} {outer outer' : List (Flags × Level)}

theorem nextBranch (h : Headed base level outer level' outer') :
    Headed base level.nextBranch outer level'.nextBranch outer' := by
  cases h with
  | bottom h => exact .bottom h.nextBranch
  | inner level flags h => exact .inner level.nextBranch flags h

theorem cons (h : Headed base level outer level' outer') (piece : Piece) :
    Headed base ⟨level.branches, piece :: level.pieces⟩ outer
      ⟨level'.branches, piece :: level'.pieces⟩ outer' := by
  cases h with
  | bottom h => exact .bottom (h.cons piece)
  | inner level flags h => exact .inner _ flags h

theorem replace {branches : List Pattern} {piece : Piece} {pieces : List Piece}
    (h : Headed base ⟨branches, piece :: pieces⟩ outer level' outer') : ∃ branches' pieces',
      level' = ⟨branches', piece :: pieces'⟩ ∧
        ∀ new, Headed base ⟨branches, new :: pieces⟩ outer ⟨branches', new :: pieces'⟩ outer' := by
  cases h with
  | inner _ flags h => exact ⟨branches, pieces, rfl, fun new => .inner _ flags h⟩
  | bottom h =>
      cases h with
      | piece => exact ⟨[], _, rfl, fun new => .bottom (.piece (new :: pieces))⟩
      | branch branches _ h =>
          exact ⟨_, pieces, rfl, fun new => .bottom (.branch branches (new :: pieces) h)⟩

end Headed

/-- The places have the same flags and names in force. -/
def State.Headed (base : Flags × Level) (st other : State) : Prop :=
  other.flags = st.flags ∧ other.names = st.names ∧
    Parser.Headed base st.level st.outer other.level other.outer

theorem State.Headed.run {base : Flags × Level} {other : State} (h : st.Headed base other)
    (hrun : act.run st = .ok st') :
    ∃ other', act.run other = .ok other' ∧ st'.Headed base other' := by
  obtain ⟨flags, level, outer, names⟩ := st
  obtain ⟨_, level', outer', _⟩ := other
  obtain ⟨rfl, rfl, h⟩ := h
  cases act with
  | enter flags' names' =>
      cases hrun
      exact ⟨_, rfl, rfl, rfl, .inner _ _ h⟩
  | close =>
      cases h with
      | bottom h => cases hrun
      | inner level flags' h =>
          cases hrun
          exact ⟨_, rfl, rfl, rfl, h.cons (.tree _)⟩
  | nextBranch =>
      cases hrun
      exact ⟨_, rfl, rfl, rfl, h.nextBranch⟩
  | push p =>
      cases hrun
      exact ⟨_, rfl, rfl, rfl, h.cons (.tree p)⟩
  | set flags' =>
      cases hrun
      exact ⟨_, rfl, rfl, rfl, h.cons .setting⟩
  | repeated min max greedy =>
      obtain ⟨branches, pieces⟩ := level
      cases pieces with
      | nil => cases hrun
      | cons piece pieces =>
          cases piece with
          | setting => cases hrun
          | tree p =>
              cases hrun
              obtain ⟨branches', pieces', rfl, h⟩ := h.replace
              exact ⟨_, rfl, rfl, rfl, h _⟩

theorem simulates_headed (base : Flags × Level) : Simulates (State.Headed base) where
  flags := fun h => h.1
  names := fun h => h.2.1
  within := by
    rintro ⟨flags, level, outer, names⟩ ⟨flags', level', outer', names'⟩ ⟨-, -, h⟩ rfl
    cases h
  run := State.Headed.run

end Parser

open RuleLexer.Pattern.Parser

variable {properties : Properties}

/-- Every pattern that is read can be repeated as often as it asks for. -/
theorem parse_ordered {text : Text} {p : Pattern} (h : parse properties text = .ok p) :
    p.Ordered := by
  obtain ⟨st, hread, -, rfl⟩ := parse_eq_ok.mp h
  have hstart : State.start.Ordered := ⟨.start, by simp [State.start]⟩
  have hst : st.Ordered :=
    readFrom_invariant (fun act _ _ hact hst hrun => hact.run hst hrun) hstart hread
  exact hst.level.finish

/-- With an anchor of its own, a pattern that can be read by itself is still one group behind the
added anchor, and has the same matches at the start of a text. -/
theorem parse_wrap_anchored {p : Text} {t u : Pattern} (hp : parse properties p = .ok t)
    (hu : parse properties (Anchored.wrap ('^' :: p)) = .ok u) :
    ∃ s, u = .cat (.assert .textStart) (.group s) ∧ t.SameAtStart s := by
  obtain ⟨st, hread, houter, rfl⟩ := parse_eq_ok.mp hp
  obtain ⟨final, hwrap, hclosed, rfl⟩ := parse_wrap_eq_ok hu
  let anchored := State.start.push (.assert .textStart)
  have hbehind : readFrom properties (p.length + 4) (anchored.under (.standard, .anchor))
      (p ++ [')']) = .ok final := hwrap
  have hstart : State.Headed (.standard, .anchor) .start (anchored.under (.standard, .anchor)) :=
    ⟨rfl, rfl, .bottom (.piece [])⟩
  obtain ⟨other, ⟨-, -, hheaded⟩, hclose⟩ := (simulates_headed (.standard, .anchor)).readFrom hstart
    (by omega) hread hbehind hclosed
  obtain ⟨flags, level, outer, names⟩ := other
  rw [houter] at hheaded
  cases hheaded with
  | bottom h =>
      cases hclose
      exact ⟨level.finish, rfl, h.finish⟩

end Pattern

namespace Anchored

variable {properties : Pattern.Properties} {limits : Pattern.Limits} {p : Text} {t : Pattern}
  {a : Anchored}

theorem prefixLength_eq_filter (ht : t.Ordered)
    (hregex : a.regex = .cat (.assert .textStart) t.toRegex) (text : Text) :
    a.prefixLength text = (t.preferred text).filter (0 < ·) := by
  obtain ⟨pattern, regex⟩ := a
  obtain rfl : regex = _ := hregex
  rw [Regex.prefixLength_anchored, ht.lengthAt_eq]

/-- A pattern that can be read by itself is compiled to the anchor and its own tree. What it matches
is the preferred match of the tree at the start of the text, unless that is empty, and a further
anchor before the pattern makes no difference. -/
theorem prefixLength_eq_some_iff (hp : Pattern.parse properties p = .ok t)
    (ha : compile properties limits p = .ok a) :
    (∀ text n, a.prefixLength text = some n ↔ 0 < n ∧ t.preferred text = some n) ∧
      a.regex = .cat (.assert .textStart) t.toRegex ∧
      (∀ text skipped length, a.regex.find? text = some (skipped, length) → skipped = 0) ∧
      ∀ b, compile properties limits ('^' :: p) = .ok b →
        ∀ text, b.prefixLength text = a.prefixLength text := by
  have ht : t.Ordered := Pattern.parse_ordered hp
  obtain ⟨u, hparse, hregex⟩ := compile_eq_ok ha
  obtain rfl := Pattern.parse_wrap_of_parse hp hparse
  have hlength := prefixLength_eq_filter ht hregex
  refine ⟨fun text n => ?_, hregex, fun text skipped length hfind => ?_, fun b hb text => ?_⟩
  · rw [hlength, Option.filter_eq_some_iff, decide_eq_true_eq, and_comm]
  · rw [hregex] at hfind
    exact Regex.find?_of_leads rfl hfind
  · obtain ⟨v, hparse', hregex'⟩ := compile_eq_ok hb
    obtain ⟨s, rfl, hsame⟩ := Pattern.parse_wrap_anchored hp hparse'
    have hs : s.Ordered := (Pattern.parse_ordered hparse').2
    rw [hlength, prefixLength_eq_filter hs hregex', hsame.preferred_eq]

theorem prefixLength_eq_some_iff_choice : ∃ a b,
    compile .known .standard "\\p\x7bNd\x7d|(?i)\\P\x7bNd\x7db".toList = .ok a ∧
    compile .known .standard "^\\p\x7bNd\x7d|(?i)\\P\x7bNd\x7db".toList = .ok b ∧
    a.prefixLength "aBb".toList = some 2 ∧ b.prefixLength "aBb".toList = some 2 := by
  let p : Text := "\\p\x7bNd\x7d|(?i)\\P\x7bNd\x7db".toList
  have hp : ∃ t, Pattern.parse .known p = .ok t ∧ t.preferred "aBb".toList = some 2 :=
    ⟨_, rfl, by decide +kernel⟩
  have ha : ∃ a, compile .known .standard p = .ok a := ⟨_, rfl⟩
  have hb : ∃ b, compile .known .standard ('^' :: p) = .ok b := ⟨_, rfl⟩
  obtain ⟨t, hparse, hpreferred⟩ := hp
  obtain ⟨a, ha⟩ := ha
  obtain ⟨b, hb⟩ := hb
  obtain ⟨hlength, -, -, hsame⟩ := prefixLength_eq_some_iff hparse ha
  have htwo : a.prefixLength "aBb".toList = some 2 := (hlength _ 2).mpr ⟨by decide, hpreferred⟩
  exact ⟨a, b, ha, hb, htwo, (hsame b hb _).trans htwo⟩

end Anchored

end RuleLexer
