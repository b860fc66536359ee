import RuleLexer.Proofs.Pattern.Leading
import RuleLexer.Proofs.Pattern.Wrapping

/-!
# Where anchored patterns match

The anchor stands before the first branch of what is compiled. A pattern that can be read by itself
ends where its group ends, so there is only that branch. Other patterns may close the group
themselves, and what they write behind a `|` then is a branch of its own, without the anchor. What
is known of every pattern is where the anchor is kept while it is read: at the bottom of the levels,
before something else or in the first branch.
-/

namespace RuleLexer

namespace Pattern

theorem sequence_cons (p : Pattern) {ps : List Pattern} (h : ps ≠ []) :
    sequence (p :: ps) = .cat p (sequence ps) := by
  cases ps with
  | nil => exact absurd rfl h
  | cons q ps => rfl

theorem choice_cons (p : Pattern) {ps : List Pattern} (h : ps ≠ []) :
    choice (p :: ps) = .alt p (choice ps) := by
  cases ps with
  | nil => exact absurd rfl h
  | cons q ps => rfl

namespace Parser

/-- The level that has the added anchor only. -/
def Level.anchor : Level := ⟨[], [.tree (.assert .textStart)]⟩

/-- The anchor is followed by something, in the branch under way or in a complete one. -/
inductive Level.Leads : Level → Prop where
  | piece (piece : Piece) (pieces : List Piece) :
      Leads ⟨[], piece :: pieces ++ [.tree (.assert .textStart)]⟩
  | branch (branches : List Pattern) (q : Pattern) (pieces : List Piece) :
      Leads ⟨branches ++ [.cat (.assert .textStart) q], pieces⟩

namespace Level

variable {level : Level}

theorem branch_anchored (branches : List Pattern) (piece : Piece) (pieces : List Piece) :
    branch ⟨branches, piece :: pieces ++ [.tree (.assert .textStart)]⟩ =
      .cat (.assert .textStart) (branch ⟨branches, piece :: pieces⟩) := by
  have hne : (piece :: pieces).reverse.map Piece.toPattern ≠ [] := by simp
  rw [branch, branch, List.reverse_append]
  exact sequence_cons _ hne

theorem Leads.cons (h : level.Leads) (piece : Piece) :
    Leads ⟨level.branches, piece :: level.pieces⟩ := by
  cases h with
  | piece front pieces => exact .piece piece (front :: pieces)
  | branch branches q pieces => exact .branch branches q (piece :: pieces)

theorem Leads.replace {old : Piece} {pieces : List Piece}
    (h : Leads ⟨level.branches, old :: pieces⟩) (piece : Piece) :
    Leads ⟨level.branches, piece :: pieces⟩ := by
  obtain ⟨branches, _⟩ := level
  cases h with
  | piece front rest => exact .piece piece rest
  | branch branches q pieces => exact .branch branches q _

theorem Leads.nextBranch (h : level.Leads) : level.nextBranch.Leads := by
  cases h with
  | piece front pieces =>
      rw [Level.nextBranch, branch_anchored]
      exact .branch [] _ []
  | branch branches q pieces => exact .branch (_ :: branches) q []

/-- The finished level has one branch behind the anchor, or more branches after such a one. -/
theorem Leads.finish (h : level.Leads) : (∃ q, level.finish = .cat (.assert .textStart) q) ∨
    ∃ q u, level.finish = .alt (.cat (.assert .textStart) q) u := by
  cases h with
  | piece front pieces =>
      exact .inl ⟨Level.branch ⟨[], front :: pieces⟩, branch_anchored [] front pieces⟩
  | branch branches q pieces =>
      have hne (last : Pattern) : branches.reverse ++ [last] ≠ [] := by simp
      have hfinish (last : Pattern) :
          choice (last :: (branches ++ [.cat (.assert .textStart) q])).reverse =
            .alt (.cat (.assert .textStart) q) (choice (branches.reverse ++ [last])) := by
        rw [List.reverse_cons, List.reverse_append]
        exact choice_cons _ (hne last)
      exact .inr ⟨q, _, hfinish _⟩

end Level

/-- Whatever the open groups come to hold, the anchor leads once they are closed. -/
def Level.LeadsWithin (level : Level) : List (Flags × Level) → Prop
  | [] => level.Leads
  | (_, parent) :: outer => ∀ p, (parent.push p).LeadsWithin outer

variable {st st' : State}

theorem Level.LeadsWithin.imp {level level' : Level} {outer : List (Flags × Level)}
    (h : level.LeadsWithin outer) (hlevel : level.Leads → level'.Leads) :
    level'.LeadsWithin outer := by
  cases outer with
  | nil => exact hlevel h
  | cons parent outer => exact h

theorem Action.leads (act : Action) (h : st.level.LeadsWithin st.outer)
    (hrun : act.run st = .ok st') : st'.level.LeadsWithin st'.outer := by
  obtain ⟨flags, ⟨branches, pieces⟩, outer, names⟩ := st
  cases act with
  | enter flags' names' =>
      cases hrun
      exact fun p => h.imp fun h => h.cons (.tree p)
  | close =>
      cases outer with
      | nil => cases hrun
      | cons parent outer =>
          cases hrun
          exact h _
  | nextBranch =>
      cases hrun
      exact h.imp Level.Leads.nextBranch
  | push p =>
      cases hrun
      exact h.imp fun h => h.cons (.tree p)
  | set flags' =>
      cases hrun
      exact h.imp fun h => h.cons .setting
  | repeated min max greedy =>
      cases pieces with
      | nil => cases hrun
      | cons piece pieces =>
          cases piece with
          | setting => cases hrun
          | tree p =>
              cases hrun
              exact h.imp fun h => h.replace _

end Parser

open RuleLexer.Pattern.Parser

variable {properties : Properties}

theorem parse_eq_ok {text : Text} {p : Pattern} : parse properties text = .ok p ↔
    ∃ st, readFrom properties (text.length + 1) .start text = .ok st ∧ st.outer = [] ∧
      st.level.finish = p := by
  refine bind_eq_ok.trans (exists_congr fun st => and_congr_right fun _ => ?_)
  obtain ⟨flags, level, outer, names⟩ := st
  cases outer <;> simp [pure, Except.pure]

/-- What is added in front of a pattern is read as an anchor and an open group. -/
theorem parse_wrap_eq_ok {p : Text} {u : Pattern}
    (h : parse properties (Anchored.wrap p) = .ok u) : ∃ st,
    readFrom properties (p.length + 4) (State.start.under (.standard, .anchor)) (p ++ [')']) =
      .ok st ∧ st.outer = [] ∧ st.level.finish = u := by
  obtain ⟨st, hread, hst⟩ := parse_eq_ok.mp h
  have hlength : (Anchored.wrap p).length + 1 = p.length + 4 + 1 + 1 := by
    simp [Anchored.wrap]
  rw [hlength] at hread
  exact ⟨st, hread, hst⟩

/-- A pattern that can be read by itself is one group behind the anchor. -/
theorem parse_wrap_of_parse {p : Text} {t u : Pattern} (hp : parse properties p = .ok t)
    (hu : parse properties (Anchored.wrap p) = .ok u) :
    u = .cat (.assert .textStart) (.group t) := by
  obtain ⟨st, hread, houter, rfl⟩ := parse_eq_ok.mp hp
  obtain ⟨final, hwrap, hclosed, rfl⟩ := parse_wrap_eq_ok hu
  obtain ⟨_, rfl, hclose⟩ :=
    (simulates_under (.standard, .anchor)).readFrom rfl (by omega) hread hwrap hclosed
  obtain ⟨flags, level, outer, names⟩ := st
  obtain rfl : outer = [] := houter
  cases hclose
  rfl

theorem parse_wrap_leads {p : Text} {u : Pattern}
    (h : parse properties (Anchored.wrap p) = .ok u) :
    (∃ q, u = .cat (.assert .textStart) q) ∨ ∃ q v, u = .alt (.cat (.assert .textStart) q) v := by
  obtain ⟨st, hread, houter, rfl⟩ := parse_wrap_eq_ok h
  have hstart : State.start.level.LeadsWithin [(.standard, .anchor)] :=
    fun p => .piece (.tree p) []
  have hleads : st.level.LeadsWithin st.outer :=
    readFrom_invariant (fun act _ _ _ hst hrun => act.leads hst hrun) hstart hread
  rw [houter] at hleads
  exact hleads.finish

theorem limitTo_eq_ok {limits : Limits} {p q : Pattern} (h : p.limitTo limits = .ok q) : q = p := by
  unfold limitTo at h
  split at h
  · cases h
  · split at h
    · cases h
    · exact (Except.ok.inj h).symm

end Pattern

namespace Anchored

variable {properties : Pattern.Properties} {limits : Pattern.Limits} {p text : Text}
  {a : Anchored} {n : Nat}

theorem compile_eq_ok (h : compile properties limits p = .ok a) :
    ∃ u, Pattern.parse properties (wrap p) = .ok u ∧ a.regex = u.toRegex := by
  obtain ⟨u, hparse, h⟩ := bind_eq_ok.mp h
  have hrest : (u.limitTo limits).bind (fun tree => .ok ⟨p, tree.toRegex⟩) = .ok a := h
  obtain ⟨tree, hlimit, htree⟩ := bind_eq_ok.mp hrest
  obtain rfl := Pattern.limitTo_eq_ok hlimit
  cases htree
  exact ⟨tree, hparse, rfl⟩

theorem exists_find?_of_prefixLength (h : a.prefixLength text = some n) :
    ∃ skipped length, a.regex.find? text = some (skipped, length) ∧ skipped + length = n := by
  unfold prefixLength at h
  cases hfind : a.regex.find? text with
  | none =>
      rw [hfind] at h
      cases h
  | some found =>
      rw [hfind] at h
      obtain ⟨-, h⟩ := Option.ite_none_right_eq_some.mp h
      exact ⟨found.1, found.2, rfl, Option.some.inj h⟩

/-- A match that is reported begins at the start of the text, unless the pattern cannot be read by
itself and has a branch outside of the group that is added to it, which does not begin with the
assertion of the start of the text. -/
theorem find?_of_prefixLength (hcompile : compile properties limits p = .ok a)
    (hlength : a.prefixLength text = some n) :
    a.regex.find? text = some (0, n) ∨ (∀ t, Pattern.parse properties p ≠ .ok t) ∧
      ∃ q v : Pattern,
        Pattern.parse properties (wrap p) = .ok (.alt (.cat (.assert .textStart) q) v) ∧
          v.toRegex.leads = false := by
  obtain ⟨u, hparse, hregex⟩ := compile_eq_ok hcompile
  have hstart (hleads : u.toRegex.leads = true) : a.regex.find? text = some (0, n) := by
    obtain ⟨skipped, length, hfind, hsum⟩ := exists_find?_of_prefixLength hlength
    obtain rfl := Regex.find?_of_leads hleads (hregex ▸ hfind)
    rw [hfind, ← hsum, Nat.zero_add]
  rcases Pattern.parse_wrap_leads hparse with ⟨q, rfl⟩ | ⟨q, v, rfl⟩
  · exact .inl (hstart rfl)
  · cases hv : v.toRegex.leads with
    | true => exact .inl (hstart hv)
    | false =>
        refine .inr ⟨fun t ht => ?_, q, v, hparse, hv⟩
        have hone := Pattern.parse_wrap_of_parse ht hparse
        cases hone

theorem find?_of_prefixLength_choice :
    ∃ a, compile .known .standard "\\p\x7bNd\x7d|b".toList = .ok a ∧
      a.prefixLength "bx".toList = some 1 ∧ a.regex.find? "bx".toList = some (0, 1) := by
  let a : Anchored := ⟨"\\p\x7bNd\x7d|b".toList,
    .cat (.assert .textStart) (.alt (.set .digit) (.set (.single 'b')))⟩
  have hcompile : compile .known .standard "\\p\x7bNd\x7d|b".toList = .ok a := rfl
  have hlength : a.prefixLength "bx".toList = some 1 := by decide +kernel
  have hparse : Pattern.parse .known "\\p\x7bNd\x7d|b".toList =
      .ok (.alt (.set .digit 0) (.set (.single 'b') 0)) := rfl
  exact ⟨a, hcompile, hlength,
    (find?_of_prefixLength hcompile hlength).resolve_right fun h => h.1 _ hparse⟩

/-- The pattern `a)|(?:b` closes the added group. Its branch `b` is found behind an `x`. -/
theorem prefixLength_behind_start : ¬ ∀ (properties : Pattern.Properties)
    (limits : Pattern.Limits) (p text : Text) (a : Anchored) (n : Nat),
      compile properties limits p = .ok a → a.prefixLength text = some n →
        a.regex.find? text = some (0, n) := by
  let a : Anchored := ⟨"a)|(?:b".toList,
    .alt (.cat (.assert .textStart) (.set (.single 'a'))) (.set (.single 'b'))⟩
  have hcompile : compile .known .standard "a)|(?:b".toList = .ok a := rfl
  have hlength : a.prefixLength "xb".toList = some 2 := by decide +kernel
  have hfind : a.regex.find? "xb".toList = some (1, 1) := by decide +kernel
  intro h
  have hstart := h _ _ _ _ a 2 hcompile hlength
  rw [hfind] at hstart
  cases hstart

end Anchored

end RuleLexer
