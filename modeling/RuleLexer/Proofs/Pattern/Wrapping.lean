import RuleLexer.Pattern.Anchored
import RuleLexer.Proofs.Pattern.Closing
import RuleLexer.Proofs.Pattern.Order

/-!
# Patterns within a group

A pattern is read inside a group that is wrapped around it. What a step reads is decided by the
text and by the flags and names in force, and what it does to the place within the pattern is one of
a few actions. So the same steps are made in front of the bracket that closes the group, with one
more level below all the others. The bracket is the last of them: either it closes the group, or it
belongs to a comment and the group stays open.
-/

namespace RuleLexer.Pattern.Parser

/-- What a step does to a place within a pattern. -/
inductive Action where
  | enter (flags : Flags) (names : List Text)
  | close
  | nextBranch
  | push (p : Pattern)
  | set (flags : Flags)
  | repeated (min : Nat) (max : Option Nat) (greedy : Bool)

namespace Action

/-- What is pushed or repeated asks for no more repetitions than it allows. -/
def Ordered : Action → Prop
  | push p => p.Ordered
  | repeated min max _ => ∀ m ∈ max, min ≤ m
  | _ => True

def run (st : State) : Action → Except Error State
  | enter flags names => .ok ({ st with names := names }.enter flags)
  | close => st.close
  | nextBranch => .ok { st with level := st.level.nextBranch }
  | push p => .ok (st.push p)
  | set flags =>
      .ok { st with flags := flags, level := ⟨st.level.branches, .setting :: st.level.pieces⟩ }
  | repeated min max greedy => repeatLast st min max greedy

/-- The action, in front of the text that is left. -/
def before (act : Action) (left : Text) (st : State) : Except Error (State × Text) :=
  act.run st >>= fun st => pure (st, left)

theorem before_eq_ok {act : Action} {left left' : Text} {st st' : State} :
    act.before left st = .ok (st', left') ↔ act.run st = .ok st' ∧ left = left' := by
  constructor
  · intro h
    obtain ⟨mid, hrun, h⟩ := bind_eq_ok.mp h
    cases h
    exact ⟨hrun, rfl⟩
  · rintro ⟨hrun, rfl⟩
    rw [before, hrun]
    rfl

end Action

/-- A bracket behind the text is left with it, unless it belongs to a comment at its end. -/
def Leaves (left left' : Text) : Prop := left' = left ++ [')'] ∨ left = [] ∧ left' = []

/-- If `x` leads on from `st`, an action does that, and `y` is the same action on `other`. -/
def Acts (st other : State) (x y : Except Error (State × Text)) : Prop :=
  ∀ st' left, x = .ok (st', left) → ∃ (act : Action) (left' : Text),
    act.Ordered ∧ act.run st = .ok st' ∧ y = act.before left' other ∧ Leaves left left'

variable {α : Type} {properties : Properties} {st other st' : State} {c : Char}
  {rest left left' : Text}

theorem acts_before (act : Action) (hact : act.Ordered) (h : Leaves left left') :
    Acts st other (act.before left st) (act.before left' other) := by
  intro st' rest hx
  obtain ⟨hrun, rfl⟩ := Action.before_eq_ok.mp hx
  exact ⟨act, left', hact, hrun, rfl, h⟩

theorem acts_append (act : Action) (rest : Text) (hact : act.Ordered) :
    Acts st other (act.before rest st) (act.before (rest ++ [')']) other) :=
  acts_before act hact (.inl rfl)

theorem acts_error (e : Error) (y : Except Error (State × Text)) : Acts st other (.error e) y := by
  intro st' left h
  cases h

theorem acts_of_closes {x y : Except Error (α × Text)}
    {f g : α × Text → Except Error (State × Text)} (h : Closes x y)
    (hfg : ∀ a rest, x = .ok (a, rest) → Acts st other (f (a, rest)) (g (a, rest ++ [')']))) :
    Acts st other (x >>= f) (y >>= g) := by
  cases x with
  | error e => exact acts_error e _
  | ok found =>
      obtain ⟨a, rest⟩ := found
      rw [h a rest rfl]
      exact hfg a rest rfl

theorem acts_bind (x : Except Error α) {f g : α → Except Error (State × Text)}
    (h : ∀ a, x = .ok a → Acts st other (f a) (g a)) : Acts st other (x >>= f) (x >>= g) := by
  cases x with
  | error e => exact acts_error e _
  | ok a => exact h a rfl

/-- What stands behind a repetition sign does not depend on the bracket. -/
theorem acts_repeated {min : Nat} {max : Option Nat} (hbounds : ∀ m ∈ max, min ≤ m)
    (h : Leaves left left') :
    Acts st other
      (repeatLast st min max (greedyMark left).1 >>= fun st => pure (st, (greedyMark left).2))
      (repeatLast other min max (greedyMark left').1 >>= fun st =>
        pure (st, (greedyMark left').2)) := by
  rcases h with rfl | ⟨rfl, rfl⟩
  · rw [greedyMark_append]
    exact acts_append (.repeated min max _) _ hbounds
  · exact acts_before (.repeated min max true) hbounds (.inr ⟨rfl, rfl⟩)

theorem namedGroup_acts (hflags : other.flags = st.flags) (hnames : other.names = st.names)
    (rest : Text) : Acts st other (namedGroup st rest) (namedGroup other (rest ++ [')'])) := by
  obtain ⟨flags, level, outer, names⟩ := st
  obtain ⟨_, level', outer', _⟩ := other
  obtain rfl : _ = flags := hflags
  obtain rfl : _ = names := hnames
  refine acts_of_closes (groupName_closes [] rest) fun name rest _ => ?_
  dsimp only
  split
  · exact acts_error _ _
  · exact acts_append (.enter _ (name :: _)) rest trivial

theorem elementPattern_ordered {flags : Flags} {element : Element} {p : Pattern}
    (h : elementPattern flags element = .ok p) : p.Ordered := by
  unfold elementPattern at h
  split at h
  · split at h
    · cases h
    · cases h
      exact trivial
  · cases h
    exact trivial
  · cases h
    exact trivial

/-- Bounds that are read are those of a repetition that is possible. -/
theorem counts_ordered {flags : Flags} {text : Text} {bounds : Nat × Option Nat}
    (h : counts flags text = .ok (bounds, rest)) : ∀ m ∈ bounds.2, bounds.1 ≤ m := by
  obtain ⟨⟨min, behind⟩, -, h⟩ := bind_eq_ok.mp h
  dsimp only at h
  split at h
  · cases h
    simp
  · split at h
    · cases h
      simp
    · obtain ⟨⟨max, behind⟩, -, h⟩ := bind_eq_ok.mp h
      dsimp only at h
      split at h
      · split at h
        · rename_i hle
          cases h
          simpa using hle
        · cases h
      · cases h
  · cases h

/-- Flags that are set, for what follows or for the group that begins with them. -/
theorem flagGroup_acts (st other : State) (hnames : other.names = st.names) (rest : Text) :
    Acts st other
      (st.flags.read true [] rest >>= fun (flags, after) =>
        match after with
        | ':' :: after => pure (st.enter flags, after)
        | _ :: after =>
            if after.length + 1 = rest.length then .error .repetitionMissing
            else pure ({ st with flags := flags, level :=
              { st.level with pieces := .setting :: st.level.pieces } }, after)
        | [] => .error .groupUnclosed)
      (st.flags.read true [] (rest ++ [')']) >>= fun (flags, after) =>
        match after with
        | ':' :: after => pure (other.enter flags, after)
        | _ :: after =>
            if after.length + 1 = (rest ++ [')']).length then .error .repetitionMissing
            else pure ({ other with flags := flags, level :=
              { other.level with pieces := .setting :: other.level.pieces } }, after)
        | [] => .error .groupUnclosed) := by
  obtain ⟨flags, level, outer, names⟩ := st
  obtain ⟨flags', level', outer', _⟩ := other
  obtain rfl : _ = names := hnames
  refine acts_of_closes (Flags.read_closes flags true [] rest) fun flags after _ => ?_
  cases after with
  | nil => exact acts_error _ _
  | cons c after =>
      by_cases hc : c = ':'
      · subst hc
        exact acts_append (.enter flags _) after trivial
      · have hlength : (after ++ [')']).length + 1 = (rest ++ [')']).length ↔
            after.length + 1 = rest.length := by simp
        simp only [List.cons_append, hlength]
        split
        · exact acts_error _ _
        · exact acts_append (.set flags) after trivial

theorem read_notFlag (flags : Flags) (rest : Text) :
    flags.read true [] ('P' :: rest) = .error .flags := by
  simp [Flags.read, Flags.switch?]

theorem openGroup_acts (hflags : other.flags = st.flags) (hnames : other.names = st.names)
    (rest : Text) : Acts st other (openGroup st rest) (openGroup other (rest ++ [')'])) := by
  have hnamed := namedGroup_acts hflags hnames
  have hset := flagGroup_acts st other hnames
  have hplain {left left' : Text} (h : Leaves left left') :
      Acts st other (pure (st.enter st.flags, left)) (pure (other.enter st.flags, left')) := by
    have hother : { other with names := st.names } = other := by rw [← hnames]
    have henter : Acts st other _ _ := acts_before (.enter st.flags st.names) trivial h
    rwa [Action.before, Action.before, Action.run, Action.run, hother] at henter
  unfold openGroup
  rw [hflags]
  cases hskip : st.flags.skip rest with
  | nil =>
      rcases skip_append st.flags rest with happend | ⟨-, hnil⟩
      · rw [happend, hskip]
        exact hplain (.inl rfl)
      · rw [hnil]
        exact hplain (.inr ⟨rfl, rfl⟩)
  | cons c text =>
      rw [skip_append_of_cons hskip]
      split
      · exact acts_error _ _
      · exact acts_error _ _
      · exact acts_error _ _
      · exact acts_error _ _
      · rename_i heq
        cases heq
        exact hnamed _
      · rename_i name hequals hbang heq
        cases heq
        cases name with
        | nil => exact hnamed []
        | cons d text =>
            have hd : d ≠ '=' := fun h => hequals text (h ▸ rfl)
            have hd' : d ≠ '!' := fun h => hbang text (h ▸ rfl)
            simp only [List.cons_append, hd, hd', List.cons.injEq, false_and, imp_false,
              not_false_eq_true, implies_true]
            exact hnamed (d :: text)
      · rename_i _ hequals hbang _ _ _ hangle heq
        cases heq
        cases text with
        | nil => exact acts_error _ _
        | cons d text =>
            have hd : d ≠ '=' := fun h => hequals text (h ▸ rfl)
            have hd' : d ≠ '!' := fun h => hbang text (h ▸ rfl)
            have hd'' : d ≠ '<' := fun h => hangle text (h ▸ rfl)
            -- A `P` without a name behind it is no flag.
            by_cases hp : d = 'P'
            · subst hp
              rw [read_notFlag]
              exact acts_error _ _
            · simp only [List.cons_append, hd, hd', hd'', hp, List.cons.injEq, false_and, imp_false,
                not_false_eq_true, implies_true]
              exact hset (d :: text)
      · rename_i hmark
        have hc : c ≠ '?' := fun h => hmark text (h ▸ rfl)
        simp only [hc, List.cons.injEq, false_and, imp_false, not_false_eq_true, implies_true]
        exact hplain (.inl rfl)

/-- A step does what the text tells, whatever has been read before. In front of a closing bracket
it does the same. -/
theorem step_acts (hflags : other.flags = st.flags) (hnames : other.names = st.names) (c : Char)
    (rest : Text) :
    Acts st other (step properties st c rest) (step properties other c (rest ++ [')'])) := by
  unfold step
  split
  · exact openGroup_acts hflags hnames rest
  · exact acts_append .close rest trivial
  · exact acts_append .nextBranch rest trivial
  · rw [hflags]
    refine acts_of_closes (Brackets.read_closes rest) fun inner rest _ => ?_
    exact acts_append (.push _) rest trivial
  · exact acts_repeated (by simp) (.inl rfl)
  · exact acts_repeated (by simp) (.inl rfl)
  · exact acts_repeated (by simp) (.inl rfl)
  · rw [hflags]
    refine acts_of_closes (counts_closes rest) fun bounds rest hcounts => ?_
    exact acts_repeated (counts_ordered hcounts) ((skip_append st.flags rest).imp_right id)
  · rw [hflags]
    refine acts_of_closes (Escape.read_closes rest) fun element rest _ => ?_
    exact acts_bind _ fun p hp => acts_append (.push p) rest (elementPattern_ordered hp)
  · rw [hflags]
    exact acts_bind _ fun s _ => acts_append (.push (.set s 0)) rest trivial
  · rw [hflags]
    exact acts_append (.push _) rest trivial
  · rw [hflags]
    exact acts_append (.push _) rest trivial
  · rw [hflags]
    exact acts_append (.push _) rest trivial

/-- The place with one more group open around all of its groups. -/
def State.under (base : Flags × Level) (st : State) : State :=
  { st with outer := st.outer ++ [base] }

variable {base : Flags × Level} {act : Action} {text : Text} {final : State}

theorem Action.run_under (h : act.run st = .ok st') :
    act.run (st.under base) = .ok (st'.under base) := by
  cases act with
  | enter flags names =>
      cases h
      rfl
  | close =>
      obtain ⟨flags, level, outer, names⟩ := st
      cases outer with
      | nil => cases h
      | cons parent outer =>
          cases h
          rfl
  | nextBranch =>
      cases h
      rfl
  | push p =>
      cases h
      rfl
  | set flags =>
      cases h
      rfl
  | repeated min max greedy =>
      obtain ⟨flags, ⟨branches, pieces⟩, outer, names⟩ := st
      cases pieces with
      | nil => cases h
      | cons piece pieces =>
          cases piece with
          | tree p =>
              cases h
              rfl
          | setting => cases h

/-- Places between which no action makes a difference. The second of them is within a group. -/
structure Simulates (R : State → State → Prop) : Prop where
  flags : ∀ {st other}, R st other → other.flags = st.flags
  names : ∀ {st other}, R st other → other.names = st.names
  within : ∀ {st other}, R st other → other.outer ≠ []
  run : ∀ {st other st'} {act : Action}, R st other → act.run st = .ok st' →
    ∃ other', act.run other = .ok other' ∧ R st' other'

theorem simulates_under (base : Flags × Level) :
    Simulates fun st other => other = st.under base where
  flags := by
    rintro st _ rfl
    rfl
  names := by
    rintro st _ rfl
    rfl
  within := by
    rintro st _ rfl
    simp [State.under]
  run := by
    rintro st _ st' act rfl hrun
    exact ⟨st'.under base, Action.run_under hrun, rfl⟩

variable {fuel fuel' : Nat}

theorem readFrom_of_nil (hskip : st.flags.skip text = []) :
    readFrom properties (fuel + 1) st text = .ok st := by
  rw [readFrom, hskip]

theorem readFrom_of_cons (hskip : st.flags.skip text = c :: rest) :
    readFrom properties (fuel + 1) st text =
      step properties st c rest >>= fun (st, rest) => readFrom properties fuel st rest := by
  rw [readFrom, hskip]

theorem readFrom_nil (fuel : Nat) (st : State) :
    readFrom properties (fuel + 1) st [] = .ok st := by
  refine readFrom_of_nil ?_
  unfold Flags.skip
  split <;> rfl

/-- A reading that goes on does so by an action, with the text that the action leaves. -/
theorem readFrom_eq_ok (hskip : st.flags.skip text = c :: rest)
    (h : readFrom properties (fuel + 1) st text = .ok final) : ∃ mid left,
    step properties st c rest = .ok (mid, left) ∧
      readFrom properties fuel mid left = .ok final := by
  obtain ⟨found, hstep, h⟩ := bind_eq_ok.mp ((readFrom_of_cons hskip).symm.trans h)
  exact ⟨found.1, found.2, hstep, h⟩

/-- What every action keeps holds of the place where a pattern ends. -/
theorem readFrom_invariant {P : State → Prop}
    (hrun : ∀ (act : Action) (st st' : State), act.Ordered → P st → act.run st = .ok st' → P st')
    (h : P st)
    (hread : readFrom properties fuel st text = .ok final) : P final := by
  induction fuel generalizing st text with
  | zero => cases hread
  | succ fuel ih =>
      cases hskip : st.flags.skip text with
      | nil =>
          rw [readFrom_of_nil hskip] at hread
          cases hread
          exact h
      | cons c rest =>
          obtain ⟨mid, left, hstep, hread⟩ := readFrom_eq_ok hskip hread
          have hacts : Acts st st (step properties st c rest) _ := step_acts rfl rfl c rest
          obtain ⟨act, -, hordered, hact, -⟩ := hacts mid left hstep
          exact ih (hrun act st mid hordered h hact) hread

/-- A pattern that can be read by itself is read within a group in the same way, and its closing
bracket closes the group, if anything does. -/
theorem Simulates.readFrom {R : State → State → Prop} (hR : Simulates R) (hst : R st other)
    (hfuel : fuel < fuel') (h : readFrom properties fuel st text = .ok st')
    (hfinal : readFrom properties fuel' other (text ++ [')']) = .ok final)
    (hclosed : final.outer = []) :
    ∃ other', R st' other' ∧ other'.close = .ok final := by
  have hopen {st other : State} (hst : R st other) (fuel : Nat) :
      Parser.readFrom properties (fuel + 1) other [] ≠ .ok final := by
    rw [readFrom_nil]
    rintro ⟨⟩
    exact hR.within hst hclosed
  induction fuel generalizing fuel' st other text with
  | zero => cases h
  | succ fuel ih =>
      obtain ⟨more, rfl⟩ := Nat.exists_eq_add_of_le' (Nat.succ_le_of_lt (Nat.zero_lt_of_lt hfuel))
      obtain ⟨more, rfl⟩ :=
        Nat.exists_eq_add_of_le' (Nat.zero_lt_of_lt (Nat.lt_of_succ_lt_succ hfuel))
      cases hskip : st.flags.skip text with
      | nil =>
          obtain rfl := Except.ok.inj ((readFrom_of_nil hskip).symm.trans h)
          -- At the end of the pattern only the bracket is left, unless a comment has taken it in.
          rcases skip_append st.flags text with happend | ⟨-, hnil⟩
          · rw [hskip, List.nil_append] at happend
            have hbracket : other.flags.skip (text ++ [')']) = [')'] := hR.flags hst ▸ happend
            obtain ⟨mid, left, hstep, hfinal⟩ := readFrom_eq_ok hbracket hfinal
            have hbefore : Action.close.before [] other = .ok (mid, left) := hstep
            obtain ⟨hclose, rfl⟩ := Action.before_eq_ok.mp hbefore
            rw [readFrom_nil] at hfinal
            cases hfinal
            exact ⟨other, hst, hclose⟩
          · have hnil : other.flags.skip (text ++ [')']) = [] := hR.flags hst ▸ hnil
            rw [readFrom_of_nil hnil, ← readFrom_nil 0] at hfinal
            exact absurd hfinal (hopen hst 0)
      | cons c rest =>
          have hskip' : other.flags.skip (text ++ [')']) = c :: (rest ++ [')']) :=
            hR.flags hst ▸ skip_append_of_cons hskip
          obtain ⟨mid, left, hstep, h⟩ := readFrom_eq_ok hskip h
          obtain ⟨mid', left', hstep', hfinal⟩ := readFrom_eq_ok hskip' hfinal
          obtain ⟨act, next, -, hrun, hother, hleft⟩ :=
            step_acts (hR.flags hst) (hR.names hst) c rest mid left hstep
          obtain ⟨hrun', rfl⟩ := Action.before_eq_ok.mp (hother.symm.trans hstep')
          obtain ⟨after, hafter, hmid⟩ := hR.run hst hrun
          obtain rfl := Except.ok.inj (hafter.symm.trans hrun')
          rcases hleft with rfl | ⟨-, rfl⟩
          · exact ih hmid (Nat.lt_of_succ_lt_succ hfuel) h hfinal
          · exact absurd hfinal (hopen hmid more)

end RuleLexer.Pattern.Parser
