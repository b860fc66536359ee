import RuleLexer.Proofs.Ini.Fold

/-!
# The entries of any tokens

Whatever tokens a document is made from, its entries are those of the keys,
in their order. The value of a key is the last one before the next key or
the next bracket. The newest entry of the open section is the only one that
tokens can still change, so of a fold only that entry depends on what is
still to come.
-/

namespace RuleLexer.Ini

/-- The last value in front of the next key or bracket. -/
def ownValue? (tokens : List (Token Kind)) : Option (Token Kind) :=
  ((tokens.takeWhile fun t => t.kind ≠ .keyToken ∧ t.kind ≠ .leftBracket).filter
    (·.kind = .valueToken)).getLast?

/-- The entry of a key with a value or without one. -/
def keyEntry (source : Source) (key : Token Kind) (value : Option (Token Kind)) : Entry where
  key := key.text source
  value := value.elim [] (·.text source)
  keySpan := key.span
  valueSpan := value.map (·.span)
  line := (source.lineCol key.span.start).1

/-- The entries of the keys among the tokens. -/
def entriesOf (source : Source) : List (Token Kind) → List Entry
  | [] => []
  | t :: rest =>
      if t.kind = .keyToken then keyEntry source t (ownValue? rest) :: entriesOf source rest
      else entriesOf source rest

variable {source : Source} {t : Token Kind} {rest : List (Token Kind)}

section Own

theorem ownValue?_of_end (h : t.kind = .keyToken ∨ t.kind = .leftBracket) :
    ownValue? (t :: rest) = none := by
  rcases h with h | h <;> simp [ownValue?, h]

theorem ownValue?_of_value (h : t.kind = .valueToken) :
    ownValue? (t :: rest) = (ownValue? rest).or (some t) := by
  simp [ownValue?, h, List.getLast?_cons]

theorem ownValue?_of_other (hkey : t.kind ≠ .keyToken) (hbracket : t.kind ≠ .leftBracket)
    (hvalue : t.kind ≠ .valueToken) : ownValue? (t :: rest) = ownValue? rest := by
  simp [ownValue?, hkey, hbracket, hvalue]

end Own

/-- The entries when the newest of them, the first, gets a value, if there is one. -/
def setNewest (source : Source) : List Entry → Option (Token Kind) → List Entry
  | e :: newest, some v =>
      { e with value := v.text source, valueSpan := some v.span } :: newest
  | newest, _ => newest

theorem setNewest_none (newest : List Entry) : setNewest source newest none = newest := by
  cases newest <;> rfl

theorem setNewest_setNewest (newest : List Entry) (value : Option (Token Kind)) :
    setNewest source (setNewest source newest (some t)) value =
      setNewest source newest (value.or (some t)) := by
  cases newest <;> cases value <;> rfl

theorem setNewest_keyEntry (newest : List Entry) (value : Option (Token Kind)) :
    setNewest source (keyEntry source t none :: newest) value =
      keyEntry source t value :: newest := by
  cases value <;> rfl

namespace OpenSection

variable {s : OpenSection}

theorem newest_act : (s.act source t).newest = match t.kind with
    | .keyToken => keyEntry source t none :: s.newest
    | .valueToken => setNewest source s.newest (some t)
    | _ => s.newest := by
  obtain ⟨name, span, line, newest⟩ := s
  unfold act
  cases t.kind with
  | valueToken => cases newest <;> rfl
  | _ => rfl

theorem reverse_closed : s.closed.reverse = s.closed := by
  unfold closed
  split <;> rfl

theorem flatMap_entries_closed : s.closed.flatMap (·.entries) = s.newest.reverse := by
  unfold closed isKept
  obtain ⟨name, span, line, newest⟩ := s
  cases name <;> cases newest <;> simp [close]

theorem kept_of_mem_closed {c : Section} (h : c ∈ s.closed) : c.name ≠ none ∨ c.entries ≠ [] := by
  unfold closed isKept at h
  split at h
  · rename_i hkept
    obtain rfl := List.mem_singleton.mp h
    simpa [close, Option.isSome_iff_ne_none] using hkept
  · cases h

end OpenSection

namespace Fold

variable {f : Fold}

/-- A step changes the open section's entries as the token says, and completes the section in front
of a bracket only. -/
theorem step_newest : (f.step source t).current.newest = match t.kind with
    | .leftBracket => []
    | .keyToken => keyEntry source t none :: f.current.newest
    | .valueToken => setNewest source f.current.newest (some t)
    | _ => f.current.newest := by
  unfold step
  split
  · rename_i hheld
    rw [hheld.1]
  · by_cases hbracket : t.kind = .leftBracket
    · simp [add, hbracket, OpenSection.extend, OpenSection.headed]
    · rw [add_eq hbracket]
      refine OpenSection.newest_act.trans ?_
      cases hkind : t.kind with
      | leftBracket => exact absurd hkind hbracket
      | _ => rfl

theorem step_complete : (f.step source t).complete =
    if t.kind = .leftBracket then f.current.closed ++ f.complete else f.complete := by
  by_cases hbracket : t.kind = .leftBracket
  · rw [if_pos hbracket, (step_of_leftBracket hbracket).2]
  · rw [if_neg hbracket]
    unfold step
    split
    · rfl
    · rw [add_eq hbracket]

/-- The entries that a fold comes to with the tokens. -/
def entriesWith (source : Source) (f : Fold) (tokens : List (Token Kind)) : List Entry :=
  f.complete.reverse.flatMap (·.entries) ++
    ((setNewest source f.current.newest (ownValue? tokens)).reverse ++ entriesOf source tokens)

theorem entriesWith_step : (f.step source t).entriesWith source rest =
    f.entriesWith source (t :: rest) := by
  unfold entriesWith
  rw [step_newest, step_complete]
  cases hkind : t.kind with
  | leftBracket =>
      -- No value behind the bracket reaches the section in front of it.
      rw [ownValue?_of_end (.inr hkind), setNewest_none, if_pos rfl, List.reverse_append,
        List.flatMap_append, OpenSection.reverse_closed, OpenSection.flatMap_entries_closed,
        entriesOf, hkind]
      simp [setNewest]
  | keyToken =>
      rw [ownValue?_of_end (.inl hkind), setNewest_none, setNewest_keyEntry, entriesOf,
        if_pos hkind]
      simp
  | valueToken =>
      rw [ownValue?_of_value hkind, setNewest_setNewest, entriesOf, hkind]
      simp
  | _ =>
      rw [ownValue?_of_other (by simp [hkind]) (by simp [hkind]) (by simp [hkind]), entriesOf,
        hkind]
      simp

theorem sections_finish : f.finish.sections = f.complete.reverse ++ f.settled.closed := by
  rw [finish_eq, sections_progress, List.reverse_append, OpenSection.reverse_closed]

theorem newest_settled : f.settled.newest = f.current.newest := by
  unfold settled
  cases f.indent <;> rfl

/-- A run over tokens comes to the entries that the fold comes to with them. -/
theorem entries_foldl (tokens : List (Token Kind)) :
    (tokens.foldl (step source) f).finish.sections.flatMap (·.entries) =
      f.entriesWith source tokens := by
  induction tokens generalizing f with
  | nil =>
      rw [List.foldl_nil, sections_finish, List.flatMap_append, OpenSection.flatMap_entries_closed,
        newest_settled, entriesWith, ownValue?, List.takeWhile_nil, List.filter_nil,
        List.getLast?_nil, setNewest_none, entriesOf, List.append_nil]
  | cons t rest ih => rw [List.foldl_cons, ih, entriesWith_step]

theorem kept_foldl (tokens : List (Token Kind))
    (h : ∀ s ∈ f.complete, s.name ≠ none ∨ s.entries ≠ []) :
    ∀ s ∈ (tokens.foldl (step source) f).finish.sections, s.name ≠ none ∨ s.entries ≠ [] := by
  induction tokens generalizing f with
  | nil =>
      rw [List.foldl_nil, sections_finish]
      refine List.forall_mem_append.mpr ⟨fun s hs => h s (List.mem_reverse.mp hs), fun s hs => ?_⟩
      exact OpenSection.kept_of_mem_closed hs
  | cons t rest ih =>
      refine ih ?_
      rw [step_complete]
      split
      · exact List.forall_mem_append.mpr ⟨fun s hs => OpenSection.kept_of_mem_closed hs, h⟩
      · exact h

end Fold

/-- No entry is lost and none is misplaced, whatever the tokens are, and every section of a document
has a name or an entry. -/
theorem ofTokens_entries (source : Source) (tokens : List (Token Kind)) :
    (Document.ofTokens source tokens).sections.flatMap (·.entries) = entriesOf source tokens ∧
      ∀ s ∈ (Document.ofTokens source tokens).sections, s.name ≠ none ∨ s.entries ≠ [] := by
  refine ⟨?_, Fold.kept_foldl tokens (by simp [Fold.start])⟩
  exact (Fold.entries_foldl tokens).trans (by simp [Fold.entriesWith, Fold.start, setNewest,
    OpenSection.global])

end RuleLexer.Ini
