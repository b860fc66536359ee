import RuleLexer.Proofs.Lexer.Primitive

/-!
# Reading within a line

A reader keeps to a line if it reads from a text what it reads from the
first line of that text alone. Readers of characters other than those of
a line break do, and so do patterns, sequences and choices. Followed by an
end of line, such a reader accepts exactly the lines that it reads up.
-/

namespace RuleLexer

variable {K : Type}

namespace Text

theorem Begins.drop {text front left rest : Text} {brk : Break}
    (h : Begins text (front ++ left) brk rest) :
    Begins (left ++ (brk.text ++ rest)) left brk rest where
  eq := rfl
  noFeed := fun hmem => h.noFeed (List.mem_append_right _ hmem)
  last := h.last
  noReturn := by
    intro hbrk hreturn
    apply h.noReturn hbrk
    rw [List.getLast?_append, hreturn]
    rfl

theorem firstLine_of_not_mem {line : Text} (h : '\n' ∉ line) : firstLine line = line := if_neg h

/-- What stops at the characters of a line break stops at the end of a line. -/
theorem Begins.stops {text line rest : Text} {brk : Break} (h : Begins text line brk rest)
    {p : Char → Bool} (hfeed : p '\n' = false) (hreturn : p '\r' = false) :
    Stops p (brk.text ++ rest) := by
  cases brk with
  | none => simp [Break.text, h.last rfl]
  | feed => simpa [Break.text] using hfeed
  | returnFeed => simpa [Break.text] using hreturn

end Text

namespace Reader

open Text

structure InLine (f : Reader K) : Prop where
  split : ∀ {text ps rest}, f text = some (ps, rest) → text = Piece.join ps ++ rest
  onLine : ∀ {text line brk rest}, Begins text line brk rest →
    f text = (f line).map fun (ps, left) => (ps, left ++ (brk.text ++ rest))

theorem InLine.token {front : Text → Text} (hstart : ∀ text, front text <+: text)
    (hfront : ∀ {text line brk rest}, Begins text line brk rest → front text = front line)
    (kind : K) : (token front kind).InLine where
  split := by
    intro text ps rest h
    obtain ⟨hne, rfl, htext⟩ := (token_eq_some (hstart text)).mp h
    simpa using htext
  onLine := by
    intro text line brk rest h
    have heq := hfront h
    by_cases hempty : front line = []
    · rw [token_eq_none.mpr hempty, token_eq_none.mpr (heq.trans hempty)]
      rfl
    · obtain ⟨left, hleft⟩ := hstart line
      have hline : Reader.token front kind line = some ([⟨front line, kind, hempty⟩], left) :=
        (token_eq_some (hstart line)).mpr ⟨hempty, rfl, hleft.symm⟩
      rw [hline]
      refine (token_eq_some (hstart text)).mpr ⟨heq ▸ hempty, by simp [heq], ?_⟩
      calc
        text = (front line ++ left) ++ (brk.text ++ rest) := by rw [hleft, h.eq]
        _ = front text ++ (left ++ (brk.text ++ rest)) := by rw [heq, List.append_assoc]

theorem InLine.run {p : Char → Bool} (hfeed : p '\n' = false) (hreturn : p '\r' = false)
    (kind : K) : (run p kind).InLine := by
  refine .token (fun text => List.takeWhile_prefix p) ?_ kind
  intro text line brk rest h
  rw [h.eq, takeWhile_append_stops line (h.stops hfeed hreturn)]

theorem InLine.char {c : Char} (hfeed : c ≠ '\n') (hreturn : c ≠ '\r') (kind : K) :
    (literal [c] kind).InLine := by
  refine .token (literalFront_isPrefix [c]) ?_ kind
  intro text line brk rest h
  have hstops : Stops (· == c) (brk.text ++ rest) :=
    h.stops (by simpa using hfeed.symm) (by simpa using hreturn.symm)
  unfold literalFront startsWith
  rw [h.eq]
  cases line with
  | nil =>
      cases htail : brk.text ++ rest with
      | nil => rfl
      | cons d tail =>
          rw [htail, stops_cons, beq_eq_false_iff_ne] at hstops
          simp [hstops.symm]
  | cons d line => rfl

theorem InLine.pattern (p : Anchored) (kind : K) : (pattern p kind).InLine := by
  refine .token p.front_isPrefix ?_ kind
  intro text line brk rest h
  rw [Anchored.front, Anchored.front, h.firstLine_eq, firstLine_of_not_mem h.noFeed]

variable {f g : Reader K}

theorem InLine.nothing : (nothing : Reader K).InLine where
  split := by
    intro text ps rest h
    simp only [Reader.nothing, Option.some.injEq, Prod.mk.injEq] at h
    simp [← h.1, h.2]
  onLine := by
    intro text line brk rest h
    simp [Reader.nothing, h.eq]

theorem InLine.never : (never : Reader K).InLine :=
  ⟨by simp [Reader.never], by simp [Reader.never]⟩

theorem InLine.andThen (hf : f.InLine) (hg : g.InLine) : (f.andThen g).InLine where
  split := by
    intro text ps rest h
    obtain ⟨qs, middle, rs, hqs, hrs, rfl⟩ := andThen_eq_some.mp h
    rw [hf.split hqs, hg.split hrs]
    simp
  onLine := by
    intro text line brk rest h
    have htext := hf.onLine h
    cases hline : f line with
    | none =>
        rw [hline] at htext
        rw [andThen_of_none htext, andThen_of_none hline]
        rfl
    | some found =>
        obtain ⟨ps, left⟩ := found
        rw [hline] at htext
        rw [hf.split hline] at h
        rw [andThen_of_some htext, andThen_of_some hline, hg.onLine h.drop]
        cases g left <;> rfl

theorem InLine.orElse (hf : f.InLine) (hg : g.InLine) : (f.orElse g).InLine where
  split := by
    intro text ps rest h
    rcases orElse_eq_some.mp h with h | ⟨-, h⟩
    · exact hf.split h
    · exact hg.split h
  onLine := by
    intro text line brk rest h
    have htext := hf.onLine h
    unfold Reader.orElse
    cases hline : f line with
    | none =>
        rw [hline] at htext
        rw [htext]
        exact hg.onLine h
    | some found =>
        rw [hline] at htext
        rw [htext]
        rfl

theorem InLine.option (hf : f.InLine) : f.option.InLine := hf.orElse .nothing

theorem InLine.seq {fs : List (Reader K)} (h : ∀ f ∈ fs, f.InLine) : (seq fs).InLine := by
  induction fs with
  | nil => exact .nothing
  | cons f fs ih =>
      rw [List.forall_mem_cons] at h
      exact h.1.andThen (ih h.2)

theorem InLine.oneOf {fs : List (Reader K)} (h : ∀ f ∈ fs, f.InLine) : (oneOf fs).InLine := by
  induction fs with
  | nil => exact .never
  | cons f fs ih =>
      rw [List.forall_mem_cons] at h
      exact h.1.orElse (ih h.2)

theorem seq_concat (fs : List (Reader K)) (g : Reader K) :
    seq (fs ++ [g]) = andThen (seq fs) g := by
  funext text
  induction fs generalizing text with
  | nil =>
      simp only [List.nil_append, seq_cons, seq_nil, andThen, nothing]
      cases g text <;> simp
  | cons f fs ih =>
      rw [List.cons_append, seq_cons, seq_cons]
      cases hf : f text with
      | none => simp only [andThen, hf]
      | some found =>
          obtain ⟨ps, middle⟩ := found
          simp only [andThen, hf, ih middle]
          cases Reader.seq fs middle with
          | none => rfl
          | some found =>
              simp only [Option.map_some]
              cases g found.2 <;> simp

end Reader

/-- The end of a line as a token, unless it is the end of the text. -/
def Text.Break.pieces (brk : Text.Break) (kind : K) : List (Piece K) := Piece.ofText brk.text kind

namespace Reader

open Text

theorem eol_of_nil {text rest : Text} {brk : Break} (h : Begins text [] brk rest) (kind : K) :
    eol kind text = some (brk.pieces kind, rest) := by
  rw [h.eq]
  cases brk with
  | none => rw [h.last rfl]; rfl
  | feed => rfl
  | returnFeed => rfl

/-- A carriage return with a newline behind it is the line break itself. -/
theorem eol_of_cons {text line rest : Text} {brk : Break} {c : Char}
    (h : Begins text (c :: line) brk rest) (kind : K) : eol kind text = none := by
  have hc : c ≠ '\n' := fun heq => h.noFeed (by simp [heq])
  have hreturn : ¬['\r', '\n'] <+: text := by
    rintro ⟨tail, htail⟩
    rw [h.eq] at htail
    obtain ⟨rfl, hrest⟩ := List.cons.inj htail
    cases line with
    | nil =>
        cases brk with
        | none => simp [Break.text, h.last rfl] at hrest
        | feed => exact h.noReturn rfl rfl
        | returnFeed => simp [Break.text] at hrest
    | cons d line =>
        obtain ⟨hd, -⟩ := List.cons.inj hrest
        exact h.noFeed (by simp [← hd])
  have htext : text = c :: (line ++ (brk.text ++ rest)) := h.eq
  have hend : (atEnd : Reader K) text = none := by simp [atEnd, htext]
  have hfeed : literal ['\n'] kind text = none := by
    refine token_eq_none.mpr (if_neg ?_)
    simp [htext, startsWith, Ne.symm hc]
  have hboth : literal ['\r', '\n'] kind text = none :=
    token_eq_none.mpr (if_neg fun hstart => hreturn (startsWith_iff.mp hstart))
  simp [eol, newline, oneOf_cons, orElse, never, hend, hfeed, hboth]

/-- A reader that keeps to a line, with the end of the line behind it. -/
theorem InLine.andThen_eol {f : Reader K} (hf : f.InLine) {text line rest : Text} {brk : Break}
    (h : Begins text line brk rest) (kind : K) {ps : List (Piece K)} {left : Text} :
    f.andThen (eol kind) text = some (ps, left) ↔
      ∃ qs, f line = some (qs, []) ∧ ps = qs ++ brk.pieces kind ∧ left = rest := by
  rw [andThen_eq_some, hf.onLine h]
  constructor
  · rintro ⟨qs, middle, rs, hqs, hrs, rfl⟩
    obtain ⟨⟨qs, tail⟩, hline, heq⟩ := Option.map_eq_some_iff.mp hqs
    obtain ⟨rfl, rfl⟩ := Prod.mk.inj heq
    rw [hf.split hline] at h
    cases tail with
    | nil =>
        rw [eol_of_nil h.drop kind] at hrs
        obtain ⟨rfl, rfl⟩ := Prod.mk.inj (Option.some.inj hrs)
        exact ⟨qs, hline, rfl, rfl⟩
    | cons c tail =>
        rw [eol_of_cons h.drop kind] at hrs
        exact absurd hrs (by simp)
  · rintro ⟨qs, hline, rfl, rfl⟩
    rw [hf.split hline] at h
    exact ⟨qs, _, _, by rw [hline]; rfl, eol_of_nil h.drop kind, rfl⟩

end Reader

end RuleLexer
