import RuleLexer.Text.Source
import RuleLexer.Text.Quoted

/-!
# Windows

A window is a span of a source together with the text it covers. Matchers look at the start of a
window: each answers with a span that begins there and is not empty, or with none. The end of such
a span lies within the source, so no offset computed here can leave the word range.
-/

namespace RuleLexer

structure Window where
  source : Source
  span : Span
  /-- The text covered by the span. -/
  text : Text
  text_eq : text = source.slice span

namespace Window

theorem ext {a b : Window} (hsource : a.source = b.source) (hspan : a.span = b.span) : a = b := by
  cases a with
  | mk source span text text_eq =>
      cases b with
      | mk source' span' text' text_eq' =>
          dsimp only at hsource hspan
          subst hsource hspan text_eq text_eq'
          rfl

/-- The window of a span, which need not lie within the source. -/
def ofSpan (source : Source) (span : Span) : Window := ⟨source, span, source.slice span, rfl⟩

def full (source : Source) : Window := ofSpan source source.fullSpan

/-- The window of a span that must lie within the source and on character boundaries. -/
def new (source : Source) (span : Span) : Except Fault Window :=
  if source.size < span.stop then .error (.beyondSource span source.size)
  else if Text.isBoundary source.text span.start && Text.isBoundary source.text span.stop then
    .ok (ofSpan source span)
  else .error (.splitCharacter span)

def start (w : Window) : Nat := w.span.start

def isEmpty (w : Window) : Bool := w.span.isEmpty

theorem slice_of_append {w : Window} {front rest : Text} {n : Nat}
    (h : w.text = front ++ rest) (hn : Text.byteSize front = n) (hne : w.text ≠ []) :
    rest = w.source.slice ⟨w.span.start + n, w.span.stop⟩ ∧ w.span.start + n ≤ w.span.stop := by
  have hslice := w.text_eq
  unfold Source.slice at hslice ⊢
  cases hb : Text.between? w.source.text w.span with
  | none => simp [hb] at hslice; exact absurd hslice hne
  | some text =>
      have htext : text = front ++ rest := by simpa [hb, h] using hslice.symm
      subst htext
      refine ⟨by rw [Text.between?_append hb hn]; rfl, ?_⟩
      unfold Text.between? at hb
      split at hb
      · obtain ⟨tail, -, htake⟩ := Option.bind_eq_some_iff.mp hb
        have hsize := (Text.takeBytes?_eq_some.mp htake).2
        simp only [Text.byteSize_append] at hsize
        omega
      · simp at hb

/-- The window without its first `n` bytes. Where the cut falls between two characters the text is
cut along with the span, and otherwise it is taken from the source again. -/
def advance (w : Window) (n : Nat) : Window :=
  match h : Text.dropBytes? w.text n with
  | some rest =>
      if hne : w.text ≠ [] then
        ⟨w.source, ⟨min (w.span.start + n) w.span.stop, w.span.stop⟩, rest, by
          obtain ⟨front, htext, hn⟩ := Text.dropBytes?_eq_some.mp h
          have hrest := slice_of_append htext hn hne
          rw [Nat.min_eq_left hrest.2]
          exact hrest.1⟩
      else ofSpan w.source ⟨min (w.span.start + n) w.span.stop, w.span.stop⟩
  | none => ofSpan w.source ⟨min (w.span.start + n) w.span.stop, w.span.stop⟩

@[simp] theorem advance_source (w : Window) (n : Nat) : (w.advance n).source = w.source := by
  unfold advance
  split
  · split <;> rfl
  · rfl

@[simp] theorem advance_span (w : Window) (n : Nat) :
    (w.advance n).span = ⟨min (w.span.start + n) w.span.stop, w.span.stop⟩ := by
  unfold advance
  split
  · split <;> rfl
  · rfl

/-- The window without its first `n` bytes, or empty at its end if it has fewer. -/
def trimStart (w : Window) (n : Nat) : Except Fault Window :=
  if w.span.start + n < wordCount then .ok (w.advance n) else .error .addOverflow

theorem trimStart_eq (w : Window) (n : Nat) :
    w.trimStart n = (w.span.trimStart n).map (ofSpan w.source) := by
  unfold trimStart Span.trimStart
  split
  · exact congrArg Except.ok (ext (by simp [ofSpan]) (by simp [ofSpan]))
  · rfl

/-- The text without the carriage return at its end, if it has one. -/
def dropReturn (text : Text) : Text :=
  if text.getLast? = some '\r' then text.dropLast else text

/-- The text of the current line: up to the first newline and without a carriage return directly
before it, or all of the window if it has no newline. -/
def lineText (w : Window) : Text :=
  if '\n' ∈ w.text then dropReturn (w.text.takeWhile (· ≠ '\n')) else w.text

def line (w : Window) : Span :=
  if '\n' ∈ w.text then ⟨w.span.start, w.span.start + Text.byteSize w.lineText⟩ else w.span

/-- One character, if the window starts with it. -/
def char? (w : Window) (c : Char) : Option Span :=
  match w.text with
  | [] => none
  | d :: _ => if d = c then some ⟨w.span.start, w.span.start + c.utf8Size⟩ else none

/-- The literal, if the window starts with it. An empty literal never matches. -/
def literal? (w : Window) (literal : Text) : Option Span :=
  if !literal.isEmpty && w.text.startsWith literal then
    some ⟨w.span.start, w.span.start + literal.byteSize⟩
  else none

/-- The longest run of characters that satisfy the predicate. An empty run is no match. -/
def run? (w : Window) (p : Char → Bool) : Option Span :=
  let n := Text.byteSize (w.text.takeWhile p)
  if 0 < n then some ⟨w.span.start, w.span.start + n⟩ else none

/-- The match at the start of the current line whose length in bytes `measure` gives. -/
def lineMatch? (w : Window) (measure : Text → Option Nat) : Option Span :=
  (measure w.lineText).map fun n => ⟨w.span.start, w.span.start + n⟩

def debug (w : Window) : Text := w.span.bounds ++ ' ' :: Text.quote w.text

end Window

end RuleLexer
