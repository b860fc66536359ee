import RuleLexer.Proofs.Ini.RoundTrip
import RuleLexer.Proofs.Ini.Tiling

/-!
# Looking values up

The value of a key is that of the last entry with this key in the sections
with a name. Names and keys are the same if they differ in the case of ASCII
letters alone. Where no two sections have the same name, the section can be
found first and the key in it. In a parsed document at most the first section
has no name, so the entries above the first header are found in this way too.
-/

namespace RuleLexer

namespace Text

/-- The characters are the same, or one of them is an ASCII capital and the other its small form. -/
def SameLetter (c d : Char) : Prop := c = d ∨ c.toLower = d ∨ c = d.toLower

/-- The texts are the same but for the case of ASCII letters. -/
def EqIgnoringCase (a b : Text) : Prop := List.Forall₂ SameLetter a b

theorem toNat_lowerAscii (c : Char) :
    (lowerAscii c).toNat = if 65 ≤ c.toNat ∧ c.toNat ≤ 90 then c.toNat + 32 else c.toNat := by
  have hcapital : ('A' ≤ c ∧ c ≤ 'Z') ↔ 65 ≤ c.toNat ∧ c.toNat ≤ 90 := Iff.rfl
  unfold lowerAscii
  by_cases h : 'A' ≤ c ∧ c ≤ 'Z'
  · have hvalid : (c.toNat + 32).isValidChar := by
      have := hcapital.mp h
      exact .inl (by omega)
    rw [if_pos h, if_pos (hcapital.mp h), Char.ofNat, dif_pos hvalid]
    rfl
  · rw [if_neg h, if_neg (mt hcapital.mpr h)]

theorem lowerAscii_eq_toLower (c : Char) : lowerAscii c = c.toLower := by
  refine Char.toNat_inj.mp ?_
  rw [toNat_lowerAscii]
  unfold Char.toLower
  by_cases h : 65 ≤ c.toNat ∧ c.toNat ≤ 90
  · have hcapital : c.val ≥ 'A'.val ∧ c.val ≤ 'Z'.val := h
    rw [if_pos h, dif_pos hcapital]
    change c.toNat + 32 = (c.toNat + 32) % 2 ^ 32
    omega
  · have hother : ¬(c.val ≥ 'A'.val ∧ c.val ≤ 'Z'.val) := h
    rw [if_neg h, dif_neg hother]

theorem sameLetter_iff {c d : Char} : SameLetter c d ↔ lowerAscii c = lowerAscii d := by
  have hc := toNat_lowerAscii c
  have hd := toNat_lowerAscii d
  rw [SameLetter, ← lowerAscii_eq_toLower, ← lowerAscii_eq_toLower]
  simp only [← Char.toNat_inj]
  grind

theorem eqIgnoringCase_iff {a b : Text} :
    EqIgnoringCase a b ↔ a.map lowerAscii = b.map lowerAscii := by
  have hletter : SameLetter = fun c d => lowerAscii c = lowerAscii d := by
    funext c d
    exact propext sameLetter_iff
  rw [← List.forall₂_eq_eq_eq, List.forall₂_map_left_iff, List.forall₂_map_right_iff,
    EqIgnoringCase, hletter]

theorem sameIgnoringCase_iff {a b : Text} : sameIgnoringCase a b = true ↔ EqIgnoringCase a b := by
  rw [sameIgnoringCase, beq_iff_eq, eqIgnoringCase_iff]

theorem EqIgnoringCase.symm {a b : Text} (h : EqIgnoringCase a b) : EqIgnoringCase b a :=
  eqIgnoringCase_iff.mpr (eqIgnoringCase_iff.mp h).symm

theorem EqIgnoringCase.trans {a b c : Text} (h : EqIgnoringCase a b) (h' : EqIgnoringCase b c) :
    EqIgnoringCase a c :=
  eqIgnoringCase_iff.mpr ((eqIgnoringCase_iff.mp h).trans (eqIgnoringCase_iff.mp h'))

theorem sameIgnoringCase_congr {a b : Text} (h : EqIgnoringCase a b) (own : Text) :
    sameIgnoringCase own a = sameIgnoringCase own b := by
  rw [sameIgnoringCase, sameIgnoringCase, eqIgnoringCase_iff.mp h]

end Text

namespace Ini

open Text

namespace Section

/-- The section has the name that is asked for, or none if none is asked for. -/
def Answers (s : Section) : Option Text → Prop
  | some name => ∃ own, s.name = some own ∧ own.EqIgnoringCase name
  | none => s.name = none

theorem isNamed_iff {s : Section} {name : Text} :
    s.isNamed name = true ↔ s.Answers (some name) := by
  unfold isNamed Answers
  cases s.name with
  | none => simp
  | some own => simp [sameIgnoringCase_iff]

theorem isWanted_iff {s : Section} {wanted : Option Text} :
    Document.isWanted wanted s = true ↔ s.Answers wanted := by
  cases wanted with
  | none => exact Option.isNone_iff_eq_none
  | some name => exact isNamed_iff

theorem get?_eq_some_iff {s : Section} {key value : Text} :
    s.get? key = some value ↔ ∃ front e back, s.entries = front ++ e :: back ∧
      e.key.EqIgnoringCase key ∧ e.value = value ∧
      ∀ other ∈ back, ¬other.key.EqIgnoringCase key := by
  simp only [get?, Option.map_eq_some_iff, List.find?_eq_some_iff_append, Bool.not_eq_true',
    ← Bool.not_eq_true, sameIgnoringCase_iff]
  constructor
  · rintro ⟨e, ⟨hkey, back, front, hentries, hback⟩, hvalue⟩
    refine ⟨front.reverse, e, back.reverse, ?_, hkey, hvalue, ?_⟩
    · simpa using List.reverse_eq_iff.mp hentries
    · simpa using hback
  · rintro ⟨front, e, back, hentries, hkey, hvalue, hback⟩
    exact ⟨e, ⟨hkey, back.reverse, front.reverse, by simp [hentries], by simpa using hback⟩, hvalue⟩

theorem get?_eq_none_iff {s : Section} {key : Text} :
    s.get? key = none ↔ ∀ e ∈ s.entries, ¬e.key.EqIgnoringCase key := by
  simp [get?, ← sameIgnoringCase_iff]

end Section

namespace Document

/-- Of the entries that have the key, in sections that are asked for, this is the last one. -/
def IsLast (d : Document) (wanted : Option Text) (key : Text) (e : Entry) : Prop :=
  ∃ (before : List Section) (s : Section) (after : List Section) (front back : List Entry),
    d.sections = before ++ s :: after ∧ s.Answers wanted ∧
    s.entries = front ++ e :: back ∧ e.key.EqIgnoringCase key ∧
    (∀ other ∈ back, ¬other.key.EqIgnoringCase key) ∧
    ∀ t ∈ after, t.Answers wanted → ∀ other ∈ t.entries, ¬other.key.EqIgnoringCase key

/-- How a document answers when it is asked for a key. -/
structure LooksUp (d : Document) : Prop where
  eq_some : ∀ wanted key value,
    d.get? wanted key = some value ↔ ∃ e, d.IsLast wanted key e ∧ e.value = value
  eq_none : ∀ wanted key, d.get? wanted key = none ↔
    ∀ s ∈ d.sections, s.Answers wanted → ∀ e ∈ s.entries, ¬e.key.EqIgnoringCase key
  ignoresCase : ∀ name name' key key' : Text, name.EqIgnoringCase name' → key.EqIgnoringCase key' →
    d.get? (some name) key = d.get? (some name') key' ∧ d.get? none key = d.get? none key'

/-- No two sections have the same name. -/
def NamesDiffer (d : Document) : Prop :=
  d.sections.Pairwise fun s t =>
    ∀ a b, s.name = some a → t.name = some b → ¬a.EqIgnoringCase b

variable {d : Document} {wanted : Option Text} {key : Text}

theorem get?_eq_findSome? : d.get? wanted key =
    (d.sections.reverse.filter (isWanted wanted)).findSome? (·.get? key) := by
  rw [get?, List.find?_flatMap, List.map_findSome?]
  rfl

theorem get?_eq_none_iff : d.get? wanted key = none ↔
    ∀ s ∈ d.sections, s.Answers wanted → ∀ e ∈ s.entries, ¬e.key.EqIgnoringCase key := by
  rw [get?_eq_findSome?, List.findSome?_eq_none_iff]
  simp only [List.mem_filter, List.mem_reverse, Section.isWanted_iff, Section.get?_eq_none_iff,
    and_imp]

/-- Only the sections that are asked for are looked into. -/
theorem findSome?_filter_isWanted {ss : List Section} {f : Section → Option Text} :
    (ss.filter (isWanted wanted)).findSome? f =
      ss.findSome? fun s => if isWanted wanted s then f s else none := by
  induction ss with
  | nil => rfl
  | cons s ss ih =>
      rw [List.findSome?_cons, ← ih]
      by_cases h : isWanted wanted s = true
      · rw [List.filter_cons_of_pos h, List.findSome?_cons, if_pos h]
      · rw [List.filter_cons_of_neg h, if_neg h]

theorem get?_eq_some_iff {value : Text} :
    d.get? wanted key = some value ↔ ∃ e, d.IsLast wanted key e ∧ e.value = value := by
  rw [get?_eq_findSome?, findSome?_filter_isWanted, List.findSome?_eq_some_iff]
  simp only [Option.ite_none_right_eq_some, ite_eq_right_iff, Section.isWanted_iff,
    Section.get?_eq_some_iff, Section.get?_eq_none_iff]
  constructor
  · rintro ⟨later, s, earlier, hsplit, ⟨hs, front, e, back, hentries, hkey, hvalue, hback⟩, hlater⟩
    refine ⟨e, ⟨earlier.reverse, s, later.reverse, front, back, ?_, hs, hentries, hkey, hback, ?_⟩,
      hvalue⟩
    · simpa using List.reverse_eq_iff.mp hsplit
    · intro t ht
      exact hlater t (List.mem_reverse.mp ht)
  · rintro ⟨e, ⟨before, s, after, front, back, hsections, hs, hentries, hkey, hback, hafter⟩, rfl⟩
    refine ⟨after.reverse, s, before.reverse, by simp [hsections],
      ⟨hs, front, e, back, hentries, hkey, rfl, hback⟩, ?_⟩
    intro t ht
    exact hafter t (List.mem_reverse.mp ht)

theorem get?_ignoresCase {name name' key key' : Text} (hname : name.EqIgnoringCase name')
    (hkey : key.EqIgnoringCase key') :
    d.get? (some name) key = d.get? (some name') key' ∧ d.get? none key = d.get? none key' := by
  have hnames : isWanted (some name) = isWanted (some name') := by
    funext s
    unfold isWanted Section.isNamed
    cases s.name with
    | none => rfl
    | some own => exact sameIgnoringCase_congr hname own
  have hkeys : (fun e : Entry => sameIgnoringCase e.key key) =
      fun e => sameIgnoringCase e.key key' := by
    funext e
    exact sameIgnoringCase_congr hkey e.key
  unfold get?
  rw [hnames, hkeys]
  exact ⟨rfl, rfl⟩

theorem looksUp (d : Document) : d.LooksUp where
  eq_some _ _ _ := get?_eq_some_iff
  eq_none _ _ := get?_eq_none_iff
  ignoresCase _ _ _ _ := get?_ignoresCase

section OneSection

/-- If at most one section is asked for, it can be found before the key. -/
theorem get?_of_filter {found : Option Section}
    (h : d.sections.filter (isWanted wanted) = found.toList) :
    d.get? wanted key = found.bind (·.get? key) := by
  rw [get?_eq_findSome?, List.filter_reverse, h]
  cases found with
  | none => rfl
  | some s => simp

theorem filter_eq_find? {p : Section → Bool} {ss : List Section}
    (h : ss.Pairwise fun s t => p s = true → ¬p t = true) :
    ss.filter p = (ss.find? p).toList := by
  induction ss with
  | nil => rfl
  | cons s ss ih =>
      rw [List.pairwise_cons] at h
      by_cases hs : p s = true
      · have hrest : ss.filter p = [] := List.filter_eq_nil_iff.mpr fun t ht => h.1 t ht hs
        rw [List.filter_cons_of_pos hs, List.find?_cons_of_pos hs, hrest]
        rfl
      · rw [List.filter_cons_of_neg hs, List.find?_cons_of_neg hs, ih h.2]

theorem NamesDiffer.get?_eq (h : d.NamesDiffer) (name key : Text) :
    d.get? (some name) key = (d.section? name).bind (·.get? key) := by
  refine get?_of_filter (filter_eq_find? (h.imp ?_))
  intro s t hnames hs ht
  obtain ⟨a, ha, hsame⟩ := Section.isNamed_iff.mp hs
  obtain ⟨b, hb, hsame'⟩ := Section.isNamed_iff.mp ht
  exact hnames a b ha hb (hsame.trans hsame'.symm)

/-- Above the first header there is one section at most. -/
theorem get?_none_eq (h : ∀ s ∈ d.sections.tail, s.name ≠ none) (key : Text) :
    d.get? none key = d.global?.bind (·.get? key) := by
  refine get?_of_filter ?_
  unfold global?
  cases hsections : d.sections with
  | nil => rfl
  | cons s rest =>
      rw [hsections] at h
      have hrest : rest.filter (isWanted none) = [] := by
        refine List.filter_eq_nil_iff.mpr ?_
        intro t ht hwanted
        exact h t ht (Section.isWanted_iff.mp hwanted)
      change _ = (if isWanted none s = true then some s else none).toList
      by_cases hs : isWanted none s = true
      · rw [List.filter_cons_of_pos hs, hrest, if_pos hs, Option.toList_some]
      · rw [List.filter_cons_of_neg hs, hrest, if_neg hs, Option.toList_none]

end OneSection

end Document

theorem parse_eq_ok {source : Source} {d : Document} (h : Document.parse source = .ok d) :
    ∃ l, tokenize source = .ok l ∧ l.state = .done := by
  unfold Document.parse at h
  cases hl : tokenize source with
  | error fault => simp [hl] at h
  | ok l =>
      cases haccepted : l.accepted with
      | error rejection => simp [hl, haccepted] at h
      | ok tokens =>
          refine ⟨l, rfl, ?_⟩
          unfold Lexer.accepted at haccepted
          split at haccepted
          · rename_i hdone
            exact of_decide_eq_true hdone
          · simp at haccepted

theorem named_tail_of_parse {source : Source} {d : Document} (hsize : source.size < wordCount)
    (h : Document.parse source = .ok d) : ∀ s ∈ d.sections.tail, s.name ≠ none := by
  obtain ⟨l, hl, hdone⟩ := parse_eq_ok h
  have hall := (tokens_eq_of_done hsize hl hdone).2
  have hrows : RowsTile source 0 0 (rows source) source.size :=
    tile_rowsFrom startsLine_nil (List.nil_append _).symm rfl hall
  have hrun := (Progress.tiled_start source).foldl hrows
  obtain rfl : Document.readLines source = d :=
    Except.ok.inj ((parse_of_wellFormed hsize hall).2.symm.trans h)
  exact hrun.sections.1.namesBehind

/-- The last occurrence counts, over all sections that are asked for. A parsed document answers in
the same way if the section is found first, unless sections share a name. -/
theorem lookups_agree :
    (∀ d : Document, d.LooksUp) ∧
      ∀ (source : Source) (d : Document), source.size < wordCount →
        Document.parse source = .ok d →
        (∀ key, d.get? none key = d.global?.bind (·.get? key)) ∧
          (d.NamesDiffer → ∀ name key,
            d.get? (some name) key = (d.section? name).bind (·.get? key)) := by
  refine ⟨Document.looksUp, ?_⟩
  intro source d hsize h
  exact ⟨Document.get?_none_eq (named_tail_of_parse hsize h), Document.NamesDiffer.get?_eq⟩

/-- A key that stands twice in its section, and above the first header as well. -/
theorem lookups_agree_twice :
    ∃ d, Document.parse (.ofText "x=0\n[A]\nx=1\nX=2\n".toList) = .ok d ∧ d.NamesDiffer ∧
      d.get? none "X".toList = some "0".toList ∧
      d.get? (some "a".toList) "x".toList = some "2".toList := by
  have hsize : (Source.ofText "x=0\n[A]\nx=1\nX=2\n".toList).size < wordCount := by decide
  let d : Document := ⟨[
    ⟨none, ⟨0, 4⟩, 1, [⟨"x".toList, "0".toList, ⟨0, 1⟩, some ⟨2, 3⟩, 1⟩]⟩,
    ⟨some "A".toList, ⟨4, 16⟩, 2, [⟨"x".toList, "1".toList, ⟨8, 9⟩, some ⟨10, 11⟩, 3⟩,
      ⟨"X".toList, "2".toList, ⟨12, 13⟩, some ⟨14, 15⟩, 4⟩]⟩]⟩
  have hparse : Document.parse (.ofText "x=0\n[A]\nx=1\nX=2\n".toList) = .ok d := rfl
  have hdiffer : d.NamesDiffer := by simp [Document.NamesDiffer, d]
  obtain ⟨hglobal, hnamed⟩ := lookups_agree.2 _ d hsize hparse
  refine ⟨d, hparse, hdiffer, ?_, ?_⟩
  · exact (hglobal _).trans (by decide)
  · exact (hnamed hdiffer _ _).trans (by decide)

end Ini

end RuleLexer
