import RuleLexer.Proofs.Command.Verdict
import RuleLexer.Proofs.Ini.Blocks
import RuleLexer.Proofs.Text.Quoting

/-!
# The listing of tokens

A listing has one line for each token, with the text of the token in
quotes. Neither a position nor the name of a kind has a quotation mark, so
the quoted part of a line can be found, and the texts of the tokens are
read off the listing. Put together they are the part of the source that
was read.
-/

namespace RuleLexer.FileReport

open Text

/-- The text in quotes at the end of a line. -/
def shownText? (line : Text) : Option Text := unquote? (line.dropWhile (· ≠ '"'))

/-- The texts in quotes on the lines of a listing, one behind the other. -/
def listedText? (listing : Text) : Option Text :=
  ((listing.splitOn '\n').dropLast.mapM shownText?).map List.flatten

section Row

/-- What stands before the quoted text of a token. -/
def tokenLabel (source : Source) (t : Token Ini.Kind) : Text :=
  decimal (source.lineCol t.span.start).1 ++ ':' ::
    (decimal (source.lineCol t.span.start).2 ++ ' ' :: (t.kind.name ++ [' ']))

/-- The line of a token without its end. -/
def tokenRow (source : Source) (t : Token Ini.Kind) : Text :=
  tokenLabel source t ++ quote (t.text source)

variable {source : Source}

theorem tokenLine_eq (source : Source) (t : Token Ini.Kind) :
    tokenLine source t = tokenRow source t ++ ['\n'] := by
  simp [tokenLine, tokenRow, tokenLabel]

theorem notMem_tokenLabel {c : Char} (hdigit : c.isDigit = false) (hsign : c ≠ ':' ∧ c ≠ ' ')
    (hname : ∀ k : Ini.Kind, c ∉ k.name) (source : Source) (t : Token Ini.Kind) :
    c ∉ tokenLabel source t := by
  simp [tokenLabel, notMem_decimal hdigit, hsign, hname]

theorem quote_notMem_name (k : Ini.Kind) : '"' ∉ k.name := by
  cases k <;> decide

theorem newline_notMem_kindName (k : Ini.Kind) : '\n' ∉ k.name := by
  cases k <;> decide

theorem shownText?_tokenRow (t : Token Ini.Kind) :
    shownText? (tokenRow source t) = some (t.text source) := by
  have hlabel := notMem_tokenLabel rfl (by decide) quote_notMem_name source t
  have hrest : (tokenRow source t).dropWhile (· ≠ '"') = quote (t.text source) := by
    refine dropWhile_run (fun c hc => ?_) (by simp [quote])
    simpa using fun heq : c = '"' => hlabel (heq ▸ hc)
  rw [shownText?, hrest, unquote?_quote]

theorem newline_notMem_tokenRow (t : Token Ini.Kind) : '\n' ∉ tokenRow source t := by
  have hlabel := notMem_tokenLabel rfl (by decide) newline_notMem_kindName source t
  exact fun h => (List.mem_append.mp h).elim hlabel (newline_notMem_quote _)

end Row

section Listing

theorem listing_eq (source : Source) (ts : List (Token Ini.Kind)) :
    ts.flatMap (tokenLine source) = (ts.map (tokenRow source)).flatMap (· ++ ['\n']) := by
  rw [List.flatMap_map]
  exact List.flatMap_congr fun t _ => tokenLine_eq source t

theorem newline_notMem_rows (source : Source) (ts : List (Token Ini.Kind)) :
    ∀ row ∈ ts.map (tokenRow source), '\n' ∉ row :=
  List.forall_mem_map.mpr fun t _ => newline_notMem_tokenRow t

theorem splitOn_listing (source : Source) (ts : List (Token Ini.Kind)) :
    (ts.flatMap (tokenLine source)).splitOn '\n' = ts.map (tokenRow source) ++ [[]] := by
  rw [listing_eq, splitOn_flatMap (newline_notMem_rows source ts)]

theorem count_listing (source : Source) (ts : List (Token Ini.Kind)) :
    (ts.flatMap (tokenLine source)).count '\n' = ts.length := by
  rw [listing_eq, count_flatMap (newline_notMem_rows source ts), List.length_map]

theorem listedText?_listing (source : Source) (ts : List (Token Ini.Kind)) :
    listedText? (ts.flatMap (tokenLine source)) = some (ts.flatMap (·.text source)) := by
  rw [listedText?, splitOn_listing, List.dropLast_concat,
    mapM_map_eq_some fun t _ => shownText?_tokenRow t]
  rfl

end Listing

/-- A listing of the tokens of a run: a line for each token, which shows its text, and together
they show all that was read. -/
structure ListsTokens (source : Source) (l : Lexer Ini.Kind) (listing : Text) : Prop where
  newlines : listing.count '\n' = l.tokens.length
  rows : ∃ rows, listing.splitOn '\n' = rows ++ [[]] ∧
    List.Forall₂ (fun row t => shownText? row = some (t.text source)) rows l.tokens
  accepted : l.state = .done → listedText? listing = some source.text
  rejected : l.state ≠ .done → l.accepted = .error l.rejection ∧
    ∃ consumed, takeBytes? source.text l.rejection.offset = some consumed ∧
      listedText? listing = some consumed

theorem exists_listsTokens {source : Source} (hsize : source.size < wordCount) :
    ∃ l, Ini.tokenize source = .ok l ∧
      ListsTokens source l (l.tokens.flatMap (tokenLine source)) := by
  obtain ⟨strips, left, hread⟩ := Ini.Reads.exists_strips source.text
  obtain ⟨l, hl, hat, -, htokens, hposition⟩ := hread.tokenize hsize
  have hsplit := hread.eq_append
  have htexts : l.tokens.flatMap (·.text source) = Piece.join (Ini.Strip.allPieces strips) := by
    have hfront : source.text =
        [] ++ (Piece.join (Ini.Strip.allPieces strips) ++ left) := hsplit
    rw [htokens]
    exact Lexer.texts_tokensFrom hfront
  have hlisted := listedText?_listing source l.tokens
  rw [htexts] at hlisted
  refine ⟨l, hl, count_listing source _, ⟨_, splitOn_listing source _, ?_⟩, ?_, ?_⟩
  · exact List.forall₂_map_left_iff.mpr (List.forall₂_same.mpr fun t _ => shownText?_tokenRow t)
  · intro hdone
    have hleft : left = [] := by
      by_contra hne
      rw [hat.state, if_neg hne] at hdone
      exact absurd hdone (by simp)
    rw [hlisted, hsplit, hleft, List.append_nil]
  · intro hstop
    have hnotDone : l.isDone = false := by simpa [Lexer.isDone] using hstop
    refine ⟨by simp [Lexer.accepted, hnotDone], _, ?_, hlisted⟩
    exact takeBytes?_eq_some.mpr ⟨⟨left, hsplit⟩, hposition.symm⟩

/-- The listing of the tokens of a source has a line for each token, and all that was read can be
read off it. So accepted sources with the same listing have the same text. -/
theorem tokens_listing_lossless :
    (∀ (options : Options) (path : Text) (source : Source), source.size < wordCount →
      ∃ l report listing, Ini.tokenize source = .ok l ∧
        process { options with command := .tokenize, json := false } path source = .ok report ∧
        (report.accepted = true ↔ l.state = .done) ∧ report.output = .text listing ∧
        ListsTokens source l listing) ∧
    ∀ (options options' : Options) (path path' : Text) (source source' : Source)
      (report report' : FileReport), source.size < wordCount → source'.size < wordCount →
      process { options with command := .tokenize, json := false } path source = .ok report →
      process { options' with command := .tokenize, json := false } path' source' = .ok report' →
      report.accepted = true → report'.accepted = true → report.output = report'.output →
      source.text = source'.text := by
  have hlist (options : Options) (path : Text) (source : Source)
      (hsize : source.size < wordCount) :
      ∃ l report listing, Ini.tokenize source = .ok l ∧
        process { options with command := .tokenize, json := false } path source = .ok report ∧
        (report.accepted = true ↔ l.state = .done) ∧ report.output = .text listing ∧
        ListsTokens source l listing := by
    obtain ⟨l, hl, hlists⟩ := exists_listsTokens hsize
    exact ⟨l, _, _, hl, process_eq _ path hl, decide_eq_true_iff, rfl, hlists⟩
  refine ⟨hlist, ?_⟩
  intro options options' path path' source source' report report' hsize hsize' hreport hreport'
    haccepted haccepted' houtput
  obtain ⟨l, r, listing, -, hr, hdone, hlisting, hlists⟩ := hlist options path source hsize
  obtain ⟨l', r', listing', -, hr', hdone', hlisting', hlists'⟩ :=
    hlist options' path' source' hsize'
  obtain rfl : r = report := Except.ok.inj (hr.symm.trans hreport)
  obtain rfl : r' = report' := Except.ok.inj (hr'.symm.trans hreport')
  obtain rfl : listing = listing' := by
    rw [hlisting, hlisting'] at houtput
    exact Output.text.inj houtput
  have hread := hlists.accepted (hdone.mp haccepted)
  rw [hlists'.accepted (hdone'.mp haccepted')] at hread
  exact (Option.some.inj hread).symm

/-- A value with a quotation mark and a backslash above a line that is rejected, and a source with
and without a byte order mark. -/
theorem tokens_listing_lossless_backslash :
    (∃ report listing, process ⟨.tokenize, [], false, true, false, false⟩ ['f']
        (.ofText "k=\"\\\n]".toList) = .ok report ∧ report.output = .text listing ∧
      listing.count '\n' = 4 ∧ listedText? listing = some "k=\"\\\n".toList) ∧
    (Source.ofText "\uFEFFk=v".toList).text = (Source.ofText "k=v".toList).text := by
  obtain ⟨hlist, hsame⟩ := tokens_listing_lossless
  constructor
  · obtain ⟨l, report, listing, hl, hreport, -, hlisting, hlists⟩ :=
      hlist ⟨.check, [], true, true, false, false⟩ ['f'] (.ofText "k=\"\\\n]".toList) (by decide)
    cases hl
    refine ⟨report, listing, hreport, hlisting, hlists.newlines, ?_⟩
    obtain ⟨-, consumed, hconsumed, hlisted⟩ := hlists.rejected (by decide +kernel)
    cases hconsumed
    exact hlisted
  · exact hsame ⟨.check, [], true, true, false, false⟩ ⟨.check, [], true, true, false, false⟩
      ['f'] ['g'] _ _ _ _ (by decide) (by decide) rfl rfl rfl rfl rfl

end RuleLexer.FileReport
