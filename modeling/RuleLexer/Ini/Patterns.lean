import RuleLexer.Pattern.Anchored

/-!
# The patterns of INI files

The texts of comments, names, keys and values, each with its written form.
-/

namespace RuleLexer.Ini

open CharSet

def anchor (r : Regex) : Regex := .cat (.assert .textStart) r

/-- Anything up to the end of the line. -/
def commentPattern : Anchored :=
  ⟨".+".toList, anchor (.plus true (.set (.compl (single '\n'))))⟩

/-- The characters of a section's name. -/
def headerChar : CharSet := .compl (unions [single ']', single '\r', single '\n'])

def headerPattern : Anchored :=
  ⟨"[^\\]\\r\\n]+".toList, anchor (.plus true (.set headerChar))⟩

def keyChar : CharSet :=
  .compl (unions
    [.blank, single '=', single ':', single '#', single ';', single '[', single ']'])

def keyPattern : Anchored :=
  ⟨"[^\\s=:#;\\[\\]]+".toList, anchor (.plus true (.set keyChar))⟩

/-- The characters of a value other than the blanks between its words. -/
def valueChar : CharSet := .compl (unions [.blank, single '#', single ';'])

/-- The blanks between the words of a value. -/
def gapChar : CharSet := unions [single ' ', single '\t']

/-- Words with blanks between them. -/
def valuePattern : Anchored :=
  ⟨"[^\\s#;]+(?:[ \\t]+[^\\s#;]+)*".toList,
    anchor (.cat (.plus true (.set valueChar))
      (.star true (.cat (.plus true (.set gapChar)) (.plus true (.set valueChar)))))⟩

theorem compile_commentPattern (properties : Pattern.Properties) :
    Anchored.compile properties .standard commentPattern.pattern = .ok commentPattern := by rfl

theorem compile_headerPattern (properties : Pattern.Properties) :
    Anchored.compile properties .standard headerPattern.pattern = .ok headerPattern := by rfl

theorem compile_keyPattern (properties : Pattern.Properties) :
    Anchored.compile properties .standard keyPattern.pattern = .ok keyPattern := by rfl

theorem compile_valuePattern (properties : Pattern.Properties) :
    Anchored.compile properties .standard valuePattern.pattern = .ok valuePattern := by rfl

end RuleLexer.Ini
