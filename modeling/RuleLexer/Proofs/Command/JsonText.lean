import RuleLexer.Command.Json
import RuleLexer.Proofs.Text.Quoting
import RuleLexer.Proofs.Text.Runs
import Mathlib.Data.List.Induction

/-!
# Reading JSON

The text of a value is read back to the value, with white space between its
parts. A number goes up to the first character that is no digit, and every
other value ends with its last character, so a value can be read without
what stands behind it. In a record each name has one value, the one that was
given last.
-/

namespace RuleLexer.Json

open Text Pattern.Escape

/-- A character that may stand between the parts of a value. -/
def isSpace (c : Char) : Bool := c = ' ' || c = '\n' || c = '\r' || c = '\t'

def skip (text : Text) : Text := text.dropWhile isSpace

/-- What a reader between quotation marks has seen of the form of a character. -/
inductive StringState where
  | start
  | backslash
  /-- Among the digits of a code point, of which `left` are missing. -/
  | code (left value : Nat)

/-- The character that stands for another one behind a backslash. -/
def ofShort? (c : Char) : Option Char :=
  match c with
  | '"' => some '"'
  | '\\' => some '\\'
  | '/' => some '/'
  | 'b' => some '\x08'
  | 'f' => some '\x0c'
  | 'n' => some '\n'
  | 'r' => some '\r'
  | 't' => some '\t'
  | _ => none

/-- The text up to the closing mark, and what is behind the mark. -/
def readString : StringState → Text → Option (Text × Text)
  | _, [] => none
  | .start, c :: rest =>
      if c = '"' then some ([], rest)
      else if c = '\\' then readString .backslash rest
      else if c.toNat < 32 then none
      else (readString .start rest).map (Prod.map (c :: ·) id)
  | .backslash, c :: rest =>
      if c = 'u' then readString (.code 4 0) rest
      else (ofShort? c).bind fun d => (readString .start rest).map (Prod.map (d :: ·) id)
  | .code left value, c :: rest =>
      (hexDigit? c).bind fun d =>
        if left = 1 then
          if (16 * value + d).isValidChar then
            (readString .start rest).map (Prod.map (Char.ofNat (16 * value + d) :: ·) id)
          else none
        else readString (.code (left - 1) (16 * value + d)) rest

/-- One of the words for a value, and what is behind it. -/
def readWord (text : Text) : Option (Json × Text) :=
  if text.take 4 = "null".toList then some (null, text.drop 4)
  else if text.take 4 = "true".toList then some (bool true, text.drop 4)
  else if text.take 5 = "false".toList then some (bool false, text.drop 5)
  else none

mutual

/-- The value at the start of a text, and what is behind it. The number bounds the nesting. -/
def readValue : Nat → Text → Option (Json × Text)
  | 0, _ => none
  | n + 1, text =>
      match skip text with
      | [] => none
      | c :: rest =>
          if c.isDigit then
            if c = '0' ∧ rest.takeWhile Char.isDigit ≠ [] then none
            else some (number (Nat.ofDigitChars 10 ((c :: rest).takeWhile Char.isDigit) 0),
              (c :: rest).dropWhile Char.isDigit)
          else if c = '"' then (readString .start rest).map (Prod.map string id)
          else if c = '[' then
            if (skip rest).head? = some ']' then some (array [], (skip rest).tail)
            else (readItems n rest).map (Prod.map array id)
          else if c = '\x7b' then
            if (skip rest).head? = some '\x7d' then some (object [], (skip rest).tail)
            else (readFields n rest).map (Prod.map object id)
          else readWord (c :: rest)

/-- The items up to the closing bracket. -/
def readItems : Nat → Text → Option (List Json × Text)
  | 0, _ => none
  | n + 1, text =>
      (readValue n text).bind fun item =>
        match skip item.2 with
        | [] => none
        | c :: rest =>
            if c = ',' then (readItems n rest).map (Prod.map (item.1 :: ·) id)
            else if c = ']' then some ([item.1], rest)
            else none

/-- The fields up to the closing brace. -/
def readFields : Nat → Text → Option (List (Text × Json) × Text)
  | 0, _ => none
  | n + 1, text =>
      if (skip text).head? = some '"' then
        (readString .start (skip text).tail).bind fun name =>
          if (skip name.2).head? = some ':' then
            (readValue n (skip name.2).tail).bind fun value =>
              match skip value.2 with
              | [] => none
              | c :: rest =>
                  if c = ',' then (readFields n rest).map (Prod.map ((name.1, value.1) :: ·) id)
                  else if c = '\x7d' then some ([(name.1, value.1)], rest)
                  else none
          else none
      else none

end

/-- The value that a text is, with nothing but white space around it. -/
def read? (text : Text) : Option Json :=
  (readValue text.length text).bind fun found => if skip found.2 = [] then some found.1 else none

section Strings

theorem readString_code {a b c : Char} {x y : Nat} (ha : hexDigit? a = some x)
    (hb : hexDigit? b = some y) (hc : 16 * x + y = c.toNat) (rest : Text) :
    readString .start ('\\' :: 'u' :: '0' :: '0' :: a :: b :: rest) =
      (readString .start rest).map (Prod.map (c :: ·) id) := by
  have hzero : hexDigit? '0' = some 0 := rfl
  have hvalid : c.toNat.isValidChar := c.valid
  simp [readString, ha, hb, hc, hzero, hvalid]

theorem readString_escapeChar (c : Char) (rest : Text) :
    readString .start (escapeChar c ++ rest) =
      (readString .start rest).map (Prod.map (c :: ·) id) := by
  unfold escapeChar
  split_ifs with hquote hbackslash hback htab hfeed hform hreturn hsixteen hcontrol
  · subst hquote
    rfl
  · subst hbackslash
    rfl
  · subst hback
    rfl
  · subst htab
    rfl
  · subst hfeed
    rfl
  · subst hform
    rfl
  · subst hreturn
    rfl
  · have hzero : hexDigit? '0' = some 0 := rfl
    rw [hexadecimal_of_lt hsixteen]
    exact readString_code hzero (hexDigit?_digitChar hsixteen) (Nat.zero_add _) rest
  · rw [hexadecimal_of_le (by omega), hexadecimal_of_lt (by omega)]
    exact readString_code (hexDigit?_digitChar (by omega)) (hexDigit?_digitChar (by omega))
      (Nat.div_add_mod _ _) rest
  · rw [List.singleton_append, readString, if_neg hquote, if_neg hbackslash, if_neg hcontrol]

theorem readString_quote (text rest : Text) :
    readString .start (text.flatMap escapeChar ++ '"' :: rest) = some (text, rest) := by
  induction text with
  | nil => rfl
  | cons c text ih =>
      rw [List.flatMap_cons, List.append_assoc, readString_escapeChar, ih]
      rfl

end Strings

section Space

theorem skip_append {front : Text} (h : ∀ c ∈ front, isSpace c = true) (text : Text) :
    skip (front ++ text) = skip text := List.dropWhile_append_of_pos h

theorem skip_feed_indent (depth : Nat) (text : Text) :
    skip ('\n' :: (indent depth ++ text)) = skip text := by
  have hspace : ∀ c ∈ '\n' :: indent depth, isSpace c = true := by
    rw [List.forall_mem_cons]
    refine ⟨by decide, fun c hc => ?_⟩
    rw [List.eq_of_mem_replicate hc]
    decide
  exact skip_append hspace text

theorem skip_of_stops {text : Text} (h : Stops isSpace text) : skip text = text :=
  dropWhile_eq_self h

theorem ne_of_isDigit {c d : Char} (hc : c.isDigit = true) (hd : d.isDigit = false) : c ≠ d := by
  rintro rfl
  rw [hd] at hc
  exact absurd hc (by simp)

theorem isSpace_of_isDigit {c : Char} (h : c.isDigit = true) : isSpace c = false := by
  have hne {d : Char} (hd : d.isDigit = false) : c ≠ d := ne_of_isDigit h hd
  simp [isSpace, hne (d := ' ') rfl, hne (d := '\n') rfl, hne (d := '\r') rfl,
    hne (d := '\t') rfl]

/-- A value begins with no space and with no closing bracket. -/
theorem exists_cons_prettyAt (depth : Nat) (v : Json) :
    ∃ c rest, prettyAt depth v = c :: rest ∧ isSpace c = false ∧ c ≠ ']' := by
  rcases v with _ | (_ | _) | n | text | (_ | ⟨item, items⟩) | (_ | ⟨⟨name, value⟩, fields⟩)
  case number =>
    obtain ⟨c, rest, hdigits⟩ := List.exists_cons_of_ne_nil (decimal_ne_nil n)
    have hdigit : c.isDigit = true := isDigit_of_mem_decimal (hdigits ▸ List.mem_cons_self)
    exact ⟨c, rest, by rw [prettyAt, hdigits], isSpace_of_isDigit hdigit, ne_of_isDigit hdigit rfl⟩
  all_goals exact ⟨_, _, rfl, by decide, by decide⟩

end Space

section Values

/-- What is behind a value, or at the end of one, goes on with no digit. -/
theorem stops_prettyItems (depth : Nat) (items : List Json) (rest : Text) :
    Stops Char.isDigit (prettyItems depth items ++ '\n' :: rest) := by
  cases items <;> simp [prettyItems]

theorem stops_prettyFields (depth : Nat) (fields : List (Text × Json)) (rest : Text) :
    Stops Char.isDigit (prettyFields depth fields ++ '\n' :: rest) := by
  rcases fields with _ | ⟨⟨name, value⟩, fields⟩ <;> simp [prettyFields]

/-- White space in front of a value does not matter. -/
theorem readValue_congr {n : Nat} {text text' : Text} (h : skip text = skip text') :
    readValue n text = readValue n text' := by
  cases n with
  | zero => rfl
  | succ n => rw [readValue, readValue, h]

variable {n : Nat} {text rest left left' : Text}

theorem readValue_number (m : Nat) (hrest : Stops Char.isDigit rest) :
    readValue (n + 1) (decimal m ++ rest) = some (number m, rest) := by
  obtain ⟨c, digits, hdigits⟩ := List.exists_cons_of_ne_nil (decimal_ne_nil m)
  have hdigit : c.isDigit = true := isDigit_of_mem_decimal (hdigits ▸ List.mem_cons_self)
  have hskip : skip (decimal m ++ rest) = c :: (digits ++ rest) := by
    rw [hdigits, List.cons_append, skip_of_stops]
    exact stops_cons.mpr (isSpace_of_isDigit hdigit)
  have hleading : ¬(c = '0' ∧ (digits ++ rest).takeWhile Char.isDigit ≠ []) := by
    rintro ⟨rfl, hne⟩
    rw [eq_nil_of_decimal hdigits, List.nil_append, takeWhile_eq_nil hrest] at hne
    exact hne rfl
  simp only [readValue, hskip, hdigit, hleading, if_true, if_false]
  rw [← List.cons_append, ← hdigits, takeWhile_decimal m hrest, dropWhile_decimal m hrest,
    ofDigitChars_decimal]

theorem readValue_string (chars : Text) :
    readValue (n + 1) (quote chars ++ rest) = some (string chars, rest) := by
  have hquote : quote chars ++ rest = '"' :: (chars.flatMap escapeChar ++ '"' :: rest) := by
    simp [quote]
  have hspace : Stops isSpace ('"' :: (chars.flatMap escapeChar ++ '"' :: rest)) := by
    simp [isSpace]
  rw [hquote, readValue, skip_of_stops hspace]
  simp [readString_quote]

theorem readValue_array {items : List Json} (h : readItems n text = some (items, left))
    (hhead : (skip text).head? ≠ some ']') :
    readValue (n + 1) ('[' :: text) = some (array items, left) := by
  have hspace : Stops isSpace ('[' :: text) := by simp [isSpace]
  rw [readValue, skip_of_stops hspace]
  simp [h, hhead]

theorem readValue_object {fields : List (Text × Json)}
    (h : readFields n text = some (fields, left)) (hhead : (skip text).head? ≠ some '\x7d') :
    readValue (n + 1) ('\x7b' :: text) = some (object fields, left) := by
  have hspace : Stops isSpace ('\x7b' :: text) := by simp [isSpace]
  rw [readValue, skip_of_stops hspace]
  simp [h, hhead]

theorem readItems_of_bracket {item : Json} (h : readValue n text = some (item, left))
    (hleft : skip left = ']' :: rest) : readItems (n + 1) text = some ([item], rest) := by
  simp [readItems, h, hleft]

theorem readItems_of_comma {item : Json} {items : List Json}
    (h : readValue n text = some (item, left)) (hleft : skip left = ',' :: rest)
    (hitems : readItems n rest = some (items, left')) :
    readItems (n + 1) text = some (item :: items, left') := by
  simp [readItems, h, hleft, hitems]

variable {name text' : Text} {value : Json}

/-- The name of a field is read up to the colon behind it. -/
theorem skip_eq_of_field (htext : skip text = quote name ++ ':' :: text') :
    skip text = '"' :: (name.flatMap escapeChar ++ '"' :: ':' :: text') ∧
      skip (':' :: text') = ':' :: text' :=
  ⟨by simpa [quote] using htext, skip_of_stops (by simp [isSpace])⟩

theorem readFields_of_brace (htext : skip text = quote name ++ ':' :: text')
    (h : readValue n text' = some (value, left)) (hleft : skip left = '\x7d' :: rest) :
    readFields (n + 1) text = some ([(name, value)], rest) := by
  obtain ⟨hquote, hcolon⟩ := skip_eq_of_field htext
  simp [readFields, hquote, readString_quote, hcolon, h, hleft]

theorem readFields_of_comma {fields : List (Text × Json)}
    (htext : skip text = quote name ++ ':' :: text')
    (h : readValue n text' = some (value, left)) (hleft : skip left = ',' :: rest)
    (hfields : readFields n rest = some (fields, left')) :
    readFields (n + 1) text = some ((name, value) :: fields, left') := by
  obtain ⟨hquote, hcolon⟩ := skip_eq_of_field htext
  simp [readFields, hquote, readString_quote, hcolon, h, hleft, hfields]

/-- What stands behind the first item of an array. -/
def itemsTail (depth : Nat) (items : List Json) (rest : Text) : Text :=
  prettyItems depth items ++ '\n' :: (indent depth ++ ']' :: rest)

/-- What stands behind the first field of a record. -/
def fieldsTail (depth : Nat) (fields : List (Text × Json)) (rest : Text) : Text :=
  prettyFields depth fields ++ '\n' :: (indent depth ++ '\x7d' :: rest)

theorem skip_itemsTail_nil (depth : Nat) (rest : Text) :
    skip (itemsTail depth [] rest) = ']' :: rest := by
  rw [itemsTail, prettyItems, List.nil_append, skip_feed_indent]
  exact skip_of_stops (by simp [isSpace])

theorem skip_itemsTail_cons (depth : Nat) (item : Json) (items : List Json) (rest : Text) :
    skip (itemsTail depth (item :: items) rest) =
      ',' :: '\n' :: (indent (depth + 1) ++
        (prettyAt (depth + 1) item ++ itemsTail depth items rest)) := by
  rw [itemsTail, prettyItems, skip_of_stops (by simp [isSpace])]
  simp [itemsTail]

theorem skip_fieldsTail_nil (depth : Nat) (rest : Text) :
    skip (fieldsTail depth [] rest) = '\x7d' :: rest := by
  rw [fieldsTail, prettyFields, List.nil_append, skip_feed_indent]
  exact skip_of_stops (by simp [isSpace])

theorem skip_fieldsTail_cons (depth : Nat) (name : Text) (value : Json)
    (fields : List (Text × Json)) (rest : Text) :
    skip (fieldsTail depth ((name, value) :: fields) rest) =
      ',' :: '\n' :: (indent (depth + 1) ++ (quote name ++ ':' :: ' ' ::
        (prettyAt (depth + 1) value ++ fieldsTail depth fields rest))) := by
  rw [fieldsTail, prettyFields, skip_of_stops (by simp [isSpace])]
  simp [fieldsTail]

theorem skip_feed_quote (depth : Nat) (name rest : Text) :
    skip ('\n' :: (indent depth ++ (quote name ++ rest))) = quote name ++ rest := by
  rw [skip_feed_indent]
  exact skip_of_stops (by simp [quote, isSpace])

/-- A reader that may go this deep reads back the values whose texts are no longer. -/
structure ReadsBack (n : Nat) : Prop where
  value : ∀ depth v rest, (prettyAt depth v).length ≤ n → Stops Char.isDigit rest →
    readValue n (prettyAt depth v ++ rest) = some (v, rest)
  items : ∀ depth item items rest,
    (prettyAt (depth + 1) item).length + (prettyItems depth items).length < n →
    readItems n ('\n' :: (indent (depth + 1) ++ (prettyAt (depth + 1) item ++
      itemsTail depth items rest))) = some (item :: items, rest)
  fields : ∀ depth name value fields rest,
    (prettyAt (depth + 1) value).length + (prettyFields depth fields).length < n →
    readFields n ('\n' :: (indent (depth + 1) ++ (quote name ++ ':' :: ' ' ::
      (prettyAt (depth + 1) value ++ fieldsTail depth fields rest)))) =
        some ((name, value) :: fields, rest)

namespace ReadsBack

theorem zero : ReadsBack 0 where
  value := by
    intro depth v rest hn
    obtain ⟨c, tail, hcons, -, -⟩ := exists_cons_prettyAt depth v
    rw [hcons] at hn
    exact absurd hn (by simp)
  items := fun _ _ _ _ hn => absurd hn (Nat.not_lt_zero _)
  fields := fun _ _ _ _ _ hn => absurd hn (Nat.not_lt_zero _)

theorem value_succ (h : ReadsBack n) {depth : Nat} {v : Json}
    (hn : (prettyAt depth v).length ≤ n + 1) (hrest : Stops Char.isDigit rest) :
    readValue (n + 1) (prettyAt depth v ++ rest) = some (v, rest) := by
  rcases v with _ | (_ | _) | m | chars | (_ | ⟨item, items⟩) | (_ | ⟨⟨name, value⟩, fields⟩)
  case number => exact readValue_number m hrest
  case string => exact readValue_string chars
  case array.cons =>
    have htext : prettyAt depth (array (item :: items)) ++ rest =
        '[' :: '\n' :: (indent (depth + 1) ++
          (prettyAt (depth + 1) item ++ itemsTail depth items rest)) := by
      simp [prettyAt, itemsTail]
    have hitems := h.items depth item items rest (by
      simp only [prettyAt, List.length_append, List.length_cons] at hn
      omega)
    rw [htext]
    refine readValue_array hitems ?_
    obtain ⟨c, tail, hcons, hspace, hbracket⟩ := exists_cons_prettyAt (depth + 1) item
    rw [skip_feed_indent, hcons, List.cons_append, skip_of_stops (stops_cons.mpr hspace)]
    simpa using hbracket
  case object.cons =>
    have htext : prettyAt depth (object ((name, value) :: fields)) ++ rest =
        '\x7b' :: '\n' :: (indent (depth + 1) ++ (quote name ++ ':' :: ' ' ::
          (prettyAt (depth + 1) value ++ fieldsTail depth fields rest))) := by
      simp [prettyAt, fieldsTail]
    have hfields := h.fields depth name value fields rest (by
      simp only [prettyAt, List.length_append, List.length_cons] at hn
      omega)
    rw [htext]
    refine readValue_object hfields ?_
    rw [skip_feed_quote]
    simp [quote]
  all_goals rfl

theorem items_succ (h : ReadsBack n) {depth : Nat} {item : Json} {items : List Json}
    (hn : (prettyAt (depth + 1) item).length + (prettyItems depth items).length < n + 1) :
    readItems (n + 1) ('\n' :: (indent (depth + 1) ++ (prettyAt (depth + 1) item ++
      itemsTail depth items rest))) = some (item :: items, rest) := by
  have hitem := h.value (depth + 1) item (itemsTail depth items rest) (by omega)
    (stops_prettyItems depth items _)
  rw [readValue_congr (skip_feed_indent (depth + 1) _).symm] at hitem
  cases items with
  | nil => exact readItems_of_bracket hitem (skip_itemsTail_nil depth rest)
  | cons next items =>
      have hitems := h.items depth next items rest (by
        simp only [prettyItems, List.length_append, List.length_cons] at hn
        omega)
      exact readItems_of_comma hitem (skip_itemsTail_cons depth next items rest) hitems

theorem fields_succ (h : ReadsBack n) {depth : Nat} {fields : List (Text × Json)}
    (hn : (prettyAt (depth + 1) value).length + (prettyFields depth fields).length < n + 1) :
    readFields (n + 1) ('\n' :: (indent (depth + 1) ++ (quote name ++ ':' :: ' ' ::
      (prettyAt (depth + 1) value ++ fieldsTail depth fields rest)))) =
        some ((name, value) :: fields, rest) := by
  have hname := skip_feed_quote (depth + 1) name (':' :: ' ' ::
    (prettyAt (depth + 1) value ++ fieldsTail depth fields rest))
  have hvalue := h.value (depth + 1) value (fieldsTail depth fields rest) (by omega)
    (stops_prettyFields depth fields _)
  have hspace : ∀ c ∈ [' '], isSpace c = true := List.forall_mem_singleton.mpr rfl
  rw [readValue_congr (skip_append hspace _).symm] at hvalue
  rcases fields with _ | ⟨⟨next, nextValue⟩, fields⟩
  · exact readFields_of_brace hname hvalue (skip_fieldsTail_nil depth rest)
  · have hfields := h.fields depth next nextValue fields rest (by
      simp only [prettyFields, List.length_append, List.length_cons] at hn
      omega)
    exact readFields_of_comma hname hvalue
      (skip_fieldsTail_cons depth next nextValue fields rest) hfields

end ReadsBack

theorem readsBack (n : Nat) : ReadsBack n := by
  induction n with
  | zero => exact .zero
  | succ n ih =>
      exact ⟨fun _ _ _ => ih.value_succ, fun _ _ _ _ => ih.items_succ,
        fun _ _ _ _ _ => ih.fields_succ⟩

/-- The text of a value on lines of its own is read back to the value. -/
theorem read?_pretty (v : Json) : read? (v.pretty ++ ['\n']) = some v := by
  have hvalue := (readsBack (v.pretty ++ ['\n']).length).value 0 v ['\n'] (by simp [pretty])
    (by simp)
  have hskip : skip ['\n'] = [] := by decide
  rw [← pretty] at hvalue
  rw [read?, hvalue]
  simp [hskip]

example : (read? "[ 0,\t\"\\u00e9\" ]".toList).map pretty = some "[\n  0,\n  \"é\"\n]".toList := by
  decide +kernel

end Values

section Records

/-- The fields are in the order of their names, and no two have the same one. -/
def Ordered (fields : List (Text × Json)) : Prop :=
  fields.Pairwise fun a b => before a.1 b.1 = true

theorem before_trans {a b c : Text} (hab : before a b = true) (hbc : before b c = true) :
    before a c = true :=
  decide_eq_true (List.lt_trans (of_decide_eq_true hab) (of_decide_eq_true hbc))

theorem ne_of_before {a b : Text} (h : before a b = true) : a ≠ b := by
  rintro rfl
  exact List.lt_irrefl _ (of_decide_eq_true h)

theorem before_of_ne {a b : Text} (hne : a ≠ b) (h : before a b = false) : before b a = true := by
  rcases List.le_iff_lt_or_eq.mp (List.not_lt.mp (of_decide_eq_false h)) with hlt | heq
  · exact decide_eq_true hlt
  · exact absurd ((List.map_inj_right fun c d => Char.toNat_inj.mp).mp heq).symm hne

variable {fields : List (Text × Json)}

theorem Ordered.nodup (h : Ordered fields) : (fields.map Prod.fst).Nodup :=
  List.pairwise_map.mpr (h.imp ne_of_before)

theorem mem_insertField {name : Text} {value : Json} {field : Text × Json}
    (h : field ∈ insertField name value fields) : field = (name, value) ∨ field ∈ fields := by
  induction fields with
  | nil => exact .inl (List.mem_singleton.mp h)
  | cons head rest ih =>
      obtain ⟨other, v⟩ := head
      unfold insertField at h
      split_ifs at h with hname hbefore
      · rcases List.mem_cons.mp h with hfield | hrest
        · exact .inl hfield
        · exact .inr (List.mem_cons_of_mem _ hrest)
      · exact List.mem_cons.mp h
      · rcases List.mem_cons.mp h with hfield | hrest
        · exact .inr (hfield ▸ List.mem_cons_self)
        · exact (ih hrest).imp_right (List.mem_cons_of_mem _)

theorem Ordered.insertField (h : Ordered fields) (name : Text) (value : Json) :
    Ordered (insertField name value fields) := by
  induction fields with
  | nil => exact List.pairwise_singleton _ _
  | cons head rest ih =>
      obtain ⟨other, v⟩ := head
      obtain ⟨hhead, hrest⟩ := List.pairwise_cons.mp h
      unfold Json.insertField
      split_ifs with hname hbefore
      · subst hname
        exact List.pairwise_cons.mpr ⟨hhead, hrest⟩
      · refine List.pairwise_cons.mpr ⟨List.forall_mem_cons.mpr ⟨hbefore, ?_⟩, h⟩
        exact fun field hfield => before_trans hbefore (hhead field hfield)
      · refine List.pairwise_cons.mpr ⟨fun field hfield => ?_, ih hrest⟩
        rcases mem_insertField hfield with rfl | hfield
        · exact before_of_ne hname (by simpa using hbefore)
        · exact hhead field hfield

theorem lookup_cons (name : Text) (value : Json) (fields : List (Text × Json)) (other : Text) :
    ((name, value) :: fields).lookup other =
      if other = name then some value else fields.lookup other := by
  by_cases h : other = name
  · subst h
    simp
  · have hne : (other == name) = false := beq_eq_false_iff_ne.mpr h
    rw [if_neg h, List.lookup_cons, hne]

theorem lookup_insertField (name : Text) (value : Json) (fields : List (Text × Json))
    (other : Text) : (insertField name value fields).lookup other =
      if other = name then some value else fields.lookup other := by
  induction fields with
  | nil => exact lookup_cons name value [] other
  | cons head rest ih =>
      obtain ⟨next, v⟩ := head
      unfold insertField
      by_cases hname : name = next
      · subst hname
        rw [if_pos rfl, lookup_cons, lookup_cons]
        by_cases hother : other = name <;> simp [hother]
      · rw [if_neg hname]
        by_cases hbefore : before name next = true
        · rw [if_pos hbefore, lookup_cons]
        · rw [if_neg hbefore, lookup_cons, lookup_cons, ih]
          by_cases hother : other = name
          · subst hother
            rw [if_neg hname, if_pos rfl, if_pos rfl]
          · rw [if_neg hother, if_neg hother]

/-- A record is ordered, and the value of a name in it is the one that was given last. -/
theorem exists_record (given : List (String × Json)) :
    ∃ fields, record given = object fields ∧ Ordered fields ∧
      ∀ name, fields.lookup name =
        (given.reverse.map fun field => (field.1.toList, field.2)).lookup name := by
  refine ⟨_, rfl, ?_⟩
  induction given using List.reverseRecOn with
  | nil => exact ⟨.nil, fun _ => rfl⟩
  | append_singleton given field ih =>
      obtain ⟨hordered, hlookup⟩ := ih
      rw [List.foldl_append, List.foldl_cons, List.foldl_nil]
      refine ⟨hordered.insertField _ _, fun name => ?_⟩
      rw [lookup_insertField, hlookup, List.reverse_concat, List.map_cons, lookup_cons]

end Records

end RuleLexer.Json
