import Mathlib.Data.List.Infix
import Mathlib.Data.String.Basic

/-! # LDAP search filters

The text form of search filters: a filter in parentheses is a conjunction, a disjunction, a
negation or an item, whose value has wildcards and characters that are written as a backslash
and two digits. Every filter is what is read from its own text, so a value that is escaped
cannot change the shape of the filter that it is put into.
-/

namespace Library

/-- The characters of an attribute name. -/
def isAttributeChar (c : Char) : Bool := c.isAlphanum || c = '-' || c = '.' || c = ';'

/-- The name of an attribute in a filter. -/
structure AttributeName where
  chars : List Char
  nonempty : chars ≠ []
  plain : chars.all isAttributeChar = true

/-- The filter trees that a search knows. -/
inductive LdapFilter where
  | and (filters : List LdapFilter)
  | or (filters : List LdapFilter)
  | not (filter : LdapFilter)
  /-- The value is `first`, or begins with it and goes on with `later` behind wildcards. -/
  | item (name : AttributeName) (first : List Char) (later : List (List Char))

namespace LdapFilter

/-! ## Writing -/

/-- The characters that have a meaning in a filter are written as their codes. -/
def escapeChar (c : Char) : List Char :=
  if c = '\\' then ['\\', '5', 'c']
  else if c = '*' then ['\\', '2', 'a']
  else if c = '(' then ['\\', '2', '8']
  else if c = ')' then ['\\', '2', '9']
  else if c = Char.ofNat 0 then ['\\', '0', '0']
  else [c]

def escape (text : List Char) : List Char := text.flatMap escapeChar

def writeLater (later : List (List Char)) : List Char :=
  later.flatMap fun piece => '*' :: escape piece

mutual
def write : LdapFilter → List Char
  | .and filters => '(' :: '&' :: (writeAll filters ++ [')'])
  | .or filters => '(' :: '|' :: (writeAll filters ++ [')'])
  | .not filter => '(' :: '!' :: (write filter ++ [')'])
  | .item name first later =>
      '(' :: (name.chars ++ '=' :: (escape first ++ (writeLater later ++ [')'])))

def writeAll : List LdapFilter → List Char
  | [] => []
  | filter :: filters => write filter ++ writeAll filters
end

/-- The text of a filter. -/
def text (filter : LdapFilter) : String := String.ofList (write filter)

def texts (filters : List LdapFilter) : String := String.ofList (writeAll filters)

theorem text_and (filters : List LdapFilter) :
    text (.and filters) = "(&" ++ texts filters ++ ")" := by
  apply String.toList_injective
  simp [text, texts, write]

theorem text_or (filters : List LdapFilter) :
    text (.or filters) = "(|" ++ texts filters ++ ")" := by
  apply String.toList_injective
  simp [text, texts, write]

theorem text_item (name : AttributeName) (first : List Char) (later : List (List Char)) :
    text (.item name first later) =
      "(" ++ String.ofList name.chars ++ "=" ++ String.ofList (escape first) ++
        String.ofList (writeLater later) ++ ")" := by
  apply String.toList_injective
  simp [text, write]

theorem texts_nil : texts [] = "" := rfl

theorem texts_cons (filter : LdapFilter) (filters : List LdapFilter) :
    texts (filter :: filters) = text filter ++ texts filters := by
  apply String.toList_injective
  simp [text, texts, writeAll]

theorem escape_append (front rest : List Char) :
    escape (front ++ rest) = escape front ++ escape rest :=
  List.flatMap_append

/-! ## Reading -/

def hexDigit (c : Char) : Option Nat :=
  if '0' ≤ c ∧ c ≤ '9' then some (c.toNat - '0'.toNat)
  else if 'a' ≤ c ∧ c ≤ 'f' then some (c.toNat - 'a'.toNat + 10)
  else if 'A' ≤ c ∧ c ≤ 'F' then some (c.toNat - 'A'.toNat + 10)
  else none

/-- The ASCII character that two digits stand for. -/
def hexChar (high low : Char) : Option Char := do
  let code := 16 * (← hexDigit high) + (← hexDigit low)
  if code < 128 then some (Char.ofNat code) else none

/-- What has been read of a value, with a character in front of it. -/
def before (c : Char) (found : (List Char × List (List Char)) × List Char) :
    (List Char × List (List Char)) × List Char :=
  ((c :: found.1.1, found.1.2), found.2)

/-- A value with its wildcards, up to the parenthesis behind it. -/
def readValue : List Char → Option ((List Char × List (List Char)) × List Char)
  | [] => none
  | ')' :: rest => some (([], []), rest)
  | '*' :: rest => (readValue rest).map fun found => (([], found.1.1 :: found.1.2), found.2)
  | '\\' :: high :: low :: rest => (hexChar high low).bind fun c => (readValue rest).map (before c)
  | c :: rest =>
      if c = '(' ∨ c = '\\' ∨ c = Char.ofNat 0 then none else (readValue rest).map (before c)

def readName : List Char → Option (List Char × List Char)
  | [] => none
  | c :: rest =>
      if c = '=' then some ([], rest)
      else if isAttributeChar c then (readName rest).map fun found => (c :: found.1, found.2)
      else none

/-- The name of an attribute, if it is one. -/
def attributeName? (chars : List Char) : Option AttributeName :=
  if h : chars ≠ [] ∧ chars.all isAttributeChar = true then some ⟨chars, h.1, h.2⟩ else none

def readItem (text : List Char) : Option (LdapFilter × List Char) := do
  let (chars, rest) ← readName text
  let name ← attributeName? chars
  let (value, rest) ← readValue rest
  return (.item name value.1 value.2, rest)

mutual
/-- A filter at the beginning of a text, and the rest of the text. -/
def read : Nat → List Char → Option (LdapFilter × List Char)
  | fuel + 1, '(' :: '&' :: rest => (readAll fuel rest).map fun found => (.and found.1, found.2)
  | fuel + 1, '(' :: '|' :: rest => (readAll fuel rest).map fun found => (.or found.1, found.2)
  | fuel + 1, '(' :: '!' :: rest =>
      match read fuel rest with
      | some (filter, ')' :: rest) => some (.not filter, rest)
      | _ => none
  | _ + 1, '(' :: rest => readItem rest
  | _, _ => none

/-- Filters up to the closing parenthesis. -/
def readAll : Nat → List Char → Option (List LdapFilter × List Char)
  | 0, _ => none
  | _ + 1, ')' :: rest => some ([], rest)
  | fuel + 1, text => do
      let (filter, rest) ← read fuel text
      let (filters, rest) ← readAll fuel rest
      return (filter :: filters, rest)
end

/-- The filter that a text is, as a whole. -/
def parse (text : String) : Option LdapFilter :=
  match read text.toList.length text.toList with
  | some (filter, []) => some filter
  | _ => none

/-! ## What is read from a text that has been written -/

theorem readValue_escapeChar (c : Char) (rest : List Char) :
    readValue (escapeChar c ++ rest) = (readValue rest).map (before c) := by
  unfold escapeChar
  split_ifs with backslash star opening closing zero
  · subst backslash
    rfl
  · subst star
    rfl
  · subst opening
    rfl
  · subst closing
    rfl
  · subst zero
    rfl
  · rw [List.singleton_append, readValue]
    · rw [if_neg (by simp [opening, backslash, zero])]
    · simpa using closing
    · simpa using star
    · intro high low behind same
      exact absurd same backslash

theorem readValue_escape (text rest : List Char) :
    readValue (escape text ++ rest) =
      (readValue rest).map fun found => ((text ++ found.1.1, found.1.2), found.2) := by
  induction text with
  | nil => simp [escape]
  | cons c text ih =>
      rw [escape, List.flatMap_cons, List.append_assoc, readValue_escapeChar, ← escape, ih,
        Option.map_map]
      rfl

theorem readValue_writeLater (first : List Char) (later : List (List Char)) (rest : List Char) :
    readValue (escape first ++ (writeLater later ++ ')' :: rest)) =
      some ((first, later), rest) := by
  induction later generalizing first with
  | nil => simp [readValue_escape, writeLater, readValue]
  | cons piece later ih =>
      have text : writeLater (piece :: later) ++ ')' :: rest =
          '*' :: (escape piece ++ (writeLater later ++ ')' :: rest)) := by
        simp [writeLater]
      rw [readValue_escape, text, readValue, ih]
      simp

theorem readName_append {chars : List Char} (plain : chars.all isAttributeChar = true)
    (rest : List Char) : readName (chars ++ '=' :: rest) = some (chars, rest) := by
  induction chars with
  | nil => rfl
  | cons c chars ih =>
      rw [List.all_cons, Bool.and_eq_true] at plain
      obtain ⟨here, plain⟩ := plain
      have other : c ≠ '=' := by
        rintro rfl
        exact absurd here (by decide)
      rw [List.cons_append, readName, if_neg other, if_pos here, ih plain]
      rfl

theorem attributeName?_chars (name : AttributeName) : attributeName? name.chars = some name := by
  rw [attributeName?, dif_pos ⟨name.nonempty, name.plain⟩]

theorem readItem_write (name : AttributeName) (first : List Char) (later : List (List Char))
    (rest : List Char) :
    readItem (name.chars ++ '=' :: (escape first ++ (writeLater later ++ ')' :: rest))) =
      some (.item name first later, rest) := by
  simp [readItem, readName_append name.plain, attributeName?_chars, readValue_writeLater]

/-- An item does not begin like the other filters. -/
theorem read_item (fuel : Nat) {c : Char} (plain : isAttributeChar c = true) (rest : List Char) :
    read (fuel + 1) ('(' :: c :: rest) = readItem (c :: rest) := by
  have others (d : Char) (h : isAttributeChar d = false) : c ≠ d := by
    rintro rfl
    simp [plain] at h
  rw [read]
  · intro rest' h
    exact others '&' rfl (List.cons.inj h).1
  · intro rest' h
    exact others '|' rfl (List.cons.inj h).1
  · intro rest' h
    exact others '!' rfl (List.cons.inj h).1

theorem write_eq_cons (f : LdapFilter) : ∃ rest, write f = '(' :: rest := by
  cases f with
  | and filters => exact ⟨_, by rw [write]⟩
  | or filters => exact ⟨_, by rw [write]⟩
  | not filter => exact ⟨_, by rw [write]⟩
  | item name first later => exact ⟨_, by rw [write]⟩

/-- The induction is on the fuel, of which the characters of the text are enough. -/
theorem read_write (fuel : Nat) :
    (∀ f rest, (write f).length ≤ fuel → read fuel (write f ++ rest) = some (f, rest)) ∧
      ∀ fs rest, (writeAll fs).length + 1 ≤ fuel →
        readAll fuel (writeAll fs ++ ')' :: rest) = some (fs, rest) := by
  induction fuel with
  | zero =>
      refine ⟨fun f rest enough => ?_, fun fs rest enough => by omega⟩
      obtain ⟨_, text⟩ := write_eq_cons f
      simp [text] at enough
  | succ fuel ih =>
      refine ⟨fun f rest enough => ?_, fun fs rest enough => ?_⟩
      · cases f with
        | and filters =>
            rw [write] at enough ⊢
            simp only [List.length_cons, List.length_append, List.length_nil] at enough
            have inner := ih.2 filters rest (by omega)
            simp [read, inner]
        | or filters =>
            rw [write] at enough ⊢
            simp only [List.length_cons, List.length_append, List.length_nil] at enough
            have inner := ih.2 filters rest (by omega)
            simp [read, inner]
        | not filter =>
            rw [write] at enough ⊢
            simp only [List.length_cons, List.length_append, List.length_nil] at enough
            have inner := ih.1 filter (')' :: rest) (by omega)
            simp [read, inner]
        | item name first later =>
            have item := readItem_write name first later rest
            obtain ⟨c, chars, split⟩ := List.exists_cons_of_ne_nil name.nonempty
            have plain : isAttributeChar c = true :=
              List.all_eq_true.mp name.plain c (by simp [split])
            rw [write]
            simp only [split, List.cons_append, List.append_assoc, List.nil_append] at item ⊢
            rw [read_item fuel plain, item]
      · cases fs with
        | nil => simp [writeAll, readAll]
        | cons f fs =>
            obtain ⟨tail, text⟩ := write_eq_cons f
            simp only [writeAll, List.length_append] at enough
            have one := ih.1 f (writeAll fs ++ ')' :: rest) (by simp [text] at enough ⊢; omega)
            have others := ih.2 fs rest (by simp [text] at enough; omega)
            rw [writeAll, List.append_assoc]
            rw [text, List.cons_append] at one ⊢
            rw [readAll]
            · simp [one, others]
            · simp

/-- Every filter is what is read from its own text. -/
theorem parse_text (f : LdapFilter) : parse (text f) = some f := by
  have whole := (read_write (write f).length).1 f [] le_rfl
  rw [List.append_nil] at whole
  simp [parse, text, whole]

/-! ## Matching -/

/-- The pieces occur in the text one after the other, and the last one ends it. -/
def globLater : List (List Char) → List Char → Bool
  | [], text => text.isEmpty
  | piece :: later, text => text.tails.any fun tail =>
      match piece.isPrefixOf? tail with
      | some rest => globLater later rest
      | none => false

def glob (first : List Char) (later : List (List Char)) (text : List Char) : Bool :=
  match first.isPrefixOf? text with
  | some rest => globLater later rest
  | none => false

section Holds

variable (norm : AttributeName → List Char → List Char)
  (values : AttributeName → List (List Char))

mutual
/-- An entry with the given values meets the filter. Values of an attribute are compared by
    their normal forms. -/
def holds : LdapFilter → Bool
  | .and filters => holdsAll filters
  | .or filters => holdsAny filters
  | .not filter => !holds filter
  | .item name first later => (values name).any fun value =>
      glob (norm name first) (later.map (norm name)) (norm name value)

def holdsAll : List LdapFilter → Bool
  | [] => true
  | filter :: filters => holds filter && holdsAll filters

def holdsAny : List LdapFilter → Bool
  | [] => false
  | filter :: filters => holds filter || holdsAny filters
end

variable {norm : AttributeName → List Char → List Char}
  {values : AttributeName → List (List Char)}

theorem holds_and (filters : List LdapFilter) :
    holds norm values (.and filters) = filters.all (holds norm values) := by
  rw [holds]
  induction filters with
  | nil => rfl
  | cons filter filters ih => rw [holdsAll, List.all_cons, ih]

theorem holds_or (filters : List LdapFilter) :
    holds norm values (.or filters) = filters.any (holds norm values) := by
  rw [holds]
  induction filters with
  | nil => rfl
  | cons filter filters ih => rw [holdsAny, List.any_cons, ih]

/-- The text is matched where the first piece ends, if it begins with it. -/
theorem glob_eq (first : List Char) (later : List (List Char)) (text : List Char) :
    glob first later text = true ↔ ∃ rest, first ++ rest = text ∧ globLater later rest = true := by
  rw [glob]
  cases begins : first.isPrefixOf? text with
  | none =>
      simp only [Bool.false_eq_true, false_iff]
      rintro ⟨rest, whole, -⟩
      rw [List.isPrefixOf?_eq_some_iff_append_eq.mpr whole] at begins
      cases begins
  | some rest =>
      have whole := List.isPrefixOf?_eq_some_iff_append_eq.mp begins
      simp [← whole]

theorem glob_nil (first text : List Char) : glob first [] text = true ↔ text = first := by
  rw [glob_eq]
  constructor
  · rintro ⟨rest, rfl, ended⟩
    rw [globLater, List.isEmpty_iff] at ended
    rw [ended, List.append_nil]
  · rintro rfl
    exact ⟨[], List.append_nil _, rfl⟩

theorem globLater_wildcard (text : List Char) : globLater [[]] text = true := by
  rw [globLater, List.any_eq_true]
  exact ⟨[], (List.mem_tails _ _).mpr List.nil_suffix, rfl⟩

theorem glob_wildcard (first text : List Char) : glob first [[]] text = true ↔ first <+: text := by
  simp [glob_eq, globLater_wildcard, List.IsPrefix]

/-- One of the values is the one in the filter. -/
theorem holds_equality (name : AttributeName) (value : List Char) :
    holds norm values (.item name value []) = true ↔
      ∃ v ∈ values name, norm name v = norm name value := by
  simp [holds, glob_nil]

/-- One of the values begins with the text in the filter. -/
theorem holds_prefix (name : AttributeName) (first : List Char) (blank : norm name [] = []) :
    holds norm values (.item name first [[]]) = true ↔
      ∃ v ∈ values name, norm name first <+: norm name v := by
  simp [holds, blank, glob_wildcard]

end Holds

end LdapFilter

end Library
