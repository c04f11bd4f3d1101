import HistorySurvey.Json.Printer
import HistorySurvey.Proofs.Identifier
import Mathlib.Tactic.SplitIfs

/-! What a JSON text spells. The grammar is that of RFC 8259 as far as values are written in it here:
natural numbers are its only numbers, and a character is written as itself, by a letter after a
backslash, or by four hexadecimal digits, never by two halves. Judgments relate a text to what its
front spells and the rest of it. -/
namespace HistorySurvey.Json

def isBlank (c : Char) : Bool := c = ' ' || c = '\n' || c = '\r' || c = '\t'

/-- Letters that stand for characters after a backslash. -/
def escapes : List (Char × Char) :=
  [('"', '"'), ('\\', '\\'), ('/', '/'), ('b', '\x08'), ('f', '\x0c'), ('n', '\n'), ('r', '\r'),
    ('t', '\t')]

/-- A digit next would be part of a number. -/
def Ends (rest : List Char) : Prop := ∀ c ∈ rest.head?, c.isDigit = false

inductive Blanks : List Char → List Char → Prop
  | none (text : List Char) : Blanks text text
  | more {c : Char} {text rest : List Char} (blank : isBlank c = true) (blanks : Blanks text rest) :
      Blanks (c :: text) rest

/-- The characters up to a closing quote. -/
inductive Quoted : List Char → List Char → List Char → Prop
  | close (rest : List Char) : Quoted ('"' :: rest) [] rest
  | plain {c : Char} {text chars rest : List Char} (quote : c ≠ '"') (backslash : c ≠ '\\')
      (control : 0x20 ≤ c.toNat) (others : Quoted text chars rest) :
      Quoted (c :: text) (c :: chars) rest
  | letter {letter c : Char} {text chars rest : List Char} (stands : (letter, c) ∈ escapes)
      (others : Quoted text chars rest) : Quoted ('\\' :: letter :: text) (c :: chars) rest
  | code {a b c d : Char} {code : Nat} {text chars rest : List Char}
      (number : ObjectId.hexNumber? [a, b, c, d] = some code) (valid : code.isValidChar)
      (others : Quoted text chars rest) :
      Quoted ('\\' :: 'u' :: a :: b :: c :: d :: text) (Char.ofNat code :: chars) rest

mutual

inductive Spells : List Char → Json → List Char → Prop
  | null (rest : List Char) : Spells ('n' :: 'u' :: 'l' :: 'l' :: rest) .null rest
  | yes (rest : List Char) : Spells ('t' :: 'r' :: 'u' :: 'e' :: rest) (.boolean true) rest
  | no (rest : List Char) : Spells ('f' :: 'a' :: 'l' :: 's' :: 'e' :: rest) (.boolean false) rest
  | natural (value : Nat) {rest : List Char} (ends : Ends rest) :
      Spells (Nat.toDigits 10 value ++ rest) (.natural value) rest
  | text {inside chars rest : List Char} (quoted : Quoted inside chars rest) :
      Spells ('"' :: inside) (.text (String.ofList chars)) rest
  | nothing {inside rest : List Char} (blanks : Blanks inside (']' :: rest)) :
      Spells ('[' :: inside) (.list []) rest
  | list {inside rest : List Char} {items : List Json} (spelled : SpellsItems inside items rest) :
      Spells ('[' :: inside) (.list items) rest
  | empty {inside rest : List Char} (blanks : Blanks inside ('}' :: rest)) :
      Spells ('{' :: inside) (.object []) rest
  | object {inside rest : List Char} {fields : List (String × Json)}
      (spelled : SpellsFields inside fields rest) : Spells ('{' :: inside) (.object fields) rest

/-- Items up to a closing bracket. -/
inductive SpellsItems : List Char → List Json → List Char → Prop
  | last {text start stop rest : List Char} {item : Json} (before : Blanks text start)
      (spelled : Spells start item stop) (after : Blanks stop (']' :: rest)) :
      SpellsItems text [item] rest
  | more {text start stop next rest : List Char} {item : Json} {items : List Json}
      (before : Blanks text start) (spelled : Spells start item stop)
      (after : Blanks stop (',' :: next))
      (others : SpellsItems next items rest) : SpellsItems text (item :: items) rest

/-- A key with its value, and blanks around each. -/
inductive SpellsField : List Char → String × Json → List Char → Prop
  | field {text inside name colon start stop rest : List Char} {chars : List Char} {value : Json}
      (before : Blanks text ('"' :: inside)) (key : Quoted inside chars name)
      (between : Blanks name (':' :: colon)) (blanks : Blanks colon start)
      (spelled : Spells start value stop) (after : Blanks stop rest) :
      SpellsField text (String.ofList chars, value) rest

/-- Fields up to a closing brace. -/
inductive SpellsFields : List Char → List (String × Json) → List Char → Prop
  | last {text rest : List Char} {field : String × Json}
      (spelled : SpellsField text field ('}' :: rest)) : SpellsFields text [field] rest
  | more {text next rest : List Char} {field : String × Json} {fields : List (String × Json)}
      (spelled : SpellsField text field (',' :: next)) (others : SpellsFields next fields rest) :
      SpellsFields text (field :: fields) rest

end

/-- The whole text spells one value, with blanks around it. -/
def Denotes (text : String) (value : Json) : Prop :=
  ∃ start stop, Blanks text.toList start ∧ Spells start value stop ∧ Blanks stop []

/-! What is printed spells the value. -/

mutual

/-- Values without binary fractions. -/
def isPlain : Json → Bool
  | .number _ => false
  | .list items => arePlain items
  | .object fields => arePlainFields fields
  | _ => true

def arePlain : List Json → Bool
  | [] => true
  | item :: rest => isPlain item && arePlain rest

def arePlainFields : List (String × Json) → Bool
  | [] => true
  | field :: rest => isPlainField field && arePlainFields rest

def isPlainField : String × Json → Bool
  | (_, value) => isPlain value

end

theorem Blanks.of_all {blanks : List Char} (all : ∀ c ∈ blanks, isBlank c = true)
    (rest : List Char) : Blanks (blanks ++ rest) rest := by
  induction blanks with
  | nil => exact .none rest
  | cons c others ih =>
    exact .more (all c List.mem_cons_self) (ih fun c member => all c (List.mem_cons_of_mem _ member))

theorem newLine_blanks (depth : Nat) (rest : List Char) : Blanks (newLine depth ++ rest) rest := by
  refine .of_all (fun c member => ?_) rest
  rcases List.mem_cons.mp member with rfl | inside
  · rfl
  · rw [List.eq_of_mem_replicate inside]
    rfl

theorem hexNumber?_hexDigits {n : Nat} (small : n < 0x20) :
    ObjectId.hexNumber? ['0', '0', hexDigit (n / 16), hexDigit (n % 16)] = some n := by
  revert n
  decide

theorem Quoted.escaped (c : Char) {text chars rest : List Char} (others : Quoted text chars rest) :
    Quoted (escaped c ++ text) (c :: chars) rest := by
  rw [Json.escaped]
  split_ifs with quote backslash backspace feed line carriage tab control
  · subst quote; exact .letter (by decide) others
  · subst backslash; exact .letter (by decide) others
  · subst backspace; exact .letter (by decide) others
  · subst feed; exact .letter (by decide) others
  · subst line; exact .letter (by decide) others
  · subst carriage; exact .letter (by decide) others
  · subst tab; exact .letter (by decide) others
  · have spelled := Quoted.code (hexNumber?_hexDigits control) c.valid others
    rwa [Char.ofNat_toNat] at spelled
  · exact .plain quote backslash (Nat.le_of_not_lt control) others

theorem Quoted.of_text (chars rest : List Char) :
    Quoted (chars.flatMap Json.escaped ++ '"' :: rest) chars rest := by
  induction chars with
  | nil => exact .close rest
  | cons c others ih =>
    rw [List.flatMap_cons, List.append_assoc]
    exact ih.escaped c

theorem textChars_append (text : String) (rest : List Char) : textChars text ++ rest =
    '"' :: (text.toList.flatMap escaped ++ '"' :: rest) := by
  simp [textChars]

theorem separated_cons {parts : List (List Char)} (some : parts ≠ []) (depth : Nat)
    (part : List Char) :
    separated depth (part :: parts) = newLine depth ++ part ++ ',' :: separated depth parts := by
  cases parts with
  | nil => contradiction
  | cons => rfl

theorem ends_newLine (depth : Nat) (rest : List Char) : Ends (newLine depth ++ rest) := by
  rintro _ ⟨⟩
  rfl

theorem ends_comma (rest : List Char) : Ends (',' :: rest) := by
  rintro _ ⟨⟩
  rfl

mutual

theorem chars_spelled (depth : Nat) (value : Json) (plain : value.isPlain = true) (rest : List Char)
    (ends : Ends rest) : Spells (chars depth value ++ rest) value rest := by
  cases value with
  | null => exact .null rest
  | boolean value => cases value with
    | true => exact .yes rest
    | false => exact .no rest
  | natural value => exact .natural value ends
  | number value => contradiction
  | text value =>
    have spelled := Spells.text (Quoted.of_text value.toList rest)
    rwa [String.ofList_toList, ← textChars_append] at spelled
  | list items =>
    rw [chars, enclosed]
    cases items with
    | nil => exact .nothing (.none _)
    | cons first others =>
      have spelled :=
        items_spelled (depth + 1) depth (first :: others) (List.cons_ne_nil _ _) plain rest
      simpa [itemChars] using Spells.list spelled
  | object fields =>
    rw [chars, enclosed]
    cases fields with
    | nil => exact .empty (.none _)
    | cons first others =>
      have spelled :=
        fields_spelled (depth + 1) depth (first :: others) (List.cons_ne_nil _ _) plain rest
      simpa [fieldChars] using Spells.object spelled

theorem items_spelled (depth closing : Nat) (items : List Json) (some : items ≠ [])
    (plain : arePlain items = true) (rest : List Char) :
    SpellsItems (separated depth (itemChars depth items) ++ (newLine closing ++ ']' :: rest))
      items rest := by
  cases items with
  | nil => contradiction
  | cons first others =>
    rw [arePlain, Bool.and_eq_true] at plain
    cases others with
    | nil =>
      rw [itemChars, itemChars, separated, List.append_assoc]
      exact .last (newLine_blanks depth _)
        (chars_spelled depth first plain.1 _ (ends_newLine closing _)) (newLine_blanks closing _)
    | cons second others =>
      have spelled :=
        items_spelled depth closing (second :: others) (List.cons_ne_nil _ _) plain.2 rest
      rw [itemChars, separated_cons (by simp [itemChars]), List.append_assoc, List.append_assoc]
      exact .more (newLine_blanks depth _) (chars_spelled depth first plain.1 _ (ends_comma _))
        (.none _) spelled

theorem fields_spelled (depth closing : Nat) (fields : List (String × Json)) (some : fields ≠ [])
    (plain : arePlainFields fields = true) (rest : List Char) :
    SpellsFields (separated depth (fieldChars depth fields) ++ (newLine closing ++ '}' :: rest))
      fields rest := by
  cases fields with
  | nil => contradiction
  | cons first others =>
    rw [arePlainFields, Bool.and_eq_true] at plain
    cases others with
    | nil =>
      rw [fieldChars, fieldChars, separated, List.append_assoc]
      exact .last
        (field_spelled depth first plain.1 (ends_newLine closing _) (newLine_blanks closing _))
    | cons second others =>
      have spelled :=
        fields_spelled depth closing (second :: others) (List.cons_ne_nil _ _) plain.2 rest
      rw [fieldChars, separated_cons (by simp [fieldChars]), List.append_assoc, List.append_assoc]
      exact .more (field_spelled depth first plain.1 (ends_comma _) (.none _)) spelled

theorem field_spelled (depth : Nat) (field : String × Json) (plain : isPlainField field = true)
    {stop rest : List Char} (ends : Ends stop) (after : Blanks stop rest) :
    SpellsField (newLine depth ++ (keyedChars depth field ++ stop)) field rest := by
  obtain ⟨key, value⟩ := field
  have blank : Blanks (' ' :: (chars depth value ++ stop)) (chars depth value ++ stop) :=
    .more rfl (.none _)
  have spelled := SpellsField.field (newLine_blanks depth _) (Quoted.of_text key.toList _) (.none _)
    blank (chars_spelled depth value plain stop ends) after
  rw [String.ofList_toList, ← textChars_append] at spelled
  rwa [keyedChars, List.append_assoc]

end

/-- What is printed spells the value. -/
theorem pretty_denotes {value : Json} (plain : value.isPlain = true) :
    Denotes value.pretty value := by
  have spelled := chars_spelled 0 value plain [] (fun _ none => nomatch none)
  rw [List.append_nil] at spelled
  exact ⟨_, [], .none _, by rwa [pretty, String.toList_ofList], .none []⟩

end HistorySurvey.Json
