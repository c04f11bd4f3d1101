import HistorySurvey.Proofs.JsonText
import Mathlib.Data.List.TakeWhile

/-! A reader of JSON text. It takes values from the front of a text, and it reads every text that
spells a value as that value. -/
namespace HistorySurvey.Json

/-! Reading takes a part of the text away. -/

theorem Blanks.length_le {text rest : List Char} (blanks : Blanks text rest) :
    rest.length ≤ text.length := by
  induction blanks with
  | none => exact Nat.le_refl _
  | more _ _ ih => exact Nat.le_succ_of_le ih

theorem Quoted.length_lt {text chars rest : List Char} (quoted : Quoted text chars rest) :
    rest.length < text.length := by
  induction quoted with
  | close => exact Nat.lt_succ_self _
  | plain _ _ _ _ ih => exact Nat.lt_succ_of_lt ih
  | letter _ _ ih | code _ _ _ ih =>
    simp only [List.length_cons]
    omega

mutual

theorem Spells.length_lt {text : List Char} {value : Json} {rest : List Char} :
    Spells text value rest → rest.length < text.length
  | .null _ | .yes _ | .no _ => by simp only [List.length_cons]; omega
  | .natural value _ => by
    have some : 0 < (Nat.toDigits 10 value).length := List.length_pos_iff.mpr Nat.toDigits_ne_nil
    rw [List.length_append]
    omega
  | .text quoted => Nat.lt_succ_of_lt quoted.length_lt
  | .nothing blanks | .empty blanks => Nat.lt_succ_of_le (Nat.le_of_succ_le blanks.length_le)
  | .list spelled => Nat.lt_succ_of_lt spelled.length_lt
  | .object spelled => Nat.lt_succ_of_lt spelled.length_lt

theorem SpellsItems.length_lt {text : List Char} {items : List Json} {rest : List Char} :
    SpellsItems text items rest → rest.length < text.length
  | .last before spelled after => by
    have := before.length_le
    have := spelled.length_lt
    have := after.length_le
    simp only [List.length_cons] at *
    omega
  | .more before spelled after others => by
    have := before.length_le
    have := spelled.length_lt
    have := after.length_le
    have := others.length_lt
    simp only [List.length_cons] at *
    omega

theorem SpellsField.length_lt {text : List Char} {field : String × Json} {rest : List Char} :
    SpellsField text field rest → rest.length < text.length
  | .field before key between blanks spelled after => by
    have := before.length_le
    have := key.length_lt
    have := between.length_le
    have := blanks.length_le
    have := spelled.length_lt
    have := after.length_le
    simp only [List.length_cons] at *
    omega

theorem SpellsFields.length_lt {text : List Char} {fields : List (String × Json)}
    {rest : List Char} : SpellsFields text fields rest → rest.length < text.length
  | .last spelled => Nat.lt_of_succ_lt spelled.length_lt
  | .more spelled others => by
    have := spelled.length_lt
    have := others.length_lt
    simp only [List.length_cons] at *
    omega

end

/-! A reader. -/

namespace Reader

def skip (source : List Char) : List Char := source.dropWhile isBlank

/-- A character after a backslash. -/
def escape? : List Char → Option (Char × List Char)
  | 'u' :: a :: b :: c :: d :: rest => do
    let code ← ObjectId.hexNumber? [a, b, c, d]
    if code.isValidChar then some (Char.ofNat code, rest) else none
  | letter :: rest => (escapes.lookup letter).map (·, rest)
  | [] => none

def character? : List Char → Option (Char × List Char)
  | '\\' :: rest => escape? rest
  | c :: rest => if 0x20 ≤ c.toNat then some (c, rest) else none
  | [] => none

/-- Characters up to a closing quote, fewer than the number given. -/
def quoted? : Nat → List Char → Option (List Char × List Char)
  | 0, _ => none
  | _ + 1, '"' :: rest => some ([], rest)
  | room + 1, source => do
    let (c, rest) ← character? source
    let (others, rest) ← quoted? room rest
    some (c :: others, rest)

/-- What follows a character that is next but for blanks. -/
def expect? (c : Char) (source : List Char) : Option (List Char) :=
  match skip source with
  | [] => none
  | first :: rest => if first = c then some rest else none

/-- Parts with commas between them up to a closing character, no more than the number given. -/
def sequence? {α : Type} (part? : List Char → Option (α × List Char)) (closing : Char) :
    Nat → List Char → Option (List α × List Char)
  | 0, _ => none
  | room + 1, source => do
    let (first, rest) ← part? source
    match expect? closing rest with
    | some rest => some ([first], rest)
    | none =>
      let rest ← expect? ',' rest
      let (others, rest) ← sequence? part? closing room rest
      some (first :: others, rest)

def container? {α : Type} (part? : List Char → Option (α × List Char)) (closing : Char)
    (inside : List Char) : Option (List α × List Char) :=
  match expect? closing inside with
  | some rest => some ([], rest)
  | none => sequence? part? closing inside.length inside

def field? (value? : List Char → Option (Json × List Char)) (source : List Char) :
    Option ((String × Json) × List Char) := do
  let inside ← expect? '"' source
  let (chars, rest) ← quoted? inside.length inside
  let rest ← expect? ':' rest
  let (value, rest) ← value? (skip rest)
  some ((String.ofList chars, value), rest)

def scalar? : List Char → Option (Json × List Char)
  | 'n' :: 'u' :: 'l' :: 'l' :: rest => some (.null, rest)
  | 't' :: 'r' :: 'u' :: 'e' :: rest => some (.boolean true, rest)
  | 'f' :: 'a' :: 'l' :: 's' :: 'e' :: rest => some (.boolean false, rest)
  | '"' :: rest => (quoted? rest.length rest).map fun read => (.text (String.ofList read.1), read.2)
  | source =>
    let digits := source.takeWhile Char.isDigit
    if digits.isEmpty then none
    else some (.natural (Text.digitsValue digits), source.dropWhile Char.isDigit)

/-- A value from the front of a text, nested less deep than the number given. -/
def value? : Nat → List Char → Option (Json × List Char)
  | 0, _ => none
  | depth + 1, '[' :: inside =>
    (container? (fun source => value? depth (skip source)) ']' inside).map
      fun read => (.list read.1, read.2)
  | depth + 1, '{' :: inside =>
    (container? (field? (value? depth)) '}' inside).map fun read => (.object read.1, read.2)
  | _ + 1, source => scalar? source

end Reader

open Reader in
def read? (text : String) : Option Json := do
  let (value, rest) ← value? text.toList.length (skip text.toList)
  if skip rest = [] then some value else none

/-! The reader reads what a text spells. -/

namespace Reader

/-- Who has room for a character and more has room for the more. -/
theorem exists_succ {c : Char} {rest : List Char} {room : Nat} (enough : (c :: rest).length ≤ room) :
    ∃ more, room = more + 1 ∧ rest.length ≤ more :=
  ⟨room - 1, by rw [List.length_cons] at enough; omega⟩

theorem skip_cons {c : Char} (solid : isBlank c = false) (rest : List Char) :
    skip (c :: rest) = c :: rest :=
  List.dropWhile_cons_of_neg (by simp [solid])

theorem skip_of_blanks {text rest : List Char} (blanks : Blanks text rest)
    (solid : skip rest = rest) : skip text = rest := by
  induction blanks with
  | none => exact solid
  | more blank _ ih => exact (List.dropWhile_cons_of_pos blank).trans (ih solid)

theorem expect?_of_blanks {c : Char} {text rest : List Char} (blanks : Blanks text (c :: rest))
    (solid : isBlank c = false) : expect? c text = some rest := by
  rw [expect?, skip_of_blanks blanks (skip_cons solid rest)]
  exact if_pos rfl

theorem expect?_of_other {c other : Char} {text rest : List Char} (different : other ≠ c)
    (next : skip text = other :: rest) : expect? c text = none := by
  rw [expect?, next]
  exact if_neg different

theorem escape?_letter {letter c : Char} (stands : (letter, c) ∈ escapes) (rest : List Char) :
    escape? (letter :: rest) = some (c, rest) := by
  have looked : ∀ pair ∈ escapes, pair.1 ≠ 'u' ∧ escapes.lookup pair.1 = some pair.2 := by decide
  obtain ⟨other, found⟩ := looked _ stands
  rw [escape?, found]
  · rfl
  · exact fun _ _ _ _ _ same _ => other same

theorem quoted?_cons {room : Nat} {source : List Char} {c : Char} {rest : List Char}
    (quote : source.head? ≠ some '"') (read : character? source = some (c, rest)) :
    quoted? (room + 1) source = (quoted? room rest).map fun read => (c :: read.1, read.2) := by
  rw [quoted?, read]
  · dsimp only [Option.bind_eq_bind, Option.bind_some]
    cases quoted? room rest <;> rfl
  · rintro others rfl
    exact quote rfl

end Reader

open Reader

theorem Quoted.read {text chars rest : List Char} (quoted : Quoted text chars rest) {room : Nat}
    (enough : text.length ≤ room) : quoted? room text = some (chars, rest) := by
  induction quoted generalizing room with
  | close rest =>
    obtain ⟨room, rfl, fits⟩ := exists_succ enough
    rfl
  | @plain c text chars rest quote backslash control _ ih =>
    obtain ⟨room, rfl, fits⟩ := exists_succ enough
    have read : character? (c :: text) = some (c, text) := by
      rw [character?, if_pos control]
      exact backslash
    rw [quoted?_cons (by simpa using quote) read, ih fits]
    rfl
  | @letter letter c text chars rest stands _ ih =>
    obtain ⟨room, rfl, fits⟩ := exists_succ enough
    have read : character? ('\\' :: letter :: text) = some (c, text) := escape?_letter stands text
    rw [quoted?_cons (by simp) read, ih (Nat.le_trans (by simp) fits)]
    rfl
  | @code a b c d code text chars rest number valid _ ih =>
    obtain ⟨room, rfl, fits⟩ := exists_succ enough
    have read : character? ('\\' :: 'u' :: a :: b :: c :: d :: text) =
        some (Char.ofNat code, text) := by
      simp [character?, escape?, number, valid]
    rw [quoted?_cons (by simp) read, ih (Nat.le_trans (by simp; omega) fits)]
    rfl

/-- A number begins with a digit. -/
theorem toDigits_cons (value : Nat) :
    ∃ c others, Nat.toDigits 10 value = c :: others ∧ c.isDigit = true := by
  obtain ⟨c, others, written⟩ :=
    List.exists_cons_of_ne_nil (Nat.toDigits_ne_nil (b := 10) (n := value))
  exact ⟨c, others, written, Text.isDigit_of_mem_toDigits (written ▸ List.mem_cons_self)⟩

/-! A value begins with a character that is neither blank nor closes a list. -/

theorem Spells.begins {text : List Char} {value : Json} {rest : List Char}
    (spelled : Spells text value rest) :
    ∃ c others, text = c :: others ∧ isBlank c = false ∧ c ≠ ']' := by
  cases spelled with
  | natural value =>
    obtain ⟨c, others, digits, digit⟩ := toDigits_cons value
    refine ⟨c, others ++ rest, by rw [digits, List.cons_append], ?_, ?_⟩
    · rw [Bool.eq_false_iff]
      intro blank
      simp only [isBlank, Bool.or_eq_true, decide_eq_true_eq] at blank
      rcases blank with ((rfl | rfl) | rfl) | rfl <;> contradiction
    · rintro rfl
      contradiction
  | _ => exact ⟨_, _, rfl, rfl, by decide⟩

theorem Spells.skip_eq {text : List Char} {value : Json} {rest : List Char}
    (spelled : Spells text value rest) : skip text = text := by
  obtain ⟨c, others, rfl, solid, _⟩ := spelled.begins
  exact skip_cons solid others

theorem SpellsItems.unclosed {text : List Char} {items : List Json} {rest : List Char}
    (spelled : SpellsItems text items rest) : expect? ']' text = none := by
  cases spelled with
  | last before spelled | more before spelled =>
    obtain ⟨c, others, rfl, _, other⟩ := spelled.begins
    exact expect?_of_other other (skip_of_blanks before spelled.skip_eq)

theorem SpellsFields.unclosed {text : List Char} {fields : List (String × Json)} {rest : List Char}
    (spelled : SpellsFields text fields rest) : expect? '}' text = none := by
  have other : '"' ≠ '}' := by decide
  obtain ⟨⟨before⟩⟩ | ⟨⟨before⟩⟩ := spelled <;>
  exact expect?_of_other other (skip_of_blanks before (skip_cons rfl _))

namespace Reader

theorem scalar?_natural (value : Nat) {rest : List Char} (ends : Ends rest) :
    scalar? (Nat.toDigits 10 value ++ rest) = some (.natural value, rest) := by
  have digits : ∀ c ∈ Nat.toDigits 10 value, c.isDigit = true :=
    fun _ member => Text.isDigit_of_mem_toDigits member
  have stop : rest.takeWhile Char.isDigit = [] := by
    cases rest with
    | nil => rfl
    | cons c others => exact List.takeWhile_cons_of_neg (by simp [ends c rfl])
  have after : rest.dropWhile Char.isDigit = rest := by
    cases rest with
    | nil => rfl
    | cons c others => exact List.dropWhile_cons_of_neg (by simp [ends c rfl])
  obtain ⟨c, others, written, digit⟩ := toDigits_cons value
  have number : (Nat.toDigits 10 value).isEmpty = false := by rw [written, List.isEmpty_cons]
  rw [scalar?, List.takeWhile_append_of_pos digits, List.dropWhile_append_of_pos digits, stop, after,
    List.append_nil, Text.digitsValue_toDigits, number, if_neg Bool.false_ne_true]
  all_goals
    intro others same
    rw [written, List.cons_append] at same
    obtain ⟨rfl, _⟩ := List.cons.inj same
    contradiction

/-- One part and what is behind it. -/
theorem sequence?_last {α : Type} {part? : List Char → Option (α × List Char)} {closing : Char}
    {source stop rest : List Char} {first : α} (read : part? source = some (first, stop))
    (closed : expect? closing stop = some rest) (room : Nat) :
    sequence? part? closing (room + 1) source = some ([first], rest) := by
  rw [sequence?, read]
  dsimp only [Option.bind_eq_bind, Option.bind_some]
  rw [closed]

theorem sequence?_more {α : Type} {part? : List Char → Option (α × List Char)} {closing : Char}
    {source stop next rest : List Char} {first : α} {others : List α} {room : Nat}
    (read : part? source = some (first, stop)) (opened : expect? closing stop = none)
    (comma : expect? ',' stop = some next)
    (more : sequence? part? closing room next = some (others, rest)) :
    sequence? part? closing (room + 1) source = some (first :: others, rest) := by
  rw [sequence?, read]
  dsimp only [Option.bind_eq_bind, Option.bind_some]
  rw [opened]
  dsimp only
  rw [comma, Option.bind_some, more]
  rfl

theorem value?_scalar {depth : Nat} {source : List Char} {result : Json × List Char}
    (list : source.head? ≠ some '[') (object : source.head? ≠ some '{')
    (read : scalar? source = some result) : value? (depth + 1) source = some result := by
  rw [value?, read]
  · rintro others rfl
    exact list rfl
  · rintro others rfl
    exact object rfl

end Reader

mutual

theorem Spells.read {text : List Char} {value : Json} {rest : List Char} {depth : Nat} :
    Spells text value rest → text.length ≤ depth → value? depth text = some (value, rest)
  | .null _, enough | .yes _, enough | .no _, enough => by
    obtain ⟨depth, rfl, _⟩ := exists_succ enough
    rfl
  | .natural value ends, enough => by
    obtain ⟨c, others, written, digit⟩ := toDigits_cons value
    have read := scalar?_natural value ends
    rw [written, List.cons_append] at enough read ⊢
    obtain ⟨depth, rfl, _⟩ := exists_succ enough
    refine value?_scalar ?_ ?_ read
    all_goals
      rintro ⟨⟩
      contradiction
  | .text quoted, enough => by
    obtain ⟨depth, rfl, _⟩ := exists_succ enough
    exact value?_scalar (by simp) (by simp) (by rw [scalar?, quoted.read (Nat.le_refl _)]; rfl)
  | .nothing blanks, enough => by
    obtain ⟨depth, rfl, _⟩ := exists_succ enough
    rw [value?, container?, expect?_of_blanks blanks rfl]
    rfl
  | .list spelled, enough => by
    obtain ⟨depth, rfl, fits⟩ := exists_succ enough
    rw [value?, container?, spelled.unclosed]
    dsimp only
    rw [spelled.read fits (Nat.le_refl _)]
    rfl
  | .empty blanks, enough => by
    obtain ⟨depth, rfl, _⟩ := exists_succ enough
    rw [value?, container?, expect?_of_blanks blanks rfl]
    rfl
  | .object spelled, enough => by
    obtain ⟨depth, rfl, fits⟩ := exists_succ enough
    rw [value?, container?, spelled.unclosed]
    dsimp only
    rw [spelled.read fits (Nat.le_refl _)]
    rfl

theorem SpellsItems.read {text : List Char} {items : List Json} {rest : List Char}
    {depth room : Nat} :
    SpellsItems text items rest → text.length ≤ depth → text.length ≤ room →
      sequence? (fun source => value? depth (skip source)) ']' room text = some (items, rest)
  | .last before spelled after, enough, fits => by
    have inside := before.length_le
    have shorter := spelled.length_lt
    obtain ⟨room, rfl⟩ : ∃ more, room = more + 1 := ⟨room - 1, by omega⟩
    refine sequence?_last ?_ (expect?_of_blanks after rfl) room
    rw [skip_of_blanks before spelled.skip_eq]
    exact spelled.read (Nat.le_trans inside enough)
  | .more before spelled after others, enough, fits => by
    have inside := before.length_le
    have shorter := spelled.length_lt
    have behind := after.length_le
    rw [List.length_cons] at behind
    obtain ⟨room, rfl⟩ : ∃ more, room = more + 1 := ⟨room - 1, by omega⟩
    have comma : ',' ≠ ']' := by decide
    refine sequence?_more ?_ (expect?_of_other comma (skip_of_blanks after (skip_cons rfl _)))
      (expect?_of_blanks after rfl) (others.read (by omega) (by omega))
    rw [skip_of_blanks before spelled.skip_eq]
    exact spelled.read (Nat.le_trans inside enough)

theorem SpellsField.read {text : List Char} {field : String × Json} {rest : List Char}
    {depth : Nat} :
    SpellsField text field rest → text.length ≤ depth →
      ∃ stop, field? (value? depth) text = some (field, stop) ∧ Blanks stop rest
  | .field before key between blanks spelled after, enough => by
    have inside := before.length_le
    have shorter := key.length_lt
    have behind := between.length_le
    have start := blanks.length_le
    simp only [List.length_cons] at inside behind
    have read := spelled.read (show _ ≤ depth by omega)
    refine ⟨_, ?_, after⟩
    simp only [field?, expect?_of_blanks before rfl, key.read (Nat.le_refl _),
      expect?_of_blanks between rfl, skip_of_blanks blanks spelled.skip_eq, read,
      Option.bind_eq_bind, Option.bind_some]

theorem SpellsFields.read {text : List Char} {fields : List (String × Json)} {rest : List Char}
    {depth room : Nat} :
    SpellsFields text fields rest → text.length ≤ depth → text.length ≤ room →
      sequence? (field? (value? depth)) '}' room text = some (fields, rest)
  | .last spelled, enough, fits => by
    have shorter := spelled.length_lt
    obtain ⟨room, rfl⟩ : ∃ more, room = more + 1 := ⟨room - 1, by omega⟩
    obtain ⟨stop, read, after⟩ := spelled.read enough
    exact sequence?_last read (expect?_of_blanks after rfl) room
  | .more spelled others, enough, fits => by
    have shorter := spelled.length_lt
    rw [List.length_cons] at shorter
    obtain ⟨room, rfl⟩ : ∃ more, room = more + 1 := ⟨room - 1, by omega⟩
    obtain ⟨stop, read, after⟩ := spelled.read enough
    have comma : ',' ≠ '}' := by decide
    exact sequence?_more read (expect?_of_other comma (skip_of_blanks after (skip_cons rfl _)))
      (expect?_of_blanks after rfl) (others.read (by omega) (by omega))

end

/-- A text that spells a value is read as that value, so it spells no other. -/
theorem Denotes.read {text : String} {value : Json} (denotes : Denotes text value) :
    read? text = some value := by
  obtain ⟨start, stop, before, spelled, after⟩ := denotes
  rw [read?, skip_of_blanks before spelled.skip_eq, spelled.read before.length_le]
  dsimp only [Option.bind_eq_bind, Option.bind_some]
  rw [skip_of_blanks after rfl, if_pos rfl]

example : read? "[ 1, \"\\u0041\" ]\n" = some (.list [.natural 1, .text "A"]) := by rfl

end HistorySurvey.Json
