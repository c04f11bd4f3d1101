/-! Natural numbers in text: ASCII digits with an optional plus sign, read into a bounded range. -/
namespace HistorySurvey.Text

def digitValue (c : Char) : Nat := c.toNat - '0'.toNat

def digitsValue (digits : List Char) : Nat :=
  digits.foldl (fun number c => 10 * number + digitValue c) 0

/-- A number of at least one digit and at most `limit`, with an optional plus sign in front. -/
def readNatural? (limit : Nat) (text : List Char) : Option Nat :=
  let digits := match text with
    | '+' :: rest => rest
    | _ => text
  if digits.isEmpty || !digits.all Char.isDigit then none
  else
    let number := digitsValue digits
    if number ≤ limit then some number else none

/-! Decimal digits of a number read back as the number. -/

theorem digitsValue_toDigits (n : Nat) : digitsValue (Nat.toDigits 10 n) = n :=
  Nat.ofDigitChars_ten_toDigits

theorem isDigit_of_mem_toDigits {n : Nat} {c : Char} (member : c ∈ Nat.toDigits 10 n) :
    c.isDigit = true :=
  Nat.isDigit_of_mem_toDigits (by decide) (by decide) member

theorem readNatural?_of_unsigned {limit : Nat} {first : Char} {rest : List Char}
    (unsigned : first ≠ '+') : readNatural? limit (first :: rest) =
      if !(first :: rest).all Char.isDigit then none
      else if digitsValue (first :: rest) ≤ limit then some (digitsValue (first :: rest))
      else none := by
  simp [readNatural?, unsigned]

theorem readNatural?_toDigits {limit n : Nat} (within : n ≤ limit) :
    readNatural? limit (Nat.toDigits 10 n) = some n := by
  have digits : (Nat.toDigits 10 n).all Char.isDigit = true :=
    List.all_eq_true.mpr fun _ member => isDigit_of_mem_toDigits member
  have value := digitsValue_toDigits n
  cases written : Nat.toDigits 10 n with
  | nil => exact absurd written Nat.toDigits_ne_nil
  | cons first rest =>
    have unsigned : first ≠ '+' := by
      rintro rfl
      exact absurd (isDigit_of_mem_toDigits (written ▸ List.mem_cons_self)) (by decide)
    rw [written] at digits value
    rw [readNatural?_of_unsigned unsigned, digits, value, if_pos within, Bool.not_true,
      if_neg Bool.false_ne_true]

/-- What is neither a digit nor a sign makes a text no number. -/
theorem readNatural?_eq_none {limit : Nat} {text : List Char} {c : Char} (member : c ∈ text)
    (unsigned : c ≠ '+') (other : c.isDigit = false) : readNatural? limit text = none := by
  have stops (digits : List Char) (inside : c ∈ digits) : digits.all Char.isDigit = false :=
    List.all_eq_false.mpr ⟨c, inside, by simp [other]⟩
  cases text with
  | nil => contradiction
  | cons first rest =>
    by_cases signed : first = '+'
    · subst signed
      have inside := (List.mem_cons.mp member).resolve_left unsigned
      simp only [readNatural?, stops rest inside, Bool.not_false, Bool.or_true, if_true]
    · rw [readNatural?_of_unsigned signed, stops _ member, Bool.not_false, if_pos rfl]

def repeated (c : Char) (n : Nat) : String := String.ofList (List.replicate n c)

/-- Blanks after a text up to a number of characters; a longer text is kept whole. -/
def padRight (width : Nat) (text : String) : String :=
  text ++ repeated ' ' (width - text.length)

def padLeft (width : Nat) (text : String) : String :=
  repeated ' ' (width - text.length) ++ text

end HistorySurvey.Text
