import HistorySurvey.Regex.Reader

/-! Reading an expression inside a group that is bound to both ends of a text, beside reading it
alone. The readers of single signs take the same from both, unless the expression ends within a sign
and the closing of the group is taken for the rest of it. The group is never closed then. -/
namespace HistorySurvey.Regex

/-- What stands behind an expression that is bound to both ends. -/
def closing : List Char := [')', '$']

/-- An input and the same one with the closing behind it. A comment that reaches the end of the
first reaches over the closing, and nothing is left of either. -/
inductive Framed : List Char → List Char → Prop
  | closed (input : List Char) : Framed input (input ++ closing)
  | commented : Framed [] []

variable {input framed : List Char} (extended : Bool)

/-- Both begin with the same character, or the input is at its end. -/
theorem Framed.begins (same : Framed input framed) :
    input = [] ∧ framed = closing ∨ input = [] ∧ framed = [] ∨
      ∃ c rest more, input = c :: rest ∧ framed = c :: more ∧ Framed rest more := by
  cases same with
  | commented => exact .inr (.inl ⟨rfl, rfl⟩)
  | closed =>
    cases input with
    | nil => exact .inl ⟨rfl, rfl⟩
    | cons c rest => exact .inr (.inr ⟨c, rest, _, rfl, rfl, .closed rest⟩)

theorem Framed.of_nil (same : Framed [] framed) : framed = closing ∨ framed = [] := by
  rcases same.begins with ⟨_, last⟩ | ⟨_, none⟩ | ⟨_, _, _, _, _, _⟩
  · exact .inl last
  · exact .inr none
  · contradiction

theorem Framed.exists_cons {c : Char} (same : Framed (c :: input) framed) :
    ∃ rest, framed = c :: rest ∧ Framed input rest := by
  cases same with
  | closed => exact ⟨_, rfl, .closed input⟩

theorem Framed.ne_nil (same : Framed input framed) (some : input ≠ []) : framed ≠ [] := by
  obtain ⟨c, rest, rfl⟩ := List.exists_cons_of_ne_nil some
  obtain ⟨more, rfl, _⟩ := same.exists_cons
  exact List.cons_ne_nil c more

theorem Framed.exists_front {c : Char} (same : Framed input (c :: framed)) (other : c ≠ ')') :
    ∃ rest, input = c :: rest ∧ Framed rest framed := by
  rcases same.begins with ⟨_, last⟩ | ⟨_, none⟩ | ⟨d, rest, more, first, second, inner⟩
  · exact absurd (List.cons.inj last).1 other
  · contradiction
  · obtain ⟨rfl, rfl⟩ := List.cons.inj second
    exact ⟨rest, first, inner⟩

theorem Framed.not_cons {c : Char} (same : Framed input framed) (other : c ≠ ')')
    (not : ∀ rest, input = c :: rest → False) : ∀ rest, framed = c :: rest → False := by
  rintro rest rfl
  obtain ⟨rest, begins, _⟩ := same.exists_front other
  exact not rest begins

theorem Framed.not_cons_cons {c d : Char} (same : Framed input framed) (first : c ≠ ')')
    (second : d ≠ ')') (not : ∀ rest, input = c :: d :: rest → False) :
    ∀ rest, framed = c :: d :: rest → False := by
  rintro rest rfl
  obtain ⟨_, rfl, inner⟩ := same.exists_front first
  obtain ⟨rest, rfl, _⟩ := inner.exists_front second
  exact not rest rfl

private theorem whiteSpace_eq : Unicode.Property.whiteSpace =
    ⟨[(0x9, 0xd), (0x20, 0x20), (0x85, 0x85), (0xa0, 0xa0), (0x1680, 0x1680), (0x2000, 0x200a),
      (0x2028, 0x2029), (0x202f, 0x202f), (0x205f, 0x205f), (0x3000, 0x3000)]⟩ := by
  have table : Unicode.Property.find? "whitespace" =
      some (CharSet.ofText "9-d 20 85 a0 1680 2000-200a 2028-2029 202f 205f 3000") := rfl
  rw [Unicode.Property.whiteSpace, table, Option.getD_some, CharSet.ofText, CharSet.hexWords,
    String.foldl_eq_foldl_toList]
  decide +kernel

private theorem not_blank : Text.isBlank ')' = false := by
  rw [Text.isBlank, whiteSpace_eq]
  decide

theorem skip_nil : skip extended [] = [] := by cases extended <;> rfl

theorem Framed.length_lt_iff (same : Framed input framed) (some : skip extended input ≠ [])
    {rest more : List Char} (left : Framed rest more) :
    more.length < framed.length ↔ rest.length < input.length := by
  cases same with
  | commented => exact absurd (skip_nil extended) some
  | closed =>
    have some : input ≠ [] := by
      rintro rfl
      exact some (skip_nil extended)
    rw [List.length_append]
    cases left with
    | commented => simpa [closing] using List.length_pos_iff.mpr some
    | closed => simp

theorem skip_cons {c : Char} (sign : Text.isBlank c = false) (other : c ≠ '#') (rest : List Char) :
    skip extended (c :: rest) = c :: rest := by
  cases extended
  · rfl
  · simp [skip, skipIgnored, sign, other]

theorem skip_closing : skip extended closing = closing :=
  skip_cons extended not_blank (by decide) _

theorem skip_dollar : skip extended ['$'] = ['$'] := by
  refine skip_cons extended ?_ (by decide) []
  rw [Text.isBlank, whiteSpace_eq]
  decide

theorem Framed.skipIgnored (same : Framed input framed) (inComment : Bool) :
    Framed (skipIgnored inComment input) (skipIgnored inComment framed) := by
  cases same with
  | commented => exact .commented
  | closed =>
    induction input generalizing inComment with
    | nil =>
      cases inComment with
      | false =>
        have kept : Regex.skipIgnored false closing = closing := skip_closing true
        exact kept.symm ▸ .closed []
      | true => exact .commented
    | cons c rest ih =>
      rw [List.cons_append]
      unfold Regex.skipIgnored
      split
      · exact ih _
      · split
        · exact ih _
        · split
          · exact ih _
          · exact .closed (c :: rest)

theorem Framed.skip (same : Framed input framed) (extended : Bool) :
    Framed (skip extended input) (skip extended framed) := by
  cases extended
  · exact same
  · exact same.skipIgnored false

theorem dropBlanks_closing : closing.dropWhile Text.isBlank = closing := by
  simp [closing, not_blank]

theorem Framed.dropBlanks (same : Framed input framed) :
    Framed (input.dropWhile Text.isBlank) (framed.dropWhile Text.isBlank) := by
  cases same with
  | commented => exact .commented
  | closed =>
    induction input with
    | nil =>
      exact dropBlanks_closing.symm ▸ .closed []
    | cons c rest ih =>
      simp only [List.cons_append, List.dropWhile_cons]
      split
      · exact ih
      · exact .closed (c :: rest)

/-- Up to a mark that is not in the closing, the same is read. -/
theorem Framed.upTo (same : Framed input framed) {mark : Char} (outside : mark ∉ closing) :
    input.dropWhile (· ≠ mark) = [] ∧ framed.dropWhile (· ≠ mark) = [] ∨
      framed.takeWhile (· ≠ mark) = input.takeWhile (· ≠ mark) ∧
        Framed (input.dropWhile (· ≠ mark)) (framed.dropWhile (· ≠ mark)) := by
  cases same with
  | commented => exact .inl ⟨rfl, rfl⟩
  | closed =>
    induction input with
    | nil =>
      have all : ∀ c ∈ closing, c ≠ mark := fun c member => by
        rintro rfl
        exact outside member
      simp only [closing, List.forall_mem_cons] at all
      exact .inl ⟨rfl, by simp [closing, all]⟩
    | cons c rest ih =>
      by_cases here : c = mark
      · simpa [here] using Framed.closed (mark :: rest)
      · simpa [here] using ih

/-- Results of two readings. Both take something, and that is related, or neither does, or only the
second one does, and it is lost with that. -/
inductive Alike {A B : Type} (related : A → B → Prop) (lost : B → Prop) :
    Option A → Option B → Prop
  | both {a : A} {b : B} (same : related a b) : Alike related lost (some a) (some b)
  | neither : Alike related lost none none
  | beyond {b : B} (past : lost b) : Alike related lost none (some b)

namespace Alike

variable {A B C D : Type} {related : A → B → Prop} {lost : B → Prop} {x : Option A} {y : Option B}
  {related' : C → D → Prop} {lost' : D → Prop}

theorem mono (alike : Alike related lost x y) {more : B → Prop} (all : ∀ b, lost b → more b) :
    Alike related more x y := by
  cases alike with
  | both same => exact .both same
  | neither => exact .neither
  | beyond past => exact .beyond (all _ past)

theorem bind (alike : Alike related lost x y) {f : A → Option C} {g : B → Option D}
    (next : ∀ a b, x = some a → related a b → Alike related' lost' (f a) (g b))
    (late : ∀ b, lost b → Alike related' lost' none (g b)) :
    Alike related' lost' (x.bind f) (y.bind g) := by
  cases alike with
  | both same => exact next _ _ rfl same
  | neither => exact .neither
  | beyond past => exact late _ past

theorem map (alike : Alike related lost x y) {f : A → C} {g : B → D}
    (next : ∀ a b, related a b → related' (f a) (g b)) (late : ∀ b, lost b → lost' (g b)) :
    Alike related' lost' (x.map f) (y.map g) := by
  cases alike with
  | both same => exact .both (next _ _ same)
  | neither => exact .neither
  | beyond past => exact .beyond (late _ past)

end Alike

/-- What is left when a sign of the closing was taken for one of the expression, which can never be
closed then. An opening brace that is left has only the closing behind it. -/
inductive Lost (extended : Bool) : List Char → Prop
  | nothing : Lost extended []
  | dollar : Lost extended ['$']
  | brace {behind : List Char} (last : skip extended behind = closing) :
    Lost extended ('\x7b' :: behind)

theorem Lost.skip {more : List Char} (past : Lost extended more) :
    Regex.skip extended more = more := by
  cases past with
  | nothing => exact skip_nil extended
  | dollar => exact skip_dollar extended
  | brace =>
    refine skip_cons extended ?_ (by decide) _
    rw [Text.isBlank, whiteSpace_eq]
    decide

/-- Results that are the same but for the closing behind what is left. -/
def Kept {A : Type} (a b : A × List Char) : Prop := a.1 = b.1 ∧ Framed a.2 b.2

/-- A reader that takes the same from an input with the closing behind it. -/
def Keeps {A : Type} (read : List Char → Option (A × List Char)) : Prop :=
  ∀ ⦃input framed : List Char⦄, Framed input framed →
    Alike Kept (fun _ => False) (read input) (read framed)

/-- A reader that takes the same, unless it takes the closing for a part of the expression. -/
def Reaches {A : Type} (extended : Bool) (read : List Char → Option (A × List Char)) : Prop :=
  ∀ ⦃input framed : List Char⦄, Framed input framed →
    Alike Kept (fun b => Lost extended b.2) (read input) (read framed)

/-- A reader that takes the same, maybe nothing. -/
def KeepsAll {A : Type} (read : List Char → A × List Char) : Prop :=
  ∀ ⦃input framed : List Char⦄, Framed input framed → Kept (read input) (read framed)

theorem Keeps.reaches {A : Type} {read : List Char → Option (A × List Char)} (keeps : Keeps read) :
    Reaches extended read :=
  fun _ _ same => (keeps same).mono fun _ => False.elim

theorem Keeps.map {A B : Type} {read : List Char → Option (A × List Char)} (keeps : Keeps read)
    (f : A → B) : Keeps fun input => (read input).map fun (a, rest) => (f a, rest) :=
  fun _ _ same => (keeps same).map (fun _ _ kept => ⟨congrArg f kept.1, kept.2⟩) fun _ => id

theorem Reaches.map {A B : Type} {read : List Char → Option (A × List Char)}
    (reaches : Reaches extended read) (f : A → B) :
    Reaches extended fun input => (read input).map fun (a, rest) => (f a, rest) :=
  fun _ _ same => (reaches same).map (fun _ _ kept => ⟨congrArg f kept.1, kept.2⟩) fun _ => id

theorem Keeps.skip {A : Type} {read : List Char → Option (A × List Char)} (keeps : Keeps read)
    (extended : Bool) : Keeps fun input => read (Regex.skip extended input) :=
  fun _ _ same => keeps (same.skip extended)

theorem KeepsAll.bind {A B : Type} {first : List Char → A × List Char}
    {next : A → List Char → Option (B × List Char)} (all : KeepsAll first)
    (keeps : ∀ a, Keeps (next a)) : Keeps fun input =>
      match first input with
      | (a, rest) => next a rest := by
  intro input framed same
  obtain ⟨kept, inner⟩ := all same
  dsimp only
  rw [← kept]
  exact keeps _ inner

/-- What is made of something taken, if that can be made. -/
theorem Framed.made {A B : Type} {lost : B × List Char → Prop} (same : Framed input framed)
    (made : Option A) (f : A → B) :
    Alike Kept lost (made.bind fun a => some (f a, input))
      (made.bind fun a => some (f a, framed)) := by
  cases made with
  | none => exact .neither
  | some a => exact .both ⟨rfl, same⟩

/-! Signs. -/

theorem keeps_fixedHex (count code : Nat) : Keeps (fixedHex extended count code) := by
  intro input framed same
  induction count generalizing code input framed with
  | zero => exact .both ⟨rfl, same⟩
  | succ count ih =>
    rcases same.begins with ⟨rfl, rfl⟩ | ⟨rfl, rfl⟩ | ⟨c, input, framed, rfl, rfl, inner⟩
    · exact .neither
    · exact .neither
    · unfold fixedHex
      cases anyHexValue? c with
      | none => exact .neither
      | some value => exact ih _ (inner.skip extended)

theorem keeps_bracedHex (code : Option Nat) : Keeps (bracedHex extended code) := by
  intro input framed same
  induction code, input using bracedHex.induct extended generalizing framed with
  | case1 code =>
    have last : bracedHex extended code closing = none := by
      simp [bracedHex, closing, show anyHexValue? ')' = none from rfl]
    rcases same.of_nil with rfl | rfl
    · rw [last, bracedHex]
      exact .neither
    · rw [bracedHex]
      exact .neither
  | case2 code =>
    obtain ⟨framed, rfl, inner⟩ := same.exists_cons
    rw [bracedHex, bracedHex]
    cases code with
    | none => exact .neither
    | some code => exact .both ⟨rfl, inner.skip extended⟩
  | case3 code c _ _ digit value ih =>
    obtain ⟨framed, rfl, inner⟩ := same.exists_cons
    simp only [bracedHex, value]
    exact ih (inner.skip extended)
  | case4 code c _ _ value =>
    obtain ⟨framed, rfl, inner⟩ := same.exists_cons
    simp only [bracedHex, value]
    exact .neither

private theorem keeps_code {read : List Char → Option (Nat × List Char)} (keeps : Keeps read)
    (byte : Bool) : Keeps fun input =>
      ((read input).map fun (code, rest) => (code, byte, rest)).bind fun (code, byte, rest) =>
        (character? code).bind fun c => some (Expression.literal ⟨c, byte⟩, rest) := by
  intro input framed same
  simp only [Option.bind_map]
  refine (keeps same).bind ?_ fun _ => False.elim
  rintro ⟨code, rest⟩ ⟨_, more⟩ - ⟨rfl, inner⟩
  exact inner.made (character? code) fun c => Expression.literal ⟨c, byte⟩

theorem keeps_hexLiteral (count : Nat) (byte : Bool) : Keeps (hexLiteral extended count byte) := by
  intro input framed same
  have digits := keeps_code (keeps_fixedHex extended count 0) byte
  have braced := keeps_code ((keeps_bracedHex extended none).skip extended) false
  have signs := same.skip extended
  unfold hexLiteral
  split
  · rename_i brace
    rw [brace] at signs
    obtain ⟨more, shown, inner⟩ := signs.exists_cons
    rw [shown]
    exact braced inner
  · rename_i other
    have still := signs.not_cons (by decide) other
    split
    · exact (still _ ‹_›).elim
    · exact digits signs

theorem keeps_bracedName (name : List Char) : Keeps (bracedName extended name) := by
  intro input framed same
  induction name, input using bracedName.induct extended generalizing framed with
  | case1 name =>
    have last : bracedName extended name closing = none := by
      simp [bracedName, closing, skip_dollar, skip_nil]
    rcases same.of_nil with rfl | rfl
    · rw [last, bracedName]
      exact .neither
    · rw [bracedName]
      exact .neither
  | case2 name =>
    obtain ⟨framed, rfl, inner⟩ := same.exists_cons
    rw [bracedName, bracedName]
    exact .both ⟨rfl, inner⟩
  | case3 name c _ _ ih =>
    obtain ⟨framed, rfl, inner⟩ := same.exists_cons
    simp only [bracedName]
    exact ih (inner.skip extended)

theorem reaches_propertyClass (negated : Bool) :
    Reaches extended (propertyClass extended negated) := by
  intro input framed same
  have signs := same.skip extended
  fun_cases propertyClass extended negated input with
  | case1 ended =>
    rw [ended] at signs
    unfold propertyClass
    rcases signs.of_nil with last | none
    · rw [last]
      exact .beyond (by rw [skip_dollar]; exact .dollar)
    · rw [none]
      exact .neither
  | case2 rest brace =>
    rw [brace] at signs
    obtain ⟨more, shown, inner⟩ := signs.exists_cons
    simp only [propertyClass, shown]
    exact (((keeps_bracedName extended []).skip extended).map
      fun name => Expression.property (.ofName name) negated).reaches extended inner
  | case3 rest _ begins =>
    rw [begins] at signs
    obtain ⟨more, shown, inner⟩ := signs.exists_cons
    simp only [propertyClass, shown]
    exact .neither
  | case4 c rest plain begins other =>
    rw [begins] at signs
    obtain ⟨more, shown, inner⟩ := signs.exists_cons
    simp only [propertyClass, shown, if_neg other]
    exact .both ⟨rfl, inner.skip extended⟩

theorem keepsAll_edgeName (name : List Char) : KeepsAll (edgeName extended name) := by
  intro input framed same
  induction name, input using edgeName.induct extended generalizing framed with
  | case1 name =>
    have stop : edgeName extended name closing = (name.reverse, closing) := by
      rw [closing, edgeName, if_neg (by decide)]
    have none : edgeName extended name [] = (name.reverse, []) := by rw [edgeName]
    rcases same.of_nil with rfl | rfl
    · exact none.symm ▸ stop.symm ▸ ⟨rfl, same⟩
    · exact none.symm ▸ ⟨rfl, same⟩
  | case2 name c rest letter ih =>
    obtain ⟨framed, rfl, inner⟩ := same.exists_cons
    simp only [edgeName, letter, if_true]
    exact ih (inner.skip extended)
  | case3 name c rest other =>
    obtain ⟨framed, rfl, inner⟩ := same.exists_cons
    rw [edgeName, edgeName, if_neg other, if_neg other]
    exact ⟨rfl, same⟩

/-- A brace at the end of the expression is no part of a word boundary, and with the closing behind
it neither. -/
theorem reaches_wordBoundary : Reaches extended (wordBoundary extended) := by
  intro input framed same
  fun_cases wordBoundary extended input with
  | case1 input ended =>
    obtain ⟨framed, rfl, inner⟩ := same.exists_cons
    have signs := inner.skip extended
    rw [ended] at signs
    rcases signs.of_nil with last | none
    · have plain : wordBoundary extended ('\x7b' :: framed) =
          some (.anchor .wordBoundary, '\x7b' :: framed) := by
        simp only [wordBoundary, last, closing]
        rfl
      rw [plain]
      exact .beyond (.brace last)
    · simp only [wordBoundary, none]
      exact .neither
  | case2 input c tail begins letter name left edge =>
    obtain ⟨framed, rfl, inner⟩ := same.exists_cons
    have signs := inner.skip extended
    rw [begins] at signs
    obtain ⟨more, shown, rest⟩ := signs.exists_cons
    obtain ⟨named, kept⟩ := keepsAll_edgeName extended [] signs
    rw [shown, edge] at named kept
    obtain ⟨last, stop, after⟩ := kept.exists_cons
    have again : edgeName extended [] (c :: more) = (name, '\x7d' :: last) :=
      Prod.ext named.symm stop
    simp only [wordBoundary, shown, letter, if_true, again]
    cases namedEdges.find? (·.1 = String.ofList name) with
    | none => exact .neither
    | some edge => exact .both ⟨rfl, after⟩
  | case3 input c tail begins letter name left edge other =>
    obtain ⟨framed, rfl, inner⟩ := same.exists_cons
    have signs := inner.skip extended
    rw [begins] at signs
    obtain ⟨more, shown, rest⟩ := signs.exists_cons
    obtain ⟨_, kept⟩ := keepsAll_edgeName extended [] signs
    rw [shown, edge] at kept
    have still := kept.not_cons (by decide) other
    simp only [wordBoundary, shown, letter, if_true]
    exact .neither
  | case4 input c tail begins letter =>
    obtain ⟨framed, rfl, inner⟩ := same.exists_cons
    obtain ⟨more, shown, rest⟩ := (begins ▸ inner.skip extended).exists_cons
    simp only [wordBoundary, shown, if_neg letter]
    exact .both ⟨rfl, same⟩
  | case5 _ other =>
    have other := same.not_cons (by decide) other
    simp only [wordBoundary]
    exact .both ⟨rfl, same⟩

theorem reaches_escape : Reaches extended (escape extended) := by
  intro input framed same
  fun_cases escape extended input with
  | case1 =>
    rcases same.of_nil with rfl | rfl
    · have paren : escape extended closing = some (.literal ⟨')', false⟩, ['$']) := rfl
      rw [paren]
      exact .beyond .dollar
    · exact .neither
  | case2 input =>
    obtain ⟨framed, rfl, inner⟩ := same.exists_cons
    exact (keeps_hexLiteral extended 2 true).reaches extended inner
  | case3 input =>
    obtain ⟨framed, rfl, inner⟩ := same.exists_cons
    exact (keeps_hexLiteral extended 4 false).reaches extended inner
  | case4 input =>
    obtain ⟨framed, rfl, inner⟩ := same.exists_cons
    exact (keeps_hexLiteral extended 8 false).reaches extended inner
  | case5 input =>
    obtain ⟨framed, rfl, inner⟩ := same.exists_cons
    exact reaches_propertyClass extended false inner
  | case6 input =>
    obtain ⟨framed, rfl, inner⟩ := same.exists_cons
    exact reaches_propertyClass extended true inner
  | case7 input =>
    obtain ⟨framed, rfl, inner⟩ := same.exists_cons
    exact reaches_wordBoundary extended inner
  | case8 c input _ _ _ _ _ _ plain =>
    obtain ⟨framed, rfl, inner⟩ := same.exists_cons
    simp only [escape, plain, if_true]
    exact .both ⟨rfl, inner⟩
  | case9 c input _ _ _ _ _ _ plain kind negated known =>
    obtain ⟨framed, rfl, inner⟩ := same.exists_cons
    simp only [escape, if_neg plain, known]
    exact .both ⟨rfl, inner⟩
  | case10 c input _ _ _ _ _ _ plain control known unknown =>
    obtain ⟨framed, rfl, inner⟩ := same.exists_cons
    simp only [escape, if_neg plain, known, unknown]
    exact .both ⟨rfl, inner⟩
  | case11 c input _ _ _ _ _ _ plain anchor known first second =>
    obtain ⟨framed, rfl, inner⟩ := same.exists_cons
    simp only [escape, if_neg plain, known, first, second]
    exact .both ⟨rfl, inner⟩
  | case12 c input _ _ _ _ _ _ plain first second third =>
    obtain ⟨framed, rfl, inner⟩ := same.exists_cons
    simp only [escape, if_neg plain, first, second, third]
    exact .neither

end HistorySurvey.Regex
