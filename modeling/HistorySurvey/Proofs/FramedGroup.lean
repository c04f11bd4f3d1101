import HistorySurvey.Proofs.Framing

/-! Repetitions and groups inside a group that is bound to both ends of a text. -/
namespace HistorySurvey.Regex

variable {input framed : List Char} (extended : Bool)

/-! Repetitions. -/

theorem keepsAll_countDigits (count : Option Nat) : KeepsAll (countDigits extended count) := by
  intro input framed same
  induction count, input using countDigits.induct extended generalizing framed with
  | case1 count =>
    have stop : countDigits extended count closing = (count, closing) := by
      rw [closing, countDigits, if_neg (by decide)]
    have none : countDigits extended count [] = (count, []) := by rw [countDigits]
    rcases same.of_nil with rfl | rfl
    · exact none.symm ▸ stop.symm ▸ ⟨rfl, same⟩
    · exact none.symm ▸ ⟨rfl, same⟩
  | case2 count c rest digit ih =>
    obtain ⟨framed, rfl, inner⟩ := same.exists_cons
    simp only [countDigits, digit, if_true]
    exact ih (inner.skip extended)
  | case3 count c rest other =>
    obtain ⟨framed, rfl, inner⟩ := same.exists_cons
    rw [countDigits, countDigits, if_neg other, if_neg other]
    exact ⟨rfl, same⟩

theorem keeps_count : Keeps (count? extended) := by
  have bounded (count : Option Nat) : Keeps fun rest => count.bind fun count =>
      if count ≤ countLimit then some (count, rest.dropWhile Text.isBlank) else none := by
    intro input framed same
    cases count with
    | none => exact .neither
    | some count =>
      simp only [Option.bind_some]
      split
      · exact .both ⟨rfl, same.dropBlanks⟩
      · exact .neither
  intro input framed same
  exact (keepsAll_countDigits extended none).bind bounded same.dropBlanks

theorem Framed.withoutLazy (same : Framed input framed) :
    Framed (Reader.withoutLazy input) (Reader.withoutLazy framed) := by
  fun_cases Reader.withoutLazy input with
  | case1 rest =>
    obtain ⟨framed, rfl, inner⟩ := same.exists_cons
    exact inner
  | case2 _ other =>
    have still := same.not_cons (by decide) other
    rwa [Reader.withoutLazy.eq_2 _ still]

/-- After the bounds of a repetition. -/
private theorem keeps_bounded (min : Nat) (max : Option Nat) : Keeps fun input =>
    match input with
    | '\x7d' :: rest =>
      let rest := match skip extended rest with
        | '?' :: rest => rest
        | rest => rest
      if max.all (min ≤ ·) then some ((min, max), rest) else none
    | _ => none := by
  intro input framed same
  dsimp only
  split
  · obtain ⟨framed, rfl, inner⟩ := same.exists_cons
    split
    · exact .both ⟨rfl, (inner.skip extended).withoutLazy⟩
    · exact .neither
  · rename_i other
    have still := same.not_cons (by decide) other
    split
    · exact (still _ rfl).elim
    · exact .neither

/-- After the comma between the bounds of a repetition. -/
private theorem keeps_maximum (min : Nat) : Keeps fun input =>
    let finish (max : Option Nat) (input : List Char) : Option ((Nat × Option Nat) × List Char) :=
      match input with
      | '\x7d' :: rest =>
        let rest := match skip extended rest with
          | '?' :: rest => rest
          | rest => rest
        if max.all (min ≤ ·) then some ((min, max), rest) else none
      | _ => none
    match skip extended input with
    | '\x7d' :: rest => finish none ('\x7d' :: rest)
    | rest =>
      ((count? extended rest).map fun (max, rest) => (some max, rest)).bind fun (max, rest) =>
        finish max rest := by
  intro input framed same
  have signs := same.skip extended
  dsimp only
  split
  · rename_i brace
    rw [brace] at signs
    obtain ⟨_, shown, _⟩ := signs.exists_cons
    rw [shown] at signs ⊢
    exact keeps_bounded extended min none signs
  · rename_i other
    have still := signs.not_cons (by decide) other
    split
    · exact (still _ ‹_›).elim
    · simp only [Option.bind_map]
      refine (keeps_count extended signs).bind ?_ fun _ => False.elim
      rintro ⟨max, rest⟩ ⟨_, more⟩ - ⟨rfl, inner⟩
      exact keeps_bounded extended min (some max) inner

theorem keeps_bounds : Keeps (bounds? extended) := by
  intro input framed same
  refine (keeps_count extended (same.skip extended)).bind ?_ fun _ => False.elim
  rintro ⟨min, left⟩ ⟨_, more⟩ - ⟨rfl, inner⟩
  dsimp only
  split
  · obtain ⟨behind, rfl, after⟩ := inner.exists_cons
    exact keeps_maximum extended min after
  · rename_i other
    have still := inner.not_cons (by decide) other
    split
    · exact (still _ rfl).elim
    · exact keeps_bounded extended min (some min) inner

theorem bounds?_of_closing {behind : List Char} (last : skip extended behind = closing) :
    bounds? extended behind = none := by
  have none : countDigits extended none closing = (none, closing) := by
    rw [closing, countDigits, if_neg (by decide)]
  simp [bounds?, count?, last, dropBlanks_closing, none]

/-! Groups. -/

/-- A reader of two things that takes the same, unless it takes the closing for their end. -/
def Opens {A B : Type} (read : List Char → Option (A × B × List Char)) : Prop :=
  ∀ ⦃input framed : List Char⦄, Framed input framed →
    Alike (fun a b => a.1 = b.1 ∧ Kept a.2 b.2) (fun b => ∀ extended, Lost extended b.2.2)
      (read input) (read framed)

theorem opens_flagChanges (changes : FlagChanges) (negated dangling : Bool) :
    Opens (flagChanges changes negated dangling) := by
  intro input framed same
  induction input generalizing framed changes negated dangling with
  | nil =>
    rcases same.of_nil with rfl | rfl
    · cases dangling
      · exact .beyond fun _ => .dollar
      · exact .neither
    · exact .neither
  | cons d input ih =>
    obtain ⟨framed, rfl, inner⟩ := same.exists_cons
    unfold flagChanges
    split
    · split
      · exact .neither
      · exact .both ⟨rfl, rfl, inner⟩
    · split
      · split
        · exact .neither
        · exact ih _ _ _ inner
      · cases flag? d with
        | none => exact .neither
        | some flag =>
          simp only [Option.bind_some, bind]
          split
          · exact .neither
          · exact ih _ _ _ inner

section
variable (database : CharacterDatabase)

theorem keeps_groupName : Keeps (groupName? database) := by
  intro input framed same
  unfold groupName?
  rcases same.upTo (by decide : '>' ∉ closing) with ⟨none, nothing⟩ | ⟨alike, inner⟩
  · rw [none, nothing]
    split
    · contradiction
    · split
      · contradiction
      · exact .neither
  · rw [alike]
    generalize input.dropWhile (· ≠ '>') = left, framed.dropWhile (· ≠ '>') = more at inner ⊢
    split
    · rename_i name
      obtain ⟨more, rfl, behind⟩ := inner.exists_cons
      simp only [name]
      split
      · exact .both ⟨rfl, behind⟩
      · exact .neither
    · rename_i other
      split
      · obtain ⟨rest, rfl, _⟩ := inner.exists_front (by decide)
        exact (other _ _ _ ‹_› rfl).elim
      · exact .neither

/-- A group with a name that is not given before. -/
private def namedGroup? (names : List (List Char)) (input : List Char) :
    Option (Opening × List (List Char) × List Char) :=
  (groupName? database input).bind fun (name, rest) =>
    if names.contains name then none else some (.group [] true, name :: names, rest)

/-- What follows an opening parenthesis, after the signs that are passed over. -/
private def openingSigns? (names : List (List Char)) :
    List Char → Option (Opening × List (List Char) × List Char)
  | '?' :: '=' :: _ | '?' :: '!' :: _ | '?' :: '<' :: '=' :: _ | '?' :: '<' :: '!' :: _ => none
  | '?' :: 'P' :: '<' :: rest => namedGroup? database names rest
  | '?' :: '<' :: rest => namedGroup? database names rest
  | '?' :: rest => (flagChanges [] false false rest).bind fun (changes, closing, rest) =>
      if closing = ':' then some (.group changes false, names, rest)
      else if changes.isEmpty then none
      else some (.flags changes, names, rest)
  | rest => some (.group [] true, names, rest)

private theorem opening?_eq (names : List (List Char)) (input : List Char) :
    opening? database extended names input =
      openingSigns? database names (skip extended input) := rfl

variable (names : List (List Char))

private theorem opens_namedGroup : Opens (namedGroup? database names) := by
  intro input framed same
  refine (keeps_groupName database same).bind ?_ fun _ => False.elim
  rintro ⟨name, rest⟩ ⟨_, more⟩ - ⟨rfl, inner⟩
  dsimp only
  split
  · exact .neither
  · exact .both ⟨rfl, rfl, inner⟩

private theorem opens_openingSigns : Opens (openingSigns? database names) := by
  intro input framed same
  fun_cases openingSigns? database names input with
  | case1 | case2 =>
    obtain ⟨_, rfl, first⟩ := same.exists_cons
    obtain ⟨_, rfl, _⟩ := first.exists_cons
    exact .neither
  | case3 | case4 =>
    obtain ⟨_, rfl, first⟩ := same.exists_cons
    obtain ⟨_, rfl, second⟩ := first.exists_cons
    obtain ⟨_, rfl, _⟩ := second.exists_cons
    exact .neither
  | case5 =>
    obtain ⟨_, rfl, first⟩ := same.exists_cons
    obtain ⟨_, rfl, second⟩ := first.exists_cons
    obtain ⟨_, rfl, third⟩ := second.exists_cons
    exact opens_namedGroup database names third
  | case6 rest ahead behind =>
    obtain ⟨_, rfl, first⟩ := same.exists_cons
    obtain ⟨_, rfl, second⟩ := first.exists_cons
    rw [openingSigns?.eq_6 _ _ _ (second.not_cons (by decide) ahead)
      (second.not_cons (by decide) behind)]
    exact opens_namedGroup database names second
  | case7 rest ahead other behind before named short =>
    obtain ⟨_, rfl, first⟩ := same.exists_cons
    rw [openingSigns?.eq_7 _ _ _ (first.not_cons (by decide) ahead)
      (first.not_cons (by decide) other) (first.not_cons_cons (by decide) (by decide) behind)
      (first.not_cons_cons (by decide) (by decide) before)
      (first.not_cons_cons (by decide) (by decide) named) (first.not_cons (by decide) short)]
    refine (opens_flagChanges [] false false first).bind ?_ ?_
    · rintro ⟨changes, c, left⟩ ⟨_, _, more⟩ - ⟨rfl, rfl, inner⟩
      dsimp only
      split
      · exact .both ⟨rfl, rfl, inner⟩
      · split
        · exact .neither
        · exact .both ⟨rfl, rfl, inner⟩
    · rintro ⟨changes, c, more⟩ past
      dsimp only
      split
      · exact .beyond past
      · split
        · exact .neither
        · exact .beyond past
  | case8 _ _ _ _ _ _ _ plain =>
    have captures (signs : List Char) (other : ∀ rest, signs = '?' :: rest → False) :
        openingSigns? database names signs = some (.group [] true, names, signs) := by
      unfold openingSigns?
      split <;> first | rfl | exact (other _ rfl).elim
    rw [captures _ (same.not_cons (by decide) plain)]
    exact .both ⟨rfl, rfl, same⟩

theorem opens_opening : Opens (opening? database extended names) := by
  intro input framed same
  rw [opening?_eq, opening?_eq]
  exact opens_openingSigns database names (same.skip extended)

end

end HistorySurvey.Regex
