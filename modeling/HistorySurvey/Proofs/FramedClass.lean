import HistorySurvey.Proofs.Framing

/-! Classes between brackets inside a group that is bound to both ends of a text. -/
namespace HistorySurvey.Regex

variable {input framed : List Char} (extended : Bool)

theorem keepsAll_leadingHyphens (o : OpenClass) : KeepsAll (leadingHyphens extended o) := by
  intro input framed same
  induction o, input using leadingHyphens.induct extended generalizing framed with
  | case1 o rest ih =>
    obtain ⟨framed, rfl, inner⟩ := same.exists_cons
    simp only [leadingHyphens]
    exact ih (inner.skip extended)
  | case2 o input other =>
    have still := same.not_cons (by decide) other
    rw [leadingHyphens.eq_2 _ _ _ other, leadingHyphens.eq_2 _ _ _ still]
    exact ⟨rfl, same⟩

private theorem keepsAll_negation : KeepsAll fun input =>
    match skip extended input with
    | '^' :: rest => (true, skip extended rest)
    | other => (false, other) := by
  intro input framed same
  have signs := same.skip extended
  dsimp only
  split
  · rename_i caret
    rw [caret] at signs
    obtain ⟨more, shown, inner⟩ := signs.exists_cons
    rw [shown]
    exact ⟨rfl, inner.skip extended⟩
  · rename_i other
    have still := signs.not_cons (by decide) other
    split
    · exact (still _ ‹_›).elim
    · exact ⟨rfl, signs⟩

theorem keepsAll_openClass : KeepsAll (openClass extended) := by
  intro input framed same
  have begins {negated negated' : Bool} {begin begin' : List Char}
      (first : (match skip extended input with
        | '^' :: rest => (true, skip extended rest)
        | other => (false, other)) = (negated, begin))
      (second : (match skip extended framed with
        | '^' :: rest => (true, skip extended rest)
        | other => (false, other)) = (negated', begin')) {o o' : OpenClass} {left left' : List Char}
      (hyphens : leadingHyphens extended ⟨negated, none, []⟩ begin = (o, left))
      (hyphens' : leadingHyphens extended ⟨negated', none, []⟩ begin' = (o', left')) :
      o = o' ∧ Framed left left' := by
    have head := keepsAll_negation extended same
    dsimp only at head
    rw [first, second] at head
    obtain ⟨rfl, inner⟩ := head
    have again := keepsAll_leadingHyphens extended ⟨negated, none, []⟩ inner
    rwa [hyphens, hyphens'] at again
  fun_cases openClass extended input with
  | case1 negated begin first o rest none hyphens =>
    fun_cases openClass extended framed with
    | case1 negated' begin' second o' rest' none' hyphens' =>
      obtain ⟨rfl, inner⟩ := begins first second hyphens hyphens'
      obtain ⟨_, shown, inner⟩ := inner.exists_cons
      obtain rfl := (List.cons.inj shown).2
      exact ⟨rfl, inner.skip extended⟩
    | case2 negated' begin' second o' left' hyphens' other =>
      obtain ⟨rfl, inner⟩ := begins first second hyphens hyphens'
      obtain ⟨more, rfl, _⟩ := inner.exists_cons
      exact (other _ none rfl).elim
  | case2 negated begin first o left hyphens other =>
    fun_cases openClass extended framed with
    | case1 negated' begin' second o' rest' none' hyphens' =>
      obtain ⟨rfl, inner⟩ := begins first second hyphens hyphens'
      exact (inner.not_cons (by decide) (fun rest => other rest none') _ rfl).elim
    | case2 negated' begin' second o' left' hyphens' other' =>
      exact begins first second hyphens hyphens'

private theorem caret_framed {negated negated' : Bool} {begin begin' : List Char}
    (first : (match input with
      | '^' :: rest => (true, rest)
      | _ => (false, input)) = (negated, begin))
    (second : (match framed with
      | '^' :: rest => (true, rest)
      | _ => (false, framed)) = (negated', begin'))
    (same : Framed input framed) : negated = negated' ∧ Framed begin begin' := by
  split at first
  · obtain ⟨framed, rfl, inner⟩ := same.exists_cons
    obtain ⟨rfl, rfl⟩ := Prod.mk.inj first
    obtain ⟨rfl, rfl⟩ := Prod.mk.inj second
    exact ⟨rfl, inner⟩
  · rename_i other
    have still := same.not_cons (by decide) other
    split at second
    · exact (still _ rfl).elim
    · obtain ⟨rfl, rfl⟩ := Prod.mk.inj first
      obtain ⟨rfl, rfl⟩ := Prod.mk.inj second
      exact ⟨rfl, same⟩

/-- What follows the colon of a class of ASCII characters: its name, and a colon and a bracket. -/
private theorem asciiName_framed {begin begin' : List Char} (same : Framed begin begin') :
    (∀ rest, begin.dropWhile (· ≠ ':') = ':' :: ']' :: rest →
      begin'.takeWhile (· ≠ ':') = begin.takeWhile (· ≠ ':') ∧
        ∃ more, begin'.dropWhile (· ≠ ':') = ':' :: ']' :: more ∧ Framed rest more) ∧
    ∀ more, begin'.dropWhile (· ≠ ':') = ':' :: ']' :: more →
      ∃ rest, begin.dropWhile (· ≠ ':') = ':' :: ']' :: rest := by
  rcases same.upTo (by decide : ':' ∉ closing) with ⟨first, second⟩ | ⟨name, inner⟩
  · rw [first, second]
    exact ⟨fun _ found => by contradiction, fun _ found => by contradiction⟩
  · refine ⟨fun rest stop => ?_, fun more stop => ?_⟩
    · rw [stop] at inner
      obtain ⟨_, first, inner⟩ := inner.exists_cons
      obtain ⟨more, rfl, last⟩ := inner.exists_cons
      exact ⟨name, more, first, last⟩
    · rw [stop] at inner
      obtain ⟨_, first, inner⟩ := inner.exists_front (by decide)
      obtain ⟨rest, rfl, _⟩ := inner.exists_front (by decide)
      exact ⟨rest, first⟩

/-- Whether a class is one of ASCII characters does not depend on the closing. -/
theorem keeps_asciiClass : Keeps asciiClass? := by
  intro input framed same
  have behind {input framed : List Char} (same : Framed (':' :: input) (':' :: framed)) :
      Framed input framed := by
    obtain ⟨_, shown, inner⟩ := same.exists_cons
    exact (List.cons.inj shown).2 ▸ inner
  fun_cases asciiClass? input with
  | case1 input negated begin first name rest stop known =>
    fun_cases asciiClass? framed with
    | case1 framed negated' begin' second name' rest' stop' known' =>
      obtain ⟨rfl, inner⟩ := caret_framed first second (behind same)
      obtain ⟨alike, more, found, inner⟩ := (asciiName_framed inner).1 _ stop
      obtain ⟨_, rfl⟩ := List.cons.inj (List.cons.inj (found.symm.trans stop')).2
      have named : name = name' := congrArg String.ofList alike.symm
      exact .both ⟨by rw [named], inner⟩
    | case2 framed negated' begin' second name' rest' stop' unknown =>
      obtain ⟨rfl, inner⟩ := caret_framed first second (behind same)
      obtain ⟨alike, _⟩ := (asciiName_framed inner).1 _ stop
      have named : name = name' := congrArg String.ofList alike.symm
      exact absurd (named ▸ known) unknown
    | case3 framed negated' begin' second other =>
      obtain ⟨rfl, inner⟩ := caret_framed first second (behind same)
      obtain ⟨_, more, found, _⟩ := (asciiName_framed inner).1 _ stop
      exact (other _ found).elim
    | case4 framed other =>
      obtain ⟨framed, rfl, _⟩ := same.exists_cons
      exact (other _ rfl).elim
  | case2 input negated begin first name rest stop unknown =>
    fun_cases asciiClass? framed with
    | case1 framed negated' begin' second name' rest' stop' known =>
      obtain ⟨rfl, inner⟩ := caret_framed first second (behind same)
      obtain ⟨alike, _⟩ := (asciiName_framed inner).1 _ stop
      have named : name' = name := congrArg String.ofList alike
      exact absurd (named ▸ known) unknown
    | _ => exact .neither
  | case3 input negated begin first other =>
    fun_cases asciiClass? framed with
    | case1 framed negated' begin' second name' rest' stop' known =>
      obtain ⟨rfl, inner⟩ := caret_framed first second (behind same)
      obtain ⟨_, found⟩ := (asciiName_framed inner).2 _ stop'
      exact (other _ found).elim
    | _ => exact .neither
  | case4 _ other =>
    fun_cases asciiClass? framed with
    | case1 => exact (same.not_cons (by decide) other _ rfl).elim
    | _ => exact .neither

theorem reaches_classSign : Reaches extended (classSign extended) := by
  intro input framed same
  fun_cases classSign extended input with
  | case1 =>
    rcases same.of_nil with rfl | rfl
    · exact .beyond .dollar
    · exact .neither
  | case2 rest =>
    obtain ⟨framed, rfl, inner⟩ := same.exists_cons
    exact reaches_escape extended inner
  | case3 c rest other =>
    obtain ⟨framed, rfl, inner⟩ := same.exists_cons
    rw [classSign.eq_3 _ _ _ other]
    exact .both ⟨rfl, inner⟩

theorem keeps_setOperation : Keeps setOperation? := by
  intro input framed same
  fun_cases setOperation? input with
  | case1 | case2 | case3 =>
    obtain ⟨_, rfl, inner⟩ := same.exists_cons
    obtain ⟨framed, rfl, rest⟩ := inner.exists_cons
    exact .both ⟨rfl, rest⟩
  | case4 _ first second third =>
    rw [setOperation?.eq_4 _ (same.not_cons_cons (by decide) (by decide) first)
      (same.not_cons_cons (by decide) (by decide) second)
      (same.not_cons_cons (by decide) (by decide) third)]
    exact .neither

/-- The sign behind a hyphen is the same, or it is the first one of the closing. -/
theorem behindHyphen_framed (same : Framed input framed) :
    behindHyphen extended framed = behindHyphen extended input ∨
      behindHyphen extended input = none ∧ behindHyphen extended framed = some ')' := by
  have head {input framed : List Char} (same : Framed input framed) :
      framed.head? = input.head? ∨ input.head? = none ∧ framed.head? = some ')' := by
    rcases same.begins with ⟨rfl, rfl⟩ | ⟨rfl, rfl⟩ | ⟨c, input, framed, rfl, rfl, _⟩
    · exact .inr ⟨rfl, rfl⟩
    · exact .inl rfl
    · exact .inl rfl
  have blanks := same.dropBlanks
  unfold behindHyphen
  cases extended with
  | false => exact head same
  | true =>
    simp only [if_true]
    generalize input.dropWhile Text.isBlank = signs at blanks
    generalize framed.dropWhile Text.isBlank = others at blanks
    rcases blanks.begins with ⟨rfl, rfl⟩ | ⟨rfl, rfl⟩ | ⟨c, input, framed, rfl, rfl, inner⟩
    · exact .inr ⟨rfl, rfl⟩
    · exact .inl rfl
    · by_cases comment : c = '#'
      · subst comment
        exact head inner.dropBlanks
      · refine .inl ?_
        split
        · exact absurd (List.cons.inj ‹_›).1 comment
        · split
          · exact absurd (List.cons.inj ‹_›).1 comment
          · rfl

theorem behindHyphen_iff (same : Framed input framed) {c : Char} (other : c ≠ ')') :
    behindHyphen extended framed = some c ↔ behindHyphen extended input = some c := by
  rcases behindHyphen_framed extended same with alike | ⟨none, some⟩
  · rw [alike]
  · rw [none, some]
    simp [other.symm]

theorem reaches_classRange : Reaches extended (classRange extended) := by
  intro input framed same
  refine (reaches_classSign extended same).bind ?_ ?_
  · rintro ⟨first, tail⟩ ⟨_, others⟩ - ⟨rfl, inner⟩
    have signs := inner.skip extended
    dsimp only
    split
    · rename_i more hyphen
      rw [hyphen] at signs
      obtain ⟨behind, shown, inner⟩ := signs.exists_cons
      rw [shown]
      simp only [behindHyphen_iff extended inner (by decide : ']' ≠ ')'),
        behindHyphen_iff extended inner (by decide : '-' ≠ ')')]
      split
      · rw [shown] at signs
        exact signs.made _ id
      · refine (reaches_classSign extended (inner.skip extended)).bind ?_ ?_
        · rintro ⟨last, left⟩ ⟨_, more⟩ - ⟨rfl, inner⟩
          dsimp only
          split
          · split
            · exact .both ⟨rfl, inner⟩
            · exact .neither
          · exact .neither
        · rintro ⟨last, left⟩ past
          dsimp only
          split
          · split
            · exact .beyond past
            · exact .neither
          · exact .neither
    · rename_i other
      have still := signs.not_cons (by decide) other
      split
      · exact (still _ ‹_›).elim
      · exact signs.made _ id
  · rintro ⟨first, more⟩ past
    -- No hyphen is left, so the sign is an item, and just as much is left behind it.
    dsimp only
    rw [past.skip]
    split
    · rename_i hyphen
      rw [hyphen] at past
      cases past
    · cases ClassSet.ofExpression? first with
      | none => exact .neither
      | some item => exact .beyond past

theorem reaches_classStep (r : ClassReader) : Reaches extended (r.step extended) := by
  intro input framed same
  by_cases bracket : ∃ rest, input = '[' :: rest
  · obtain ⟨input, rfl⟩ := bracket
    obtain ⟨framed, rfl, inner⟩ := same.exists_cons
    rw [ClassReader.step, ClassReader.step]
    have alike := keeps_asciiClass inner
    generalize asciiClass? input = first, asciiClass? framed = second at alike
    cases alike with
    | both same => exact .both ⟨by rw [same.1], same.2⟩
    | neither =>
      have begun := keepsAll_openClass extended inner
      generalize openClass extended input = a, openClass extended framed = b at begun
      exact .both ⟨by rw [begun.1], begun.2⟩
    | beyond past => exact past.elim
  · have other : ∀ rest, input = '[' :: rest → False := fun rest begins => bracket ⟨rest, begins⟩
    rw [ClassReader.step.eq_2 _ _ _ other,
      ClassReader.step.eq_2 _ _ _ (same.not_cons (by decide) other)]
    have alike := keeps_setOperation same
    generalize setOperation? input = first, setOperation? framed = second at alike
    cases alike with
    | both same => exact .both ⟨by rw [same.1], same.2⟩
    | neither =>
      exact (reaches_classRange extended).map extended
        (fun item => { r with current := r.current.push item }) same
    | beyond past => exact past.elim

private theorem classRun_of_step (r : ClassReader)
    (other : ∀ rest, skip extended input = ']' :: rest → False) :
    r.run extended input = (r.step extended (skip extended input)).bind fun (next, rest) =>
      if rest.length < input.length then next.run extended rest else none := by
  rw [ClassReader.run]
  split
  · exact (other _ ‹_›).elim
  · cases r.step extended (skip extended input) <;> rfl

theorem classStep_nil (r : ClassReader) : r.step extended [] = none := rfl

/-- A sign that is no bracket, no hyphen and no part of a set operation is an item of its own. -/
private theorem classStep_sign (r : ClassReader) {c : Char} {rest : List Char}
    (sign : c ∉ ['[', '&', '-', '~', '\\'])
    (plain : ∀ more, skip extended rest = '-' :: more → False) :
    r.step extended (c :: rest) =
      some ({ r with current := r.current.push (.literal ⟨c, false⟩) }, skip extended rest) := by
  simp only [List.mem_cons, List.not_mem_nil, not_or, or_false] at sign
  obtain ⟨bracket, both, hyphen, tilde, backslash⟩ := sign
  have none : setOperation? (c :: rest) = none :=
    setOperation?.eq_4 _ (by simp [both]) (by simp [hyphen]) (by simp [tilde])
  have taken : classSign extended (c :: rest) = some (.literal ⟨c, false⟩, rest) :=
    classSign.eq_3 _ _ _ backslash
  rw [ClassReader.step.eq_2 _ _ _ (by simp [bracket]), none]
  simp only [classRange, taken, bind, Option.bind_some]
  rfl

/-- Behind the closing no bracket closes a class. -/
theorem classRun_lost (r : ClassReader) {more : List Char} (past : Lost extended more) :
    r.run extended more = none := by
  have nothing (r : ClassReader) : r.run extended [] = none := by
    rw [classRun_of_step, skip_nil, classStep_nil]
    · rfl
    · simp [skip_nil]
  have next (r : ClassReader) {c : Char} {rest after : List Char}
      (here : skip extended (c :: rest) = c :: rest) (behind : skip extended rest = after)
      (sign : c ∉ ['[', '&', '-', '~', '\\', ']']) (plain : ∀ more, after = '-' :: more → False)
      (fails : ∀ r : ClassReader, r.run extended after = none) :
      r.run extended (c :: rest) = none := by
    rw [classRun_of_step, here, classStep_sign extended r (by simp_all) (behind ▸ plain), behind]
    · simp only [Option.bind_some, fails, ite_self]
    · simp_all
  have dollar (r : ClassReader) : r.run extended ['$'] = none :=
    next r (skip_dollar extended) (skip_nil extended) (by decide) (by simp) nothing
  have closed (r : ClassReader) : r.run extended closing = none :=
    next r (skip_closing extended) (skip_dollar extended) (by decide) (by simp) dollar
  cases past with
  | nothing => exact nothing r
  | dollar => exact dollar r
  | brace last => exact next r (Lost.brace last).skip last (by decide) (by simp [closing]) closed

theorem keeps_classRun (r : ClassReader) : Keeps (r.run extended) := by
  intro input framed same
  -- Strong induction, since a step may take any number of signs.
  induction size : input.length using Nat.strongRecOn generalizing r input framed with
  | _ size ih =>
    subst size
    have signs := same.skip extended
    by_cases closed : ∃ left, skip extended input = ']' :: left
    · obtain ⟨left, closed⟩ := closed
      obtain ⟨more, shown, inner⟩ := (closed ▸ signs).exists_cons
      have less := same.length_lt_iff extended (by simp [closed]) inner
      rw [ClassReader.run, ClassReader.run, closed, shown]
      cases r.outer with
      | nil => exact .both ⟨rfl, inner⟩
      | cons around outer =>
        simp only [less]
        split
        · exact ih _ ‹_› _ inner rfl
        · exact .neither
    · have other : ∀ left, skip extended input = ']' :: left → False :=
        fun left begins => closed ⟨left, begins⟩
      rw [classRun_of_step extended r other,
        classRun_of_step extended r (signs.not_cons (by decide) other)]
      refine (reaches_classStep extended r signs).bind ?_ ?_
      · rintro ⟨next, left⟩ ⟨_, more⟩ taken ⟨rfl, inner⟩
        have some : skip extended input ≠ [] := by
          intro ended
          rw [ended, classStep_nil] at taken
          contradiction
        simp only [same.length_lt_iff extended some inner]
        split
        · exact ih _ ‹_› _ inner rfl
        · exact .neither
      · rintro ⟨next, more⟩ past
        simp only [classRun_lost extended next past, ite_self]
        exact .neither

theorem keeps_bracketedClass : Keeps (bracketedClass extended) :=
  (keepsAll_openClass extended).bind fun o => keeps_classRun extended ⟨o, []⟩

end HistorySurvey.Regex
