import HistorySurvey.Proofs.FramedClass
import HistorySurvey.Proofs.FramedGroup
import HistorySurvey.Proofs.Matching
import HistorySurvey.References.Pattern

/-! Patterns that are bound to both ends of a name, which is done with their text. Inside the frame
an expression is read as it is read alone, and the frame is closed where it ends. Only a pattern that
closes the frame itself gets past this. -/
namespace HistorySurvey.Regex

variable {database : CharacterDatabase} {limit : Nat} {input framed : List Char}

/-- An expression bound to the beginning and to the end of a text. -/
def Expression.bound (expression : Expression) : Expression :=
  .concat [.anchor .lineStart, .group [] false expression, .anchor .lineEnd]

namespace Reader

/-- What stands open around an expression that is bound to both ends. -/
def frame : OpenGroup := ⟨[.anchor .lineStart], [], [], false, false⟩

/-- A reader with the frame around all of its groups. -/
def inFrame (r : Reader) : Reader := { r with outer := r.outer ++ [frame] }

/-- Reading comes to a closing parenthesis where no group is open. -/
inductive Strays (database : CharacterDatabase) : Reader → List Char → Prop
  | here {r : Reader} {input rest : List Char} (stray : skip r.extended input = ')' :: rest)
    (alone : r.outer = []) : Strays database r input
  | later {r next : Reader} {input rest : List Char}
    (taken : r.step database (skip r.extended input) = some (next, rest))
    (stray : Strays database next rest) : Strays database r input

variable {r next : Reader} {rest : List Char}

@[simp] theorem inFrame_extended (r : Reader) : r.inFrame.extended = r.extended := rfl

theorem inFrame_repeatLast? (r : Reader) (min : Nat) (max : Option Nat) :
    r.inFrame.repeatLast? min max = (r.repeatLast? min max).map inFrame := by
  obtain ⟨items, branches, outer, names, extended⟩ := r
  cases items with
  | nil => rfl
  | cons last before =>
    simp only [repeatLast?, inFrame]
    split <;> rfl

theorem inFrame_close? (r : Reader) (some : r.outer ≠ []) :
    r.inFrame.close? = r.close?.map inFrame := by
  obtain ⟨items, branches, outer, names, extended⟩ := r
  cases outer with
  | nil => contradiction
  | cons around outer => rfl

/-- The same has been read inside the frame. -/
def Inside (a b : Reader × List Char) : Prop := b.1 = a.1.inFrame ∧ Framed a.2 b.2

/-- The closing was taken for a part of the expression, and groups are still open. -/
def Stuck (b : Reader × List Char) : Prop := b.1.outer ≠ [] ∧ Lost b.1.extended b.2

theorem inFrame_outer (r : Reader) : r.inFrame.outer ≠ [] := by simp [inFrame]

theorem inFrame_open? (same : Framed input framed) :
    Alike Inside Stuck (r.open? database input) (r.inFrame.open? database framed) := by
  refine (opens_opening r.extended database r.names same).bind ?_ ?_
  · rintro ⟨opening, known, left⟩ ⟨_, _, more⟩ - ⟨rfl, rfl, inner⟩
    cases opening with
    | flags changes => exact .both ⟨rfl, inner⟩
    | group changes capturing => exact .both ⟨rfl, inner⟩
  · rintro ⟨opening, known, more⟩ past
    cases opening with
    | flags changes => exact .beyond ⟨inFrame_outer r, past _⟩
    | group changes capturing => exact .beyond ⟨List.cons_ne_nil _ _, past _⟩

private theorem inFrame_pushed {read : List Char → Option (Expression × List Char)}
    (reaches : Reaches r.extended read) (same : Framed input framed) :
    Alike Inside Stuck ((read input).map fun (item, rest) => (r.push item, rest))
      ((read framed).map fun (item, rest) => (r.inFrame.push item, rest)) := by
  refine (reaches same).map ?_ ?_
  · rintro ⟨item, left⟩ ⟨_, more⟩ ⟨rfl, inner⟩
    exact ⟨rfl, inner⟩
  · rintro ⟨item, more⟩ past
    exact ⟨inFrame_outer r, past⟩

private theorem inFrame_repeated (min : Nat) (max : Option Nat) (same : Framed input framed) :
    Alike Inside Stuck ((r.repeatLast? min max).map (·, input))
      ((r.inFrame.repeatLast? min max).map (·, framed)) := by
  rw [inFrame_repeatLast?]
  cases r.repeatLast? min max with
  | none => exact .neither
  | some repeated => exact .both ⟨rfl, same⟩

/-- A step inside the frame is the same step, if it does not close the frame. -/
theorem inFrame_step (same : Framed input framed) (some : input ≠ [])
    (balanced : ∀ rest, input = ')' :: rest → r.outer ≠ []) :
    Alike Inside Stuck (r.step database input) (r.inFrame.step database framed) := by
  fun_cases r.step database input with
  | case1 => contradiction
  | case2 =>
    obtain ⟨framed, rfl, inner⟩ := same.exists_cons
    exact inFrame_open? inner
  | case3 =>
    obtain ⟨framed, rfl, inner⟩ := same.exists_cons
    rw [step, inFrame_close? r (balanced _ rfl)]
    cases r.close? with
    | none => exact .neither
    | some closed => exact .both ⟨rfl, inner⟩
  | case4 | case11 | case12 | case13 =>
    obtain ⟨framed, rfl, inner⟩ := same.exists_cons
    exact .both ⟨rfl, inner⟩
  | case5 =>
    obtain ⟨framed, rfl, inner⟩ := same.exists_cons
    exact inFrame_pushed ((keeps_bracketedClass r.extended).reaches r.extended) inner
  | case6 | case7 | case8 =>
    obtain ⟨framed, rfl, inner⟩ := same.exists_cons
    exact inFrame_repeated _ _ inner.withoutLazy
  | case9 =>
    obtain ⟨framed, rfl, inner⟩ := same.exists_cons
    refine (keeps_bounds r.extended inner).bind ?_ fun _ => False.elim
    rintro ⟨⟨min, max⟩, left⟩ ⟨_, more⟩ - ⟨rfl, inner⟩
    simpa [Option.map_eq_bind, Function.comp_def] using inFrame_repeated (r := r) min max inner
  | case10 =>
    obtain ⟨framed, rfl, inner⟩ := same.exists_cons
    exact inFrame_pushed (reaches_escape r.extended) inner
  | case14 =>
    obtain ⟨framed, rfl, inner⟩ := same.exists_cons
    rw [step.eq_14] <;> try assumption
    exact .both ⟨rfl, inner⟩

private theorem run_of_step (r : Reader) (other : skip r.extended input ≠ []) :
    r.run database input = (r.step database (skip r.extended input)).bind fun (next, rest) =>
      if rest.length < input.length then next.run database rest else none := by
  rw [run]
  split
  · exact (other ‹_›).elim
  · cases r.step database (skip r.extended input) <;> rfl

private theorem signs_of_taken
    (taken : r.step database (skip r.extended input) = some (next, rest)) :
    skip r.extended input ≠ [] := by
  intro ended
  rw [ended] at taken
  contradiction

private theorem run_of_taken (taken : r.step database (skip r.extended input) = some (next, rest))
    (less : rest.length < input.length) : r.run database input = next.run database rest := by
  rw [run_of_step r (signs_of_taken taken), taken]
  exact if_pos less

/-- Groups that are open when the closing is used up are never closed. -/
theorem run_stuck {b : Reader × List Char} (stuck : Stuck b) : b.1.run database b.2 = none := by
  have nothing (r : Reader) (nested : r.outer ≠ []) : r.run database [] = none := by
    rw [run, skip_nil]
    exact if_neg (by simpa using nested)
  have dollar (r : Reader) (nested : r.outer ≠ []) : r.run database ['$'] = none := by
    have taken : r.step database (skip r.extended ['$']) =
        some (r.push (.anchor .lineEnd), []) := by
      rw [skip_dollar]
      rfl
    rw [run_of_taken taken Nat.one_pos]
    exact nothing _ nested
  obtain ⟨r, more⟩ := b
  obtain ⟨nested, past⟩ := stuck
  cases past with
  | nothing => exact nothing r nested
  | dollar => exact dollar r nested
  | @brace behind last =>
    have failed : r.step database ('\x7b' :: behind) = none := by
      simp [step, bounds?_of_closing r.extended last]
    rw [run_of_step, (Lost.brace last).skip, failed]
    · rfl
    · simp [(Lost.brace last).skip]

/-- Where no group is open, the closing ends the frame. -/
private theorem inFrame_run_closing (alone : r.outer = [])
    (last : skip r.extended framed = closing) (long : 1 < framed.length) :
    r.inFrame.run database framed = some r.content.bound := by
  obtain ⟨items, branches, _, names, extended⟩ := r
  obtain rfl := alone
  let group := Expression.group [] false (content ⟨items, branches, [], names, extended⟩)
  calc inFrame ⟨items, branches, [], names, extended⟩ |>.run database framed
    _ = run database ⟨[group, .anchor .lineStart], [], [], names, false⟩ ['$'] :=
      run_of_taken (by rw [inFrame_extended, last]; rfl) long
    _ = run database ⟨[.anchor .lineEnd, group, .anchor .lineStart], [], [], names, false⟩ [] :=
      run_of_taken rfl Nat.one_pos
    _ = some (Expression.bound _) := by rw [run]; rfl

/-- Where a group is open, the closing ends that one, and the frame is never closed. -/
private theorem inFrame_run_open (nested : r.outer ≠ [])
    (last : skip r.extended framed = closing) (long : 1 < framed.length) :
    r.inFrame.run database framed = none := by
  obtain ⟨next, shut⟩ : ∃ next, r.close? = some next := by
    unfold close?
    split
    · contradiction
    · exact ⟨_, rfl⟩
  have taken : r.inFrame.step database (skip r.inFrame.extended framed) =
      some (next.inFrame, ['$']) := by
    rw [inFrame_extended, last, closing, step, inFrame_close? r nested, shut]
    rfl
  have stuck : Stuck (next.inFrame, ['$']) := ⟨inFrame_outer next, .dollar⟩
  exact (run_of_taken taken long).trans (run_stuck stuck)

private theorem inFrame_run_end (same : Framed input framed) (ended : skip r.extended input = [])
    {whole : Expression} (read : r.inFrame.run database framed = some whole) :
    r.run database input = some r.content ∧ whole = r.content.bound := by
  rcases (ended ▸ same.skip r.extended).of_nil with last | hidden
  · have long : 1 < framed.length := by
      cases same with
      | commented => simp [skip_nil, closing] at last
      | closed => simp [closing]
    by_cases alone : r.outer = []
    · rw [run, ended]
      exact ⟨if_pos (List.isEmpty_iff.mpr alone),
        Option.some.inj (read.symm.trans (inFrame_run_closing alone last long))⟩
    · rw [inFrame_run_open alone last long] at read
      contradiction
  · rw [run, inFrame_extended, hidden] at read
    simp [inFrame] at read

/-- What is read inside the frame is read alone, and it is bound, unless a parenthesis strays. -/
theorem inFrame_run (same : Framed input framed) {whole : Expression}
    (read : r.inFrame.run database framed = some whole) :
    r.Strays database input ∨ ∃ made, r.run database input = some made ∧ whole = made.bound := by
  -- The frame is around all groups at every step, so only the closing or a stray parenthesis ends it.
  induction size : input.length using Nat.strongRecOn generalizing r input framed with
  | _ size ih =>
    subst size
    by_cases ended : skip r.extended input = []
    · exact .inr ⟨_, inFrame_run_end same ended read⟩
    by_cases stray : ∃ rest, skip r.extended input = ')' :: rest ∧ r.outer = []
    · obtain ⟨rest, stray, alone⟩ := stray
      exact .inl (.here stray alone)
    have signs := same.skip r.extended
    have alike : Alike Inside Stuck (r.step database (skip r.extended input))
        (r.inFrame.step database (skip r.extended framed)) :=
      inFrame_step signs ended fun rest begins alone => stray ⟨rest, begins, alone⟩
    rw [run_of_step r.inFrame (signs.ne_nil ended)] at read
    obtain ⟨⟨next, more⟩, second, read⟩ := Option.bind_eq_some_iff.mp read
    rw [inFrame_extended] at second
    rw [second] at alike
    generalize first : r.step database (skip r.extended input) = taken at alike
    cases alike with
    | @both a _ alike =>
      obtain ⟨next, left⟩ := a
      obtain ⟨rfl, inner⟩ := alike
      dsimp only at read
      simp only [same.length_lt_iff r.extended ended inner] at read
      split at read
      · rename_i less
        rcases ih _ less inner read rfl with stray | ⟨made, run, rfl⟩
        · exact .inl (.later first stray)
        · exact .inr ⟨made, (run_of_taken first less).trans run, rfl⟩
      · contradiction
    | beyond stuck =>
      dsimp only at read
      rw [run_stuck stuck, ite_self] at read
      contradiction

private theorem run_framing (input : List Char) :
    start.run database ('^' :: '(' :: '?' :: ':' :: (input ++ closing)) =
      start.inFrame.run database (input ++ closing) := by
  calc start.run database ('^' :: '(' :: '?' :: ':' :: (input ++ closing))
    _ = (start.push (.anchor .lineStart)).run database ('(' :: '?' :: ':' :: (input ++ closing)) :=
      run_of_taken rfl (Nat.lt_succ_self _)
    _ = start.inFrame.run database (input ++ closing) :=
      run_of_taken rfl (Nat.lt_add_of_pos_right (Nat.succ_pos 2))

/-- A stray parenthesis ends the reading. -/
theorem Strays.run_eq_none (stray : r.Strays database input) : r.run database input = none := by
  induction stray with
  | @here r input rest stray alone =>
    have failed : r.step database (skip r.extended input) = none := by
      rw [stray]
      simp [step, close?, alone]
    rw [run_of_step r (by simp [stray]), failed]
    rfl
  | @later r next input rest taken stray ih =>
    rw [run_of_step r (signs_of_taken taken), taken]
    simp only [Option.bind_some, ih, ite_self]

end Reader

theorem Expression.read?_eq_some_iff {text : List Char} {expression : Expression} :
    Expression.read? database text = some expression ↔
      Reader.start.run database text = some expression ∧ expression.depth ≤ depthLimit := by
  unfold Expression.read?
  cases Reader.start.run database text with
  | none => simp
  | some whole =>
    simp only [bind, Option.bind_some, Option.ite_none_right_eq_some, Option.some.injEq]
    constructor
    · rintro ⟨shallow, rfl⟩
      exact ⟨rfl, shallow⟩
    · rintro ⟨rfl, shallow⟩
      exact ⟨shallow, rfl⟩

theorem read?_eq_some_iff {text : List Char} {regex : Regex} :
    Regex.read? database limit text = some regex ↔
      ∃ expression after, Expression.read? database text = some expression ∧
        expression.meaning? database .initial = some (regex, after) ∧
        regex.isTooLarge limit = false := by
  constructor
  · intro read
    obtain ⟨expression, written, read⟩ := Option.bind_eq_some_iff.mp read
    obtain ⟨⟨whole, after⟩, meaning, read⟩ := Option.bind_eq_some_iff.mp read
    dsimp only at read
    split at read
    · contradiction
    · rename_i small
      obtain rfl := Option.some.inj read
      exact ⟨expression, after, written, meaning, Bool.eq_false_iff.mpr small⟩
  · rintro ⟨expression, after, written, meaning, small⟩
    simp [Regex.read?, written, meaning, small]

theorem read?_of_strays {text : List Char} (stray : Reader.start.Strays database text) :
    Regex.read? database limit text = none := by
  refine Option.eq_none_iff_forall_ne_some.mpr fun regex read => ?_
  obtain ⟨expression, _, written, _⟩ := read?_eq_some_iff.mp read
  have run := (Expression.read?_eq_some_iff.mp written).1
  exact nomatch stray.run_eq_none.symm.trans run

/-- The meaning of an expression bound to both ends. -/
theorem Expression.meaning?_bound (expression : Expression) :
    expression.bound.meaning? database .initial =
      (expression.meaning? database .initial).map fun (regex, _) =>
        (.concat (.look .textStart) (.concat regex (.look .textEnd)), .initial) := by
  have unchanged : Flags.initial.change [] = .initial := rfl
  simp only [bound, meaning?, meanings?, unchanged, bind, Option.bind_some]
  cases expression.meaning? database .initial <;> rfl

end HistorySurvey.Regex

namespace HistorySurvey.References.Pattern
open Regex

variable {database : CharacterDatabase} {limit : Nat} {text : String} {pattern : Pattern}

theorem anchored_toList (text : String) :
    (anchored text).toList = '^' :: '(' :: '?' :: ':' :: (text.toList ++ closing) := by
  simp [anchored, closing]

theorem ofRegex_eq_ok_iff :
    ofRegex text database limit = .ok pattern ↔
      ∃ regex, Regex.read? database limit (anchored text).toList = some regex ∧
        pattern = .whole (anchored text) regex := by
  unfold ofRegex
  cases Regex.read? database limit (anchored text).toList with
  | none => simp
  | some regex => simp [eq_comm]

/-- An accepted pattern has a stray parenthesis, or it is an expression by itself. -/
theorem stray_or_read (accepted : ofRegex text database limit = .ok pattern) :
    Reader.start.Strays database text.toList ∨
      ∃ regex, Regex.read? database limit text.toList = some regex ∧
        pattern = .whole (anchored text)
          (.concat (.look .textStart) (.concat regex (.look .textEnd))) := by
  obtain ⟨whole, within, rfl⟩ := ofRegex_eq_ok_iff.mp accepted
  rw [anchored_toList] at within
  obtain ⟨framed, _, read, meaning, small⟩ := read?_eq_some_iff.mp within
  obtain ⟨run, shallow⟩ := Expression.read?_eq_some_iff.mp read
  rw [Reader.run_framing] at run
  rcases Reader.inFrame_run (.closed text.toList) run with stray | ⟨expression, alone, rfl⟩
  · exact .inl stray
  · rw [Expression.meaning?_bound] at meaning
    obtain ⟨⟨regex, after⟩, inner, shown⟩ := Option.map_eq_some_iff.mp meaning
    obtain ⟨rfl, _⟩ := Prod.mk.inj shown
    refine .inr ⟨regex, read?_eq_some_iff.mpr ⟨expression, after, ?_, inner, ?_⟩, rfl⟩
    · refine Expression.read?_eq_some_iff.mpr ⟨alone, ?_⟩
      simp [Expression.bound, Expression.depth, Expression.maxDepth] at shallow
      omega
    · rw [isTooLarge, decide_eq_false_iff_not] at small ⊢
      simp only [size] at small
      omega

/-- Whatever is known about characters and however large expressions may become, an accepted pattern
is an expression by itself and admits just the names that it matches from the first to the last
character, unless a parenthesis in it closes the group around it. -/
theorem whole_iff_not_strays (accepted : ofRegex text database limit = .ok pattern) :
    (∃ regex, Regex.read? database limit text.toList = some regex ∧
      ∀ name, pattern.admits name = true ↔ regex.MatchesWhole name) ↔
        ¬ Reader.start.Strays database text.toList := by
  constructor
  · rintro ⟨regex, read, _⟩ stray
    exact nomatch (read?_of_strays stray).symm.trans read
  · intro balanced
    rcases stray_or_read accepted with stray | ⟨regex, read, rfl⟩
    · exact absurd stray balanced
    · exact ⟨regex, read, isMatch_bound regex⟩

theorem whole_either_name : ∃ regex pattern,
    Regex.read? .unicode sizeLimit "refs/heads/a|refs/heads/b".toList = some regex ∧
      ofRegex "refs/heads/a|refs/heads/b" = .ok pattern ∧
      regex.MatchesWhole "refs/heads/b" ∧ ¬ regex.MatchesWhole "refs/heads/bc" := by
  have alone : (Regex.read? .unicode sizeLimit
      "refs/heads/a|refs/heads/b".toList).isSome = true := by decide +kernel
  have within : (Regex.read? .unicode sizeLimit
      (anchored "refs/heads/a|refs/heads/b").toList).any (fun whole =>
        whole.isMatch "refs/heads/b" && !whole.isMatch "refs/heads/bc") = true := by
    decide +kernel
  obtain ⟨whole, readWithin, matched⟩ := (Option.any_eq_true _ _).mp within
  obtain ⟨first, second⟩ := Bool.and_eq_true_iff.mp matched
  have accepted := ofRegex_eq_ok_iff.mpr ⟨whole, readWithin, rfl⟩
  have balanced : ¬ Reader.start.Strays .unicode "refs/heads/a|refs/heads/b".toList := by
    intro stray
    rw [read?_of_strays stray] at alone
    contradiction
  obtain ⟨regex, read, admits⟩ := (whole_iff_not_strays accepted).mpr balanced
  refine ⟨regex, _, read, accepted, (admits _).mp first, ?_⟩
  rw [← admits]
  exact Bool.eq_false_iff.mp (Bool.not_eq_eq_eq_not.mp second)

/-- A pattern that closes the group before its end is no expression by itself, but it is accepted,
and what stands before its parenthesis is bound to the beginning of a name only. -/
theorem unbalanced_admits_more :
    Regex.read? .unicode sizeLimit "refs/heads/a)|(?:refs/heads/b".toList = none ∧
      ∃ pattern, ofRegex "refs/heads/a)|(?:refs/heads/b" = .ok pattern ∧
        pattern.admits "refs/heads/abc" = true := by
  have alone : (Regex.read? .unicode sizeLimit
      "refs/heads/a)|(?:refs/heads/b".toList).isNone = true := by
    decide +kernel
  have within : (Regex.read? .unicode sizeLimit
      (anchored "refs/heads/a)|(?:refs/heads/b").toList).any
        (·.isMatch "refs/heads/abc") = true := by
    decide +kernel
  obtain ⟨whole, read, matched⟩ := (Option.any_eq_true _ _).mp within
  exact ⟨Option.isNone_iff_eq_none.mp alone, _, ofRegex_eq_ok_iff.mpr ⟨whole, read, rfl⟩, matched⟩

end HistorySurvey.References.Pattern
