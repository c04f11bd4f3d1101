import HistorySurvey.Object.Name
import Mathlib.Data.List.Chain
import Mathlib.Data.List.TakeWhile

/-! Names of commits as revision expressions. A name made by going from parent to parent reads back
as just the parents gone through, and steps to first parents in a row are one step of it. -/
namespace HistorySurvey.Object

/-- A step of a revision expression. -/
inductive Step
  /-- So many times to the first parent. -/
  | firstParents (count : Nat)
  /-- To the parent with this number, from one. -/
  | parent (number : Nat)
  deriving DecidableEq

namespace Step

/-- The parents on the way, by their numbers from zero. A commit is its own parent zero. -/
def indices : Step → List Nat
  | firstParents count => List.replicate count 0
  | parent 0 => []
  | parent (index + 1) => [index]

def ofSign? (sign : Char) (number : Nat) : Option Step :=
  if sign = '~' then some (.firstParents number)
  else if sign = '^' then some (.parent number)
  else none

/-- Reads steps up to the end of a text, each a sign and a number. -/
def read? : List Char → Option (List Step)
  | [] => some []
  | sign :: rest => do
    let digits := rest.takeWhile Char.isDigit
    if digits.isEmpty then none
    else
      let step ← ofSign? sign (Text.digitsValue digits)
      let others ← read? (rest.dropWhile Char.isDigit)
      some (step :: others)
termination_by text => text.length
decreasing_by exact Nat.lt_succ_of_le (List.length_dropWhile_le _ _)

/-- Two steps that are not both to first parents. -/
def Apart : Step → Step → Prop
  | firstParents _, firstParents _ => False
  | _, _ => True

def sign : Step → Char
  | firstParents _ => '~'
  | parent _ => '^'

def number : Step → Nat
  | firstParents count => count
  | parent number => number

def text (s : Step) : List Char := s.sign :: Nat.toDigits 10 s.number

theorem ofSign?_sign (s : Step) : ofSign? s.sign s.number = some s := by
  cases s <;> rfl

theorem takeWhile_digits (steps : List Step) :
    (steps.flatMap text).takeWhile Char.isDigit = [] := by
  cases steps with
  | nil => rfl
  | cons first rest => cases first <;> rfl

theorem read?_text (steps : List Step) : read? (steps.flatMap text) = some steps := by
  induction steps with
  | nil => rw [List.flatMap_nil, read?]
  | cons step rest ih =>
    have digits : ∀ c ∈ Nat.toDigits 10 step.number, c.isDigit = true :=
      fun _ member => Text.isDigit_of_mem_toDigits member
    have stop := takeWhile_digits rest
    have after : (rest.flatMap text).dropWhile Char.isDigit = rest.flatMap text := by
      have parts := List.takeWhile_append_dropWhile (p := Char.isDigit) (l := rest.flatMap text)
      rwa [stop, List.nil_append] at parts
    rw [List.flatMap_cons, text, List.cons_append, read?,
      List.takeWhile_append_of_pos digits, List.dropWhile_append_of_pos digits, stop, after,
      List.append_nil, Text.digitsValue_toDigits, ofSign?_sign, ih]
    simp

/-! One more parent. -/

/-- The steps after one to a further parent. A step to first parents at the end takes in another
one. -/
def advance (steps : List Step) (index : Nat) : List Step :=
  match index, steps.getLast? with
  | 0, some (.firstParents count) => steps.dropLast ++ [.firstParents (count + 1)]
  | 0, _ => steps ++ [.firstParents 1]
  | index + 1, _ => steps ++ [.parent (index + 2)]

theorem advance_firstParents (steps : List Step) (count : Nat) :
    advance (steps ++ [.firstParents count]) 0 = steps ++ [.firstParents (count + 1)] := by
  simp [advance]

theorem advance_parent (steps : List Step) (number : Nat) :
    advance (steps ++ [.parent number]) 0 = steps ++ [.parent number] ++ [.firstParents 1] := by
  simp [advance]

theorem advance_succ (steps : List Step) (index : Nat) :
    advance steps (index + 1) = steps ++ [.parent (index + 2)] := rfl

theorem indices_advance (steps : List Step) (index : Nat) :
    (advance steps index).flatMap indices = steps.flatMap indices ++ [index] := by
  cases index with
  | succ index => simp [advance_succ, indices]
  | zero =>
    rcases List.eq_nil_or_concat steps with rfl | ⟨before, last, rfl⟩
    · rfl
    · cases last with
      | firstParents count =>
        rw [List.concat_eq_append, advance_firstParents]
        simp [indices, List.replicate_succ']
      | parent number =>
        rw [List.concat_eq_append, advance_parent]
        simp [indices]

theorem count_le_length {steps : List Step} {count : Nat} (member : firstParents count ∈ steps) :
    count ≤ (steps.flatMap indices).length := by
  obtain ⟨before, after, rfl⟩ := List.append_of_mem member
  simp only [List.flatMap_append, List.flatMap_cons, indices, List.length_append,
    List.length_replicate]
  omega

theorem apart_advance {steps : List Step} (apart : steps.IsChain Apart) (index : Nat) :
    (advance steps index).IsChain Apart := by
  have append (before : List Step) (last next : Step) (earlier : (before ++ [last]).IsChain Apart)
      (unlike : Apart last next) : (before ++ [last] ++ [next]).IsChain Apart :=
    List.isChain_append.mpr ⟨earlier, List.isChain_singleton _, by simp [unlike]⟩
  rcases List.eq_nil_or_concat steps with rfl | ⟨before, last, rfl⟩
  · cases index <;> exact List.isChain_singleton _
  · rw [List.concat_eq_append] at apart ⊢
    cases index with
    | succ index =>
      rw [advance_succ]
      exact append before last _ apart (by cases last <;> trivial)
    | zero =>
      cases last with
      | parent number =>
        rw [advance_parent]
        exact append before _ _ apart trivial
      | firstParents count =>
        obtain ⟨earlier, _, unlike⟩ := List.isChain_append.mp apart
        rw [advance_firstParents]
        refine List.isChain_append.mpr ⟨earlier, List.isChain_singleton _, ?_⟩
        intro previous last next first
        have same := unlike previous last (.firstParents count) rfl
        obtain rfl := Option.some.inj first
        cases previous <;> exact same

end Step

/-! The rule by which names are made, and the steps in them. -/

theorem splitAtLast?_append {mark : Char} {after : List Char} (last : mark ∉ after)
    (before : List Char) :
    splitAtLast? mark (before ++ mark :: after) = some (before, after) := by
  have reversed : (before ++ mark :: after).reverse =
      after.reverse ++ mark :: before.reverse := by simp
  have run : ∀ c ∈ after.reverse, decide (c ≠ mark) = true := by
    intro c member
    rw [decide_eq_true_eq]
    rintro rfl
    exact last (List.mem_reverse.mp member)
  have front : (before ++ mark :: after).length - after.length - 1 = before.length := by
    rw [List.length_append, List.length_cons]
    omega
  have shorter : after.length ≠ (before ++ mark :: after).length := by
    rw [List.length_append, List.length_cons]
    omega
  rw [splitAtLast?, reversed, List.takeWhile_append_of_pos run]
  simp only [ne_eq, decide_not, decide_true, Bool.not_true, List.takeWhile_cons_of_neg,
    Bool.false_eq_true, not_false_eq_true, List.append_nil, List.reverse_reverse, front, shorter,
    if_false, List.take_left']

theorem splitAtLast?_of_not_mem {mark : Char} {text : List Char} (none : mark ∉ text) :
    splitAtLast? mark text = Option.none := by
  have run : ∀ c ∈ text.reverse, decide (c ≠ mark) = true := by
    intro c member
    rw [decide_eq_true_eq]
    rintro rfl
    exact none (List.mem_reverse.mp member)
  rw [splitAtLast?, List.takeWhile_eq_self_iff.mpr run]
  simp

theorem parentName_succ (commit : String) (index : Nat) :
    parentName commit (index + 1) = commit ++ "^" ++ toString (index + 2) := by
  rw [parentName, if_pos (Nat.succ_pos index)]

theorem parentName_counted {count : Nat} (within : count ≤ stepLimit) (commit : String) :
    parentName (commit ++ "~" ++ toString count) 0 = commit ++ "~" ++ toString (count + 1) := by
  have last : '~' ∉ Nat.toDigits 10 count := fun member =>
    absurd (Text.isDigit_of_mem_toDigits member) (by decide)
  have split : splitAtLast? '~' (commit ++ "~" ++ toString count).toList =
      some (commit.toList, Nat.toDigits 10 count) := by
    simpa using splitAtLast?_append last commit.toList
  simp only [parentName, Nat.lt_irrefl, if_false, split, Text.readNatural?_toDigits within,
    Option.bind_eq_bind, Option.bind_some, Option.getD_some, String.ofList_toList]

/-- What stands behind the last mark reaches over a later sign. -/
theorem mem_after_last {mark sign : Char} {front after before rest : List Char}
    (same : before ++ sign :: rest = front ++ mark :: after) (unlike : sign ≠ mark)
    (last : mark ∉ rest) : sign ∈ after := by
  rcases List.append_eq_append_iff.mp same with ⟨between, _, tail⟩ | ⟨between, _, tail⟩
  · have inside : mark ∈ sign :: rest := by simp [tail]
    rcases List.mem_cons.mp inside with rfl | within
    · exact absurd rfl unlike
    · exact absurd within last
  · cases between with
    | nil => exact absurd (List.cons.inj tail).1.symm unlike
    | cons _ more => simp [(List.cons.inj tail).2]

/-- A name without a number after its last tilde gets a new step. -/
theorem parentName_uncounted {commit : String}
    (uncounted : ∀ before after, commit.toList = before ++ '~' :: after → '~' ∉ after →
      Text.readNatural? stepLimit after = none) :
    parentName commit 0 = commit ++ "~1" := by
  by_cases tilde : '~' ∈ commit.toList
  · obtain ⟨after, before, reversed, last⟩ :=
      List.eq_append_cons_of_mem (List.mem_reverse.mpr tilde)
    have parts : commit.toList = before.reverse ++ '~' :: after.reverse := by
      simpa using congrArg List.reverse reversed
    have last : '~' ∉ after.reverse := fun member => last (List.mem_reverse.mp member)
    have unread := uncounted _ _ parts last
    have split := splitAtLast?_append last before.reverse
    simp [parentName, parts, split, unread]
  · simp [parentName, splitAtLast?_of_not_mem tilde]

open Step in
/-- The name of the next parent has one step more, or a longer last one. -/
theorem parentName_advance {base : String} (plain : '~' ∉ base.toList) {steps : List Step}
    (within : ∀ count, firstParents count ∈ steps → count ≤ stepLimit) (index : Nat) :
    parentName (base ++ String.ofList (steps.flatMap text)) index =
      base ++ String.ofList ((advance steps index).flatMap text) := by
  apply String.ext
  cases index with
  | succ index => simp [parentName_succ, advance_succ, text, sign, number]
  | zero =>
    rcases List.eq_nil_or_concat steps with rfl | ⟨before, last, rfl⟩
    · have uncounted : parentName base 0 = base ++ "~1" :=
        parentName_uncounted fun before after parts _ => absurd (parts ▸ by simp) plain
      have one : Nat.toDigits 10 1 = ['1'] := rfl
      simp [uncounted, advance, text, sign, number, one]
    · rw [List.concat_eq_append] at within ⊢
      cases last with
      | firstParents count =>
        have bound := within count (by simp)
        have counted := parentName_counted bound (base ++ String.ofList (before.flatMap text))
        have name : base ++ String.ofList ((before ++ [firstParents count]).flatMap text) =
            base ++ String.ofList (before.flatMap text) ++ "~" ++ toString count :=
          String.ext (by simp [text, sign, number])
        rw [name, counted, advance_firstParents]
        simp [text, sign, number]
      | parent number =>
        have digits : '~' ∉ Nat.toDigits 10 number := fun member =>
          absurd (Text.isDigit_of_mem_toDigits member) (by decide)
        have name : (base ++ String.ofList ((before ++ [parent number]).flatMap text)).toList =
            base.toList ++ before.flatMap text ++ '^' :: Nat.toDigits 10 number := by
          simp [text, sign, Step.number]
        have unread : ∀ front after,
            (base ++ String.ofList ((before ++ [parent number]).flatMap text)).toList =
              front ++ '~' :: after → '~' ∉ after →
                Text.readNatural? stepLimit after = none := by
          intro front after parts _
          have inside := mem_after_last (name.symm.trans parts) (by decide) digits
          exact Text.readNatural?_eq_none inside (by decide) (by decide)
        have one : Nat.toDigits 10 1 = ['1'] := rfl
        rw [parentName_uncounted unread, advance_parent]
        simp [text, sign, Step.number, one]

open Step in
theorem exists_steps {base : String} (plain : '~' ∉ base.toList) {path : List Nat}
    (short : path.length < stepLimit) :
    ∃ steps : List Step, path.foldl parentName base = base ++ String.ofList (steps.flatMap text) ∧
      steps.flatMap indices = path ∧ steps.IsChain Apart := by
  induction path using List.reverseRecOn with
  | nil => exact ⟨[], by simp, rfl, List.isChain_nil⟩
  | append_singleton path index ih =>
    rw [List.length_append, List.length_singleton] at short
    obtain ⟨steps, name, through, apart⟩ := ih (Nat.lt_of_succ_lt short)
    have within : ∀ count, firstParents count ∈ steps → count ≤ stepLimit := by
      intro count member
      have counted := count_le_length member
      rw [through] at counted
      omega
    refine ⟨advance steps index, ?_, ?_, apart_advance apart index⟩
    · rw [List.foldl_append, name]
      exact parentName_advance plain within index
    · rw [indices_advance, through]

/-- The name of a commit reads back as the parents through which it was reached, with no two steps
to first parents side by side, so no other way has this name. -/
theorem foldl_parentName_reads {base : String} (plain : '~' ∉ base.toList) {path : List Nat}
    (short : path.length < stepLimit) :
    (∃ (way : List Char) (steps : List Step),
      path.foldl parentName base = base ++ String.ofList way ∧ Step.read? way = some steps ∧
        steps.flatMap Step.indices = path ∧ steps.IsChain Step.Apart) ∧
      ∀ other : List Nat, other.length < stepLimit →
        other.foldl parentName base = path.foldl parentName base → other = path := by
  obtain ⟨steps, name, through, apart⟩ := exists_steps plain short
  refine ⟨⟨_, steps, name, Step.read?_text steps, through, apart⟩, ?_⟩
  intro other brief same
  obtain ⟨others, otherName, otherThrough, _⟩ := exists_steps plain brief
  rw [name, otherName, String.append_right_inj, String.ofList_inj] at same
  have read := congrArg Step.read? same
  rw [Step.read?_text, Step.read?_text] at read
  rw [← through, ← otherThrough, Option.some.inj read]

theorem foldl_parentName_reads_merged :
    '~' ∉ "refs/heads/main".toList ∧ [0, 0, 1, 0, 2].length < stepLimit ∧
      [0, 0, 1, 0, 2].foldl parentName "refs/heads/main" = "refs/heads/main~2^2~1^3" ∧
      (∃ (way : List Char) (steps : List Step), "refs/heads/main~2^2~1^3" =
        "refs/heads/main" ++ String.ofList way ∧ Step.read? way = some steps ∧
          steps.flatMap Step.indices = [0, 0, 1, 0, 2] ∧ steps.IsChain Step.Apart) ∧
      [0, 1, 0, 0, 2].foldl parentName "refs/heads/main" ≠ "refs/heads/main~2^2~1^3" := by
  have plain : '~' ∉ "refs/heads/main".toList := by decide +kernel
  have short : [0, 0, 1, 0, 2].length < stepLimit := by decide
  have name : [0, 0, 1, 0, 2].foldl parentName "refs/heads/main" = "refs/heads/main~2^2~1^3" := by
    decide +kernel
  obtain ⟨reads, alone⟩ := foldl_parentName_reads plain short
  rw [name] at reads alone
  refine ⟨plain, short, name, reads, fun same => ?_⟩
  have other := alone [0, 1, 0, 0, 2] (by decide) same
  contradiction

end HistorySurvey.Object
