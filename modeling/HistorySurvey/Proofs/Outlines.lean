import HistorySurvey.Report.Outline
import Mathlib.Data.List.Basic

/-! What a display of outlines shows. Each part of the outlines adds a line of its own or none, and the
lines stand in the order of a walk through the parts that visits a section before what is in it. -/
namespace HistorySurvey.Outline

variable {α β : Type}

mutual

/-- The parts of an outline with their depths: the outline itself and then what is in its sections. -/
def parts (depth : Nat) : Outline α → List (Nat × Outline α)
  | leaf item => [(depth, leaf item)]
  | branch title children => (depth, branch title children) :: partsOfAll (depth + 1) children

def partsOfAll (depth : Nat) : List (Outline α) → List (Nat × Outline α)
  | [] => []
  | outline :: rest => parts depth outline ++ partsOfAll depth rest

end

/-- Whether an item in some outlines is shown. -/
def showsAny (pick : α → Option β) (outlines : List (Outline α)) : Bool :=
  (itemsOfAll outlines).any fun item => (pick item).isSome

/-- The line of a part itself. A section has one if an item beneath it is shown. -/
def ownLine? (pick : α → Option β) : Nat × Outline α → Option (Line β)
  | (depth, leaf item) => (pick item).map (.entry depth)
  | (depth, branch title children) =>
    if showsAny pick children then some (.heading depth title) else none

/-! The entries are the items that are picked. -/

theorem underHeading_entries (depth : Nat) (title : String) (lines : List (Line β)) :
    (underHeading depth title lines).filterMap Line.entry? = lines.filterMap Line.entry? := by
  cases lines <;> rfl

mutual

theorem lines_entries (pick : α → Option β) (depth : Nat) (outline : Outline α) :
    (lines pick depth outline).filterMap Line.entry? = (items outline).filterMap pick := by
  cases outline with
  | leaf item =>
    rw [lines, items]
    cases picked : pick item <;> simp [Line.entry?, picked]
  | branch title children =>
    rw [lines, items, underHeading_entries, linesOfAll_entries pick (depth + 1) children]

theorem linesOfAll_entries (pick : α → Option β) (depth : Nat) (outlines : List (Outline α)) :
    (linesOfAll pick depth outlines).filterMap Line.entry? = (itemsOfAll outlines).filterMap pick := by
  cases outlines with
  | nil => rfl
  | cons outline rest =>
    rw [linesOfAll, itemsOfAll, List.filterMap_append, List.filterMap_append,
      lines_entries pick depth outline, linesOfAll_entries pick depth rest]

end

/-! No title stands alone, so there are lines where an item is picked and nowhere else. -/

theorem underHeading_isEmpty (depth : Nat) (title : String) (lines : List (Line β)) :
    (underHeading depth title lines).isEmpty = lines.isEmpty := by
  cases lines <;> rfl

mutual

theorem lines_isEmpty (pick : α → Option β) (depth : Nat) (outline : Outline α) :
    (lines pick depth outline).isEmpty = !(items outline).any fun item => (pick item).isSome := by
  cases outline with
  | leaf item =>
    rw [lines, items]
    cases picked : pick item <;> simp [picked]
  | branch title children =>
    rw [lines, items, underHeading_isEmpty, linesOfAll_isEmpty pick (depth + 1) children, showsAny]

theorem linesOfAll_isEmpty (pick : α → Option β) (depth : Nat) (outlines : List (Outline α)) :
    (linesOfAll pick depth outlines).isEmpty = !showsAny pick outlines := by
  cases outlines with
  | nil => rfl
  | cons outline rest =>
    have both (first second : List (Line β)) :
        (first ++ second).isEmpty = (first.isEmpty && second.isEmpty) := by cases first <;> rfl
    rw [linesOfAll, showsAny, itemsOfAll, both, List.any_append, Bool.not_or,
      lines_isEmpty pick depth outline, linesOfAll_isEmpty pick depth rest, showsAny]

end

theorem linesOfAll_eq_nil {pick : α → Option β} {depth : Nat} {outlines : List (Outline α)} :
    linesOfAll pick depth outlines = [] ↔ (itemsOfAll outlines).filterMap pick = [] := by
  rw [← List.isEmpty_iff, linesOfAll_isEmpty, showsAny]
  simp

/-! Each part adds its own line. -/

mutual

theorem lines_eq (pick : α → Option β) (depth : Nat) (outline : Outline α) :
    lines pick depth outline = (parts depth outline).filterMap (ownLine? pick) := by
  cases outline with
  | leaf item =>
    rw [lines, parts]
    cases picked : pick item <;> simp [ownLine?, picked]
  | branch title children =>
    have inside := linesOfAll_eq pick (depth + 1) children
    rw [lines, parts, List.filterMap_cons, ownLine?, ← inside, underHeading, linesOfAll_isEmpty]
    cases shown : showsAny pick children with
    | true => rfl
    | false =>
      have empty := linesOfAll_isEmpty pick (depth + 1) children
      rw [shown] at empty
      simpa using empty

theorem linesOfAll_eq (pick : α → Option β) (depth : Nat) (outlines : List (Outline α)) :
    linesOfAll pick depth outlines = (partsOfAll depth outlines).filterMap (ownLine? pick) := by
  cases outlines with
  | nil => rfl
  | cons outline rest =>
    rw [linesOfAll, partsOfAll, List.filterMap_append, lines_eq pick depth outline,
      linesOfAll_eq pick depth rest]

end

theorem part_of_entry {pick : α → Option β} {start place : Nat} {outlines : List (Outline α)}
    {shown : β} (member : .entry place shown ∈ linesOfAll pick start outlines) :
    ∃ item, (place, leaf item) ∈ partsOfAll start outlines ∧ pick item = some shown := by
  rw [linesOfAll_eq, List.mem_filterMap] at member
  obtain ⟨⟨depth, item | ⟨title, children⟩⟩, part, own⟩ := member
  · obtain ⟨shown, picked, same⟩ := Option.map_eq_some_iff.mp own
    obtain ⟨rfl, rfl⟩ := by simpa using same
    exact ⟨item, part, picked⟩
  · simp [ownLine?] at own

/-! What is in a part stands right after it. -/

mutual

theorem parts_split {depth : Nat} {outline : Outline α} {before after : List (Nat × Outline α)}
    {place : Nat} {part : Outline α} (split : parts depth outline = before ++ (place, part) :: after) :
    ∃ others, (place, part) :: after = parts place part ++ others := by
  cases outline with
  | leaf item =>
    rw [parts, List.singleton_eq_append_iff] at split
    obtain ⟨_, single⟩ | ⟨_, none⟩ := split
    · obtain ⟨⟨rfl, rfl⟩, rfl⟩ := by simpa using single
      exact ⟨[], by simp [parts]⟩
    · simp at none
  | branch title children =>
    rw [parts, List.cons_eq_append_iff] at split
    obtain ⟨_, whole⟩ | ⟨before, _, inside⟩ := split
    · obtain ⟨⟨rfl, rfl⟩, rfl⟩ := by simpa using whole
      exact ⟨[], by simp [parts]⟩
    · exact partsOfAll_split inside

theorem partsOfAll_split {depth : Nat} {outlines : List (Outline α)}
    {before after : List (Nat × Outline α)} {place : Nat} {part : Outline α}
    (split : partsOfAll depth outlines = before ++ (place, part) :: after) :
    ∃ others, (place, part) :: after = parts place part ++ others := by
  cases outlines with
  | nil => simp [partsOfAll] at split
  | cons outline rest =>
    rw [partsOfAll, List.append_eq_append_iff] at split
    obtain ⟨earlier, _, later⟩ | ⟨first, inside, cut⟩ := split
    · exact partsOfAll_split later
    · cases first with
      | nil =>
        have later : partsOfAll depth rest = [] ++ (place, part) :: after := cut.symm
        exact partsOfAll_split later
      | cons head others =>
        obtain ⟨rfl, rfl⟩ := by simpa using cut
        obtain ⟨more, here⟩ := parts_split inside
        refine ⟨more ++ partsOfAll depth rest, ?_⟩
        rw [← List.append_assoc, ← here, List.cons_append]

end

/-! The display as a whole. -/

/-- Lines that show picked items under the titles of their sections. -/
structure Displays (pick : α → Option β) (start : Nat) (outlines : List (Outline α))
    (shown : List (Line β)) : Prop where
  entries : shown.filterMap Line.entry? = (itemsOfAll outlines).filterMap pick
  /-- A part adds one line or none, and a section adds its title if an item beneath it is shown. -/
  parts : shown = (partsOfAll start outlines).filterMap (ownLine? pick)
  /-- A title that is shown stands directly before the first of the lines beneath it. -/
  titles : ∀ before depth title children after,
    partsOfAll start outlines = before ++ (depth, branch title children) :: after →
    ∃ others, after = partsOfAll (depth + 1) children ++ others ∧
      (showsAny pick children → ∃ first inside,
        linesOfAll pick (depth + 1) children = first :: inside ∧
        shown = before.filterMap (ownLine? pick) ++ .heading depth title :: first :: inside
          ++ others.filterMap (ownLine? pick))

theorem linesOfAll_displays (pick : α → Option β) (start : Nat) (outlines : List (Outline α)) :
    Displays pick start outlines (linesOfAll pick start outlines) where
  entries := linesOfAll_entries pick start outlines
  parts := linesOfAll_eq pick start outlines
  titles := by
    intro before depth title children after split
    obtain ⟨others, inside⟩ := partsOfAll_split split
    rw [Outline.parts, List.cons_append, List.cons.injEq] at inside
    refine ⟨others, inside.2, fun shown => ?_⟩
    have filled := linesOfAll_isEmpty pick (depth + 1) children
    rw [shown] at filled
    have own : ownLine? pick (depth, branch title children) = some (.heading depth title) := by
      rw [ownLine?, if_pos shown]
    cases beneath : linesOfAll pick (depth + 1) children with
    | nil => simp [beneath] at filled
    | cons first rest =>
      refine ⟨first, rest, rfl, ?_⟩
      rw [linesOfAll_eq, split, List.filterMap_append, List.filterMap_cons_some own, inside.2,
        List.filterMap_append, ← linesOfAll_eq, beneath]
      simp

example : linesOfAll (fun n => if n < 5 then some n else none) 0
    [.branch "some" [.branch "none" [.leaf 7], .branch "few" [.leaf 3]], .leaf 9] =
    [.heading 0 "some", .heading 1 "few", .entry 2 3] := rfl

private theorem filterMap_sublist {γ δ : Type} {few many : γ → Option δ}
    (fewer : ∀ item shown, few item = some shown → many item = some shown) (items : List γ) :
    (items.filterMap few).Sublist (items.filterMap many) := by
  induction items with
  | nil => exact .slnil
  | cons item rest ih =>
    cases picked : few item with
    | none =>
      rw [List.filterMap_cons_none picked]
      exact ih.trans ((List.sublist_cons_self item rest).filterMap many)
    | some shown =>
      rw [List.filterMap_cons_some picked, List.filterMap_cons_some (fewer item shown picked)]
      exact ih.cons_cons shown

/-- Whoever picks less shows fewer lines, each as it stands among the others. -/
theorem linesOfAll_sublist {few many : α → Option β}
    (fewer : ∀ item shown, few item = some shown → many item = some shown) (depth : Nat)
    (outlines : List (Outline α)) :
    (linesOfAll few depth outlines).Sublist (linesOfAll many depth outlines) := by
  rw [linesOfAll_eq, linesOfAll_eq]
  refine filterMap_sublist (fun part line own => ?_) _
  obtain ⟨depth, item | ⟨title, children⟩⟩ := part
  · obtain ⟨shown, picked, rfl⟩ := Option.map_eq_some_iff.mp own
    simp [ownLine?, fewer item shown picked]
  · simp only [ownLine?, Option.ite_none_right_eq_some] at own ⊢
    obtain ⟨any, title⟩ := own
    refine ⟨?_, title⟩
    obtain ⟨item, member, picked⟩ := List.any_eq_true.mp any
    obtain ⟨shown, picked⟩ := Option.isSome_iff_exists.mp picked
    exact List.any_eq_true.mpr ⟨item, member, by rw [fewer item shown picked]; rfl⟩

end HistorySurvey.Outline
