import HistorySurvey.Count

/-! Groups of references by the place where they live, and how many references each group has. -/
namespace HistorySurvey.References

def groups : List (String × String) :=
  [("refs/heads/", "branches"),
    ("refs/tags/", "tags"),
    ("refs/remotes/", "remotes"),
    ("refs/notes/", "notes"),
    ("refs/stash", "stash")]

def otherGroup : String := "other"

def startsWith (beginning text : String) : Bool := beginning.toList.isPrefixOf text.toList

def groupOf (reference : String) : String :=
  match groups.find? fun group => startsWith group.1 reference with
  | some group => group.2
  | none => otherGroup

/-- Counts by group, in ascending order of the groups' names. -/
structure GroupCounts where
  entries : List (String × Count32)
  ascending : entries.Pairwise fun a b => a.1 < b.1
  deriving DecidableEq

namespace GroupCounts

def empty : GroupCounts := ⟨[], .nil⟩

instance : Inhabited GroupCounts := ⟨empty⟩

/-- Adds one to the count of a group, which starts at zero. -/
def incrementIn (group : String) : List (String × Count32) → List (String × Count32)
  | [] => [(group, 1)]
  | entry :: rest =>
    if group = entry.1 then (group, entry.2 + 1) :: rest
    else if group < entry.1 then (group, 1) :: entry :: rest
    else entry :: incrementIn group rest

theorem mem_incrementIn {group : String} {entries : List (String × Count32)} {e : String × Count32}
    (member : e ∈ incrementIn group entries) : e.1 = group ∨ e ∈ entries := by
  induction entries with
  | nil => simp [incrementIn] at member; simp [member]
  | cons entry rest ih =>
    simp only [incrementIn] at member
    split at member
    · rcases List.mem_cons.mp member with rfl | inside
      · exact .inl rfl
      · exact .inr (List.mem_cons_of_mem _ inside)
    · split at member
      · rcases List.mem_cons.mp member with rfl | inside
        · exact .inl rfl
        · exact .inr inside
      · rcases List.mem_cons.mp member with rfl | inside
        · exact .inr List.mem_cons_self
        · exact (ih inside).imp_right (List.mem_cons_of_mem _)

theorem pairwise_incrementIn (group : String) {entries : List (String × Count32)}
    (ascending : entries.Pairwise fun a b => a.1 < b.1) :
    (incrementIn group entries).Pairwise fun a b => a.1 < b.1 := by
  induction entries with
  | nil => simp [incrementIn]
  | cons entry rest ih =>
    have parts := List.pairwise_cons.mp ascending
    simp only [incrementIn]
    split
    · rename_i same
      subst same
      exact List.pairwise_cons.mpr ⟨parts.1, parts.2⟩
    · rename_i different
      split
      · rename_i before
        refine List.pairwise_cons.mpr ⟨fun e member => ?_, ascending⟩
        rcases List.mem_cons.mp member with rfl | inside
        · exact before
        · exact String.lt_trans before (parts.1 e inside)
      · rename_i notBefore
        refine List.pairwise_cons.mpr ⟨fun e member => ?_, ih parts.2⟩
        rcases mem_incrementIn member with same | inside
        · rw [same]
          rcases String.le_total entry.1 group with le | le
          · exact Std.lt_of_le_of_ne le fun equal => different equal.symm
          · exact absurd (Std.lt_of_le_of_ne le different) notBefore
        · exact parts.1 e inside

def increment (counts : GroupCounts) (group : String) : GroupCounts :=
  ⟨incrementIn group counts.entries, pairwise_incrementIn group counts.ascending⟩

end GroupCounts

end HistorySurvey.References
