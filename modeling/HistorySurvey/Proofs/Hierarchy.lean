import HistorySurvey.References.Name
import HistorySurvey.References.Pattern
import Mathlib.Data.List.Basic

/-! Places in the hierarchy of names. A pattern compares texts, and a slash lets it stop only between
segments, so the names at or below a place are those that begin with the segments of the place. -/
namespace HistorySurvey.References

/-! Segments of a text. -/

theorem segments_eq_splitOn (text : List Char) : segments text = text.splitOn '/' := by
  induction text with
  | nil => rfl
  | cons c rest ih =>
    have some : segments rest ≠ [] := ih ▸ List.splitOn_ne_nil '/' rest
    obtain ⟨first, others, parts⟩ := List.exists_cons_of_ne_nil some
    rw [List.splitOn, List.splitOnP_cons_eq_if_modifyHead, ← List.splitOn, ← ih]
    by_cases slash : c = '/'
    · subst slash
      rfl
    · rw [if_neg (by simpa using slash), segments.eq_3 c rest slash, parts]
      rfl

theorem segments_ne_nil (text : List Char) : segments text ≠ [] := by
  rw [segments_eq_splitOn]
  exact List.splitOn_ne_nil _ _

theorem segments_append (first rest : List Char) :
    segments (first ++ '/' :: rest) = segments first ++ segments rest := by
  simp only [segments_eq_splitOn, List.splitOn_append_cons_self]

theorem intercalate_segments (text : List Char) : ['/'].intercalate (segments text) = text := by
  rw [segments_eq_splitOn, List.intercalate_splitOn]

theorem segments_injective {a b : List Char} (same : segments a = segments b) : a = b := by
  rw [← intercalate_segments a, same, intercalate_segments]

theorem intercalate_append {first rest : List (List Char)} (some : first ≠ []) (more : rest ≠ []) :
    ['/'].intercalate (first ++ rest) =
      ['/'].intercalate first ++ '/' :: ['/'].intercalate rest := by
  induction first with
  | nil => contradiction
  | cons segment others ih =>
    cases others with
    | nil =>
      obtain ⟨next, later, rfl⟩ := List.exists_cons_of_ne_nil more
      simp [List.intercalate_cons_cons]
    | cons next later =>
      have inner := ih (List.cons_ne_nil next later)
      simp only [List.cons_append, List.intercalate_cons_cons] at inner ⊢
      rw [inner]
      simp

/-- More segments are more text behind a slash. -/
theorem segments_strict_prefix_iff (text longer : List Char) :
    segments text <+: segments longer ∧ segments text ≠ segments longer ↔
      ∃ rest, longer = text ++ '/' :: rest := by
  constructor
  · rintro ⟨⟨others, parts⟩, different⟩
    have more : others ≠ [] := by
      rintro rfl
      exact different (by rw [← parts, List.append_nil])
    refine ⟨['/'].intercalate others, ?_⟩
    rw [← intercalate_segments longer, ← parts, intercalate_append (segments_ne_nil text) more,
      intercalate_segments]
  · rintro ⟨rest, rfl⟩
    rw [segments_append]
    exact ⟨List.prefix_append .., by simpa using segments_ne_nil rest⟩

theorem segments_prefix_iff (text longer : List Char) :
    segments text <+: segments longer ↔ longer = text ∨ ∃ rest, longer = text ++ '/' :: rest := by
  rw [← segments_strict_prefix_iff]
  constructor
  · intro begins
    by_cases same : segments text = segments longer
    · exact .inl (segments_injective same).symm
    · exact .inr ⟨begins, same⟩
  · rintro (rfl | ⟨begins, _⟩)
    · exact List.prefix_refl _
    · exact begins

namespace Pattern

/-! Names at a place and below it. -/

theorem isBelow_of_slash {place : List Char} (slash : place.getLast? = some '/')
    (name : List Char) : isBelow place name = place.isPrefixOf name := by
  unfold isBelow dropBeginning?
  cases place.isPrefixOf name with
  | false => rfl
  | true => simp [slash]

theorem isBelow_iff_of_slash (above name : List Char) :
    isBelow (above ++ ['/']) name = true ↔ ∃ rest, name = above ++ '/' :: rest := by
  rw [isBelow_of_slash List.getLast?_concat, List.isPrefixOf_iff_prefix]
  constructor
  · rintro ⟨rest, rfl⟩
    exact ⟨rest, by simp⟩
  · rintro ⟨rest, rfl⟩
    exact ⟨rest, by simp⟩

theorem isBelow_iff_of_no_slash {place : List Char} (bare : place.getLast? ≠ some '/')
    (name : List Char) :
    isBelow place name = true ↔ name = place ∨ ∃ rest, name = place ++ '/' :: rest := by
  unfold isBelow dropBeginning?
  constructor
  · intro below
    split at below
    · contradiction
    · rename_i rest dropped
      obtain ⟨begins, same⟩ := Option.ite_none_right_eq_some.mp dropped
      obtain ⟨rest, rfl⟩ := List.isPrefixOf_iff_prefix.mp begins
      obtain rfl := Option.some.inj (List.drop_left ▸ same)
      cases rest with
      | nil => exact .inl (List.append_nil place)
      | cons c rest =>
        obtain rfl : c = '/' := by simpa [bare] using below
        exact .inr ⟨rest, rfl⟩
  · rintro (rfl | ⟨rest, rfl⟩) <;> simp [bare]

/-- A pattern for a place admits the names that begin with the segments of the place. If the place
ends in a slash, the empty segment behind it does not count and the name has to go on. -/
theorem below_follows_segments (place name : String) :
    if place.toList.getLast? = some '/' then
      ∃ levels, segments place.toList = levels ++ [[]] ∧
        ((below place).admits name = true ↔
          levels <+: segments name.toList ∧ levels ≠ segments name.toList)
    else (below place).admits name = true ↔ segments place.toList <+: segments name.toList := by
  split
  · rename_i slash
    obtain ⟨above, parts⟩ := List.getLast?_eq_some_iff.mp slash
    refine ⟨segments above, ?_, ?_⟩
    · rw [parts, segments_append]
      rfl
    · rw [admits, parts, isBelow_iff_of_slash, segments_strict_prefix_iff]
  · rename_i bare
    rw [admits, isBelow_iff_of_no_slash bare, segments_prefix_iff]

end Pattern

end HistorySurvey.References
