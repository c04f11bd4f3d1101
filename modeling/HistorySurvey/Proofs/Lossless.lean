import HistorySurvey.Proofs.Agreement
import HistorySurvey.Proofs.JsonReader
import HistorySurvey.Proofs.Standings
import HistorySurvey.Report.Figures

/-! The figures of a summary as JSON lose nothing. Each part of a summary is decoded from the keys
under which it is printed, so the text tells the summary as far as the style of naming lets it. -/
namespace HistorySurvey

namespace Json

def text? : Json → Option String
  | .text value => some value
  | _ => none

def natural? : Json → Option Nat
  | .natural value => some value
  | _ => none

end Json

/-- Decoding undoes encoding item by item. -/
theorem mapM_map_eq_some {α β : Type} {encode : α → β} {decode? : β → Option α}
    (undoes : ∀ item, decode? (encode item) = some item) (items : List α) :
    (items.map encode).mapM decode? = some items := by
  induction items with
  | nil => rfl
  | cons item rest ih => simp [undoes, ih]

def Count.ofJson? {width : Nat} : Json → Option (Count width)
  | .natural value => if within : value ≤ limit width then some ⟨value, within⟩ else none
  | _ => none

@[simp] theorem Count.ofJson?_toJson {width : Nat} (count : Count width) :
    ofJson? count.toJson = some count := by
  rw [toJson, ofJson?, dif_pos count.value_le]

/-! Rankings. -/

/-- A missing name and an empty one are told apart. -/
def Contender.ofJson? (json : Json) : Option Contender := do
  let id ← (← json.field? "id").text?
  let id ← ObjectId.ofHex? id.toList
  let value ← (← json.field? "value").natural?
  match json.field? "name" with
  | none => some ⟨id, value, none⟩
  | some name => name.text?.map fun name => ⟨id, value, some name⟩

theorem Contender.ofJson?_toJson (c : Contender) : ofJson? c.toJson = some c := by
  obtain ⟨id, value, name⟩ := c
  cases name <;> simp [ofJson?, toJson, Json.field?, Json.text?, Json.natural?, List.lookup_cons,
    ObjectId.ofHex?_toHex]

def Ranking.ofJson? : Json → Option Ranking
  | .list items => do
    let contenders ← items.mapM Contender.ofJson?
    if short : contenders.length ≤ places then some ⟨contenders, short⟩ else none
  | _ => none

theorem Ranking.ofJson?_toJson (r : Ranking) : ofJson? r.toJson = some r := by
  simp [ofJson?, toJson, mapM_map_eq_some Contender.ofJson?_toJson, r.length_le]

namespace Rankings

def put (r : Rankings) (category : Category) (board : Ranking) : Rankings :=
  ⟨r.boards.setIfInBounds category.index board⟩

theorem board_put (r : Rankings) (category other : Category) (board : Ranking) :
    (r.put category board).board other = if category = other then board else r.board other := by
  unfold put Rankings.board
  by_cases same : category = other
  · subst same
    simp
  · have apart : category.index.val ≠ other.index.val := fun equal =>
      same (Category.index_injective (Fin.ext equal))
    simp [same, apart]

theorem ext_board {r other : Rankings}
    (same : ∀ category, r.board category = other.board category) : r = other := by
  have all : ∀ index : Fin Category.count, ∃ category ∈ Category.all, category.index = index := by
    decide
  obtain ⟨boards⟩ := r
  obtain ⟨others⟩ := other
  congr
  refine Vector.ext fun index inside => ?_
  obtain ⟨category, _, place⟩ := all ⟨index, inside⟩
  have equal := same category
  simpa [board, place] using equal

/-- A category without a board has an empty one. -/
def ofJson? : Json → Option Rankings
  | .object fields => fields.foldlM (fun r field => do
      let category ← Category.ofKey? field.1
      let board ← Ranking.ofJson? field.2
      some (r.put category board)) empty
  | _ => none

end Rankings

theorem Category.ofKey?_key (category : Category) : ofKey? category.key = some category := by
  cases category <;> decide

namespace Rankings

/-- Boards that are put in one after the other are there in the end, and the others are as before. -/
theorem foldlM_put (r start : Rankings) (categories : List Category) :
    ∃ result, (categories.map fun category => (category.key, (r.board category).toJson)).foldlM
        (fun r field => do
          let category ← Category.ofKey? field.1
          let board ← Ranking.ofJson? field.2
          some (r.put category board)) start = some result ∧
      ∀ category, result.board category =
        if category ∈ categories then r.board category else start.board category := by
  induction categories generalizing start with
  | nil => exact ⟨start, rfl, fun category => by simp⟩
  | cons first rest ih =>
    obtain ⟨result, read, boards⟩ := ih (start.put first (r.board first))
    refine ⟨result, ?_, fun category => ?_⟩
    · simpa [Category.ofKey?_key, Ranking.ofJson?_toJson] using read
    · rw [boards, board_put]
      by_cases later : category ∈ rest
      · simp [later]
      · by_cases same : first = category
        · simp [same]
        · simp [later, same, Ne.symm same]

theorem used_eq (r : Rankings) : r.used =
    (Category.all.filter fun category => !(r.board category).isEmpty).map
      fun category => (category, r.board category) := by
  rw [used, List.filter_map]
  rfl

theorem ofJson?_toJson (r : Rankings) : ofJson? r.toJson = some r := by
  obtain ⟨result, read, boards⟩ := r.foldlM_put empty
    (Category.all.filter fun category => !(r.board category).isEmpty)
  have same : result = r := ext_board fun category => by
    have listed : category ∈ Category.all := by cases category <;> decide
    rw [boards, board_empty]
    split
    · rfl
    · next missing =>
      have nobody : (r.board category).contenders = [] := by
        simpa [listed, Ranking.isEmpty] using missing
      cases board : r.board category with
      | mk contenders short =>
        rw [board] at nobody
        subst nobody
        rfl
  rw [toJson, ofJson?, used_eq, List.map_map, ← same]
  exact same ▸ read

end Rankings

/-! References. -/

def References.GroupCounts.ofJson? : Json → Option References.GroupCounts
  | .object fields => do
    let entries ← fields.mapM fun field => (Count.ofJson? field.2).map (field.1, ·)
    if ascending : entries.Pairwise fun a b => a.1 < b.1 then some ⟨entries, ascending⟩ else none
  | _ => none

theorem References.GroupCounts.ofJson?_toJson (counts : References.GroupCounts) :
    ofJson? counts.toJson = some counts := by
  have entries := @mapM_map_eq_some (String × Count32) _ (fun entry => (entry.1, entry.2.toJson))
    (fun field => (Count.ofJson? field.2).map (field.1, ·)) (by simp) counts.entries
  rw [toJson, ofJson?, entries]
  exact dif_pos counts.ascending

/-! No figure has a binary fraction. -/

namespace Json

theorem arePlain_map {α : Type} {encode : α → Json} (plain : ∀ item, (encode item).isPlain = true)
    (items : List α) : arePlain (items.map encode) = true := by
  induction items with
  | nil => rfl
  | cons item rest ih => rw [List.map_cons, arePlain, plain, ih, Bool.and_self]

theorem arePlainFields_map {α : Type} {encode : α → String × Json}
    (plain : ∀ item, (encode item).2.isPlain = true) (items : List α) :
    arePlainFields (items.map encode) = true := by
  induction items with
  | nil => rfl
  | cons item rest ih =>
    rw [List.map_cons, arePlainFields, isPlainField, plain, ih, Bool.and_self]

end Json

theorem Contender.toJson_isPlain (c : Contender) : c.toJson.isPlain = true := by
  obtain ⟨id, value, _ | name⟩ := c <;> rfl

theorem Ranking.toJson_isPlain (r : Ranking) : r.toJson.isPlain = true :=
  Json.arePlain_map Contender.toJson_isPlain r.contenders

theorem Rankings.toJson_isPlain (r : Rankings) : r.toJson.isPlain = true :=
  Json.arePlainFields_map (fun board => board.2.toJson_isPlain) r.used

theorem References.GroupCounts.toJson_isPlain (counts : References.GroupCounts) :
    counts.toJson.isPlain = true :=
  Json.arePlainFields_map (fun _ => rfl) counts.entries

/-! Summaries. -/

def Json.count? {width : Nat} (json : Json) (name : String) : Option (Count width) := do
  Count.ofJson? (← json.field? name)

namespace Summary

def ofJson? (json : Json) : Option Summary := do
  some
    { commits :=
        { count := ← json.count? "unique_commit_count"
          bytes := ← json.count? "unique_commit_size"
          maxSize := ← json.count? "max_commit_size"
          maxDepth := ← json.count? "max_history_depth"
          maxParents := ← json.count? "max_parent_count" }
      trees :=
        { count := ← json.count? "unique_tree_count"
          bytes := ← json.count? "unique_tree_size"
          entries := ← json.count? "unique_tree_entries"
          maxEntries := ← json.count? "max_tree_entries" }
      blobs :=
        { count := ← json.count? "unique_blob_count"
          bytes := ← json.count? "unique_blob_size"
          maxSize := ← json.count? "max_blob_size" }
      tags :=
        { count := ← json.count? "unique_tag_count"
          maxDepth := ← json.count? "max_tag_depth" }
      references :=
        { count := ← json.count? "reference_count"
          groups := ← References.GroupCounts.ofJson? (← json.field? "reference_groups") }
      checkout :=
        { trees := ← json.count? "max_expanded_tree_count"
          pathDepth := ← json.count? "max_path_depth"
          pathLength := ← json.count? "max_path_length"
          blobs := ← json.count? "max_expanded_blob_count"
          blobBytes := ← json.count? "max_expanded_blob_size"
          links := ← json.count? "max_expanded_link_count"
          submodules := ← json.count? "max_expanded_submodule_count" }
      rankings := ← Rankings.ofJson? (← json.field? "leaderboards") }

def ofText? (text : String) : Option Summary := do ofJson? (← Json.read? text)

theorem ofJson?_toJson (s : Summary) : ofJson? s.toJson = some s := by
  simp [ofJson?, toJson, scalarFields, Json.count?, Json.field?, List.lookup_cons,
    Count.ofJson?_toJson, References.GroupCounts.ofJson?_toJson, Rankings.ofJson?_toJson]

theorem toJson_isPlain (s : Summary) : s.toJson.isPlain = true := by
  simp [toJson, scalarFields, Json.isPlain, Json.arePlainFields, Json.isPlainField, Count.toJson,
    References.GroupCounts.toJson_isPlain, Rankings.toJson_isPlain]

theorem figuresText_denotes (s : Summary) (style : NameStyle) :
    Json.Denotes (s.figuresText style) (s.redact style).toJson :=
  Json.pretty_denotes (s.redact style).toJson_isPlain

theorem ofText?_figuresText (s : Summary) (style : NameStyle) :
    ofText? (s.figuresText style) = some (s.redact style) := by
  rw [ofText?, (s.figuresText_denotes style).read]
  exact (s.redact style).ofJson?_toJson

/-- The figures of a summary are the text of one object, and with all names they tell everything. -/
theorem figuresText_lossless (s : Summary) :
    (∀ style, ∃ fields, Json.Denotes (s.figuresText style) (.object fields)) ∧
    ofText? (s.figuresText .full) = some s ∧
    ofText? (s.figuresText .hash) = some { s with rankings := s.rankings.withoutNames } ∧
    ofText? (s.figuresText .nothing) = some { s with rankings := Rankings.empty } ∧
    ∀ other : Summary, s.figuresText .full = other.figuresText .full ↔ s = other := by
  refine ⟨fun style => ⟨_, s.figuresText_denotes style⟩, s.ofText?_figuresText .full,
    s.ofText?_figuresText .hash, s.ofText?_figuresText .nothing, fun other => ⟨fun same => ?_, ?_⟩⟩
  · have decoded := s.ofText?_figuresText .full
    rw [same, other.ofText?_figuresText] at decoded
    exact (Option.some.inj decoded).symm
  · rintro rfl
    rfl

end Summary

end HistorySurvey
