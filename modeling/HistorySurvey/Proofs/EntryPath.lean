import HistorySurvey.Object.Name

/-! Names of what lies in the directories of a commit. The name of an entry is made from the text
of its directory's name alone, and that text may end like the name of a root tree by chance. An
entry is named by its path exactly if no directory above it has a name that ends in that way. -/
namespace HistorySurvey.Object

/-- The name of what lies at the end of a path, from the root tree of a commit. -/
def nameAlong (commit : String) (path : List String) : String :=
  path.foldl entryName (rootTreeName commit)

/-- A path below a commit, as a revision expression writes it. -/
def pathText (commit : String) (path : List String) : String :=
  commit ++ ":" ++ "/".intercalate path

def EndsMarked (segment : String) : Prop := rootMark.toList <:+ segment.toList

/-- What a directory leaves in the name of its entries: a mark at its end gives way to a colon. -/
def onward (directory : String) : String :=
  match dropEnding? rootMark.toList directory.toList with
  | some before => String.ofList before ++ ":"
  | none => directory ++ "/"

theorem dropEnding?_append (text ending : List Char) :
    dropEnding? ending (text ++ ending) = some text := by
  rw [dropEnding?, if_pos (List.isSuffixOf_iff_suffix.mpr (List.suffix_append text ending))]
  simp

theorem dropEnding?_of_not_suffix {text ending : List Char} (other : ¬ ending <:+ text) :
    dropEnding? ending text = none := by
  rw [dropEnding?, if_neg (mt List.isSuffixOf_iff_suffix.mp other)]

theorem EndsMarked.exists_eq {segment : String} (marked : EndsMarked segment) :
    ∃ before, segment = before ++ rootMark := by
  obtain ⟨before, rest⟩ := marked
  exact ⟨String.ofList before, String.ext (by simp [rest])⟩

theorem entryName_rootMark (place entry : String) :
    entryName (place ++ rootMark) entry = place ++ ":" ++ entry := by
  simp only [entryName, String.toList_append, dropEnding?_append, String.ofList_toList]

theorem entryName_of_colon {tree : String} (unmarked : ¬ EndsMarked tree)
    (inside : ':' ∈ tree.toList) (entry : String) :
    entryName tree entry = tree ++ "/" ++ entry := by
  rw [entryName, dropEnding?_of_not_suffix unmarked]
  simp [inside]

theorem onward_rootMark (place : String) : onward (place ++ rootMark) = place ++ ":" := by
  simp only [onward, String.toList_append, dropEnding?_append, String.ofList_toList]

theorem onward_of_unmarked {directory : String} (unmarked : ¬ EndsMarked directory) :
    onward directory = directory ++ "/" := by
  rw [onward, dropEnding?_of_not_suffix unmarked]

/-! The text before the last segment of a name. -/

/-- A text that has led into a commit and stops at a sign that leads on. -/
def Opened (place : String) : Prop :=
  ':' ∈ place.toList ∧
    ∃ before sign, (sign = ':' ∨ sign = '/') ∧ place.toList = before ++ [sign]

theorem opened_colon (place : String) : Opened (place ++ ":") :=
  ⟨by simp, place.toList, ':', .inl rfl, by simp⟩

/-- No sign that leads on is in the mark, so a mark at the end of a name is in its last segment. -/
theorem Opened.endsMarked_iff {place : String} (opened : Opened place) (segment : String) :
    EndsMarked (place ++ segment) ↔ EndsMarked segment := by
  obtain ⟨_, before, sign, leads, stops⟩ := opened
  have unlike : sign ∉ rootMark.toList := by rcases leads with rfl | rfl <;> decide
  rw [EndsMarked, EndsMarked, String.toList_append, stops]
  constructor
  · intro marked
    have last : sign :: segment.toList <:+ before ++ [sign] ++ segment.toList := by simp
    rcases List.suffix_or_suffix_of_suffix marked last with inside | around
    · rcases List.suffix_cons_iff.mp inside with whole | within
      · exact absurd (whole ▸ List.mem_cons_self) unlike
      · exact within
    · exact absurd (around.subset List.mem_cons_self) unlike
  · intro marked
    exact marked.trans (List.suffix_append _ _)

theorem Opened.onward {place : String} (opened : Opened place) (directory : String) :
    Opened (place ++ onward directory) := by
  by_cases marked : EndsMarked directory
  · obtain ⟨before, rfl⟩ := marked.exists_eq
    rw [onward_rootMark, ← String.append_assoc]
    exact opened_colon _
  · rw [onward_of_unmarked marked]
    exact ⟨by simp [opened.1], (place ++ directory).toList, '/', .inr rfl, by simp⟩

theorem Opened.entryName {place : String} (opened : Opened place) (directory entry : String) :
    entryName (place ++ directory) entry = place ++ Object.onward directory ++ entry := by
  by_cases marked : EndsMarked directory
  · obtain ⟨before, rfl⟩ := marked.exists_eq
    rw [onward_rootMark, ← String.append_assoc, entryName_rootMark, ← String.append_assoc]
  · have unmarked := mt (opened.endsMarked_iff directory).mp marked
    rw [entryName_of_colon unmarked (by simp [opened.1]), onward_of_unmarked marked,
      ← String.append_assoc]

/-! Whole paths. -/

theorem Opened.foldl_entryName {place : String} (opened : Opened place) (first : String)
    (directories : List String) (entry : String) :
    (directories ++ [entry]).foldl Object.entryName (place ++ first) =
      place ++ String.join ((first :: directories).map Object.onward) ++ entry := by
  induction directories generalizing place first with
  | nil => simp [opened.entryName, String.append_assoc]
  | cons next rest ih =>
    rw [List.cons_append, List.foldl_cons, opened.entryName, ih (opened.onward first)]
    simp [String.append_assoc]

/-- What a name has of each directory on the way. -/
theorem nameAlong_eq_join (commit : String) (directories : List String) (entry : String) :
    nameAlong commit (directories ++ [entry]) =
      commit ++ ":" ++ (String.join (directories.map onward) ++ entry) := by
  rw [nameAlong, rootTreeName]
  cases directories with
  | nil => simp [entryName_rootMark]
  | cons first rest =>
    rw [List.cons_append, List.foldl_cons, entryName_rootMark, ← String.append_assoc]
    exact (opened_colon commit).foldl_entryName first rest entry

theorem intercalate_eq_join (directories : List String) (entry : String) :
    "/".intercalate (directories ++ [entry]) =
      String.join (directories.map (· ++ "/")) ++ entry := by
  induction directories with
  | nil => simp
  | cons first rest ih =>
    rw [List.cons_append, String.intercalate_cons_of_ne_nil (by simp), ih]
    simp [String.append_assoc]

theorem join_onward_eq_iff (directories : List String) (entry : String) :
    String.join (directories.map onward) ++ entry =
        String.join (directories.map (· ++ "/")) ++ entry ↔
      ∀ directory ∈ directories, ¬ EndsMarked directory := by
  induction directories with
  | nil => simp
  | cons first rest ih =>
    rw [List.forall_mem_cons, ← ih]
    by_cases marked : EndsMarked first
    · -- Where the mark stood there is a colon now, so the texts part at that place.
      obtain ⟨before, rfl⟩ := marked.exists_eq
      refine iff_of_false ?_ fun unmarked => unmarked.1 marked
      rw [List.map_cons, onward_rootMark]
      simp [← String.toList_inj, rootMark]
    · simp [onward_of_unmarked marked, marked, ← String.toList_inj]

/-- An entry is named by its path exactly if no directory on the way ends like the mark of a root
tree. Each that does loses the mark, and a colon takes the place of the slash behind it. -/
theorem nameAlong_eq_pathText_iff (commit : String) (directories : List String) (entry : String) :
    nameAlong commit (directories ++ [entry]) =
        commit ++ ":" ++ (String.join (directories.map onward) ++ entry) ∧
      (nameAlong commit (directories ++ [entry]) = pathText commit (directories ++ [entry]) ↔
        ∀ directory ∈ directories, ¬ EndsMarked directory) := by
  refine ⟨nameAlong_eq_join commit directories entry, ?_⟩
  rw [← join_onward_eq_iff directories entry, nameAlong_eq_join, pathText, intercalate_eq_join,
    String.append_right_inj]

/-- A directory that is named like the mark hides itself from the names of its entries. -/
theorem marked_directory_misnamed :
    nameAlong "refs/heads/main" ["a^\x7btree\x7d", "b"] = "refs/heads/main:a:b" ∧
      nameAlong "refs/heads/main" ["a^\x7btree\x7d", "b"] ≠
        pathText "refs/heads/main" ["a^\x7btree\x7d", "b"] := by
  decide +kernel

end HistorySurvey.Object
