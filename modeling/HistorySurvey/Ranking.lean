import HistorySurvey.Object.Id

/-! The largest objects by some figure: at most five, the largest first, in order of arrival among
equals, and none twice. -/
namespace HistorySurvey

/-- The figures by which objects are ranked, in the order of reports. -/
inductive Category
  | commitSize
  | parentCount
  | treeEntries
  | blobSize
  | historyDepth
  | tagDepth
  | checkoutTrees
  | pathDepth
  | pathLength
  | checkoutBlobs
  | checkoutSize
  | checkoutLinks
  | checkoutSubmodules
  deriving DecidableEq

namespace Category

def all : List Category :=
  [commitSize, parentCount, treeEntries, blobSize, historyDepth, tagDepth, checkoutTrees,
    pathDepth, pathLength, checkoutBlobs, checkoutSize, checkoutLinks, checkoutSubmodules]

abbrev count : Nat := 13

def index (c : Category) : Fin count :=
  match c with
  | commitSize => 0
  | parentCount => 1
  | treeEntries => 2
  | blobSize => 3
  | historyDepth => 4
  | tagDepth => 5
  | checkoutTrees => 6
  | pathDepth => 7
  | pathLength => 8
  | checkoutBlobs => 9
  | checkoutSize => 10
  | checkoutLinks => 11
  | checkoutSubmodules => 12

def key : Category → String
  | commitSize => "commit_size"
  | parentCount => "parent_count"
  | treeEntries => "tree_entries"
  | blobSize => "blob_size"
  | historyDepth => "history_depth"
  | tagDepth => "tag_depth"
  | checkoutTrees => "checkout_trees"
  | pathDepth => "path_depth"
  | pathLength => "path_length"
  | checkoutBlobs => "checkout_blobs"
  | checkoutSize => "checkout_size"
  | checkoutLinks => "checkout_links"
  | checkoutSubmodules => "checkout_submodules"

def ofKey? (text : String) : Option Category := all.find? (·.key = text)

/-- Categories stand at their index in the list of all. -/
theorem all_index (c : Category) : all[c.index.val]? = some c := by
  cases c <;> rfl

theorem index_injective {c d : Category} (same : c.index = d.index) : c = d :=
  Option.some.inj (by rw [← all_index c, ← all_index d, same])

end Category

structure Contender where
  id : ObjectId
  value : Nat
  name : Option String
  deriving DecidableEq

def Contender.withoutName (c : Contender) : Contender := { c with name := none }

namespace Ranking

def places : Nat := 5

/-- Puts a contender behind everyone who is at least as large. -/
def place (candidate : Contender) : List Contender → List Contender
  | [] => [candidate]
  | first :: rest =>
    if candidate.value ≤ first.value then first :: place candidate rest
    else candidate :: first :: rest

theorem length_place (candidate : Contender) (board : List Contender) :
    (place candidate board).length = board.length + 1 := by
  induction board with
  | nil => rfl
  | cons first rest ih =>
    simp only [place]
    split <;> simp [ih]

end Ranking

structure Ranking where
  contenders : List Contender
  length_le : contenders.length ≤ Ranking.places
  deriving DecidableEq

namespace Ranking

def empty : Ranking := ⟨[], Nat.zero_le _⟩

instance : Inhabited Ranking := ⟨empty⟩

def isEmpty (r : Ranking) : Bool := r.contenders.isEmpty

def contains (r : Ranking) (id : ObjectId) : Bool := r.contenders.any (·.id = id)

def top (r : Ranking) : Option Contender := r.contenders.head?

/-- Whether there is a place for a contender: it is not on the board, and either a place is free or
it is larger than the last one there. -/
def admits (r : Ranking) (candidate : Contender) : Bool :=
  !r.contains candidate.id &&
    (r.contenders.length < places ||
      r.contenders.getLast?.any fun last => last.value < candidate.value)

/-- A full board loses its last contender to a new one. -/
def offer (r : Ranking) (candidate : Contender) : Ranking :=
  if r.admits candidate then
    ⟨place candidate (r.contenders.take (places - 1)), by
      rw [length_place]
      have short := List.length_take_le (places - 1) r.contenders
      unfold places at *
      omega⟩
  else r

def withoutNames (r : Ranking) : Ranking :=
  ⟨r.contenders.map Contender.withoutName, by simpa using r.length_le⟩

end Ranking

structure Rankings where
  boards : Vector Ranking Category.count
  deriving DecidableEq

namespace Rankings

def empty : Rankings := ⟨Vector.replicate Category.count Ranking.empty⟩

instance : Inhabited Rankings := ⟨empty⟩

def board (r : Rankings) (category : Category) : Ranking := r.boards[category.index]

/-- A figure of zero is nobody's. -/
def offer (r : Rankings) (category : Category) (candidate : Contender) : Rankings :=
  if candidate.value = 0 then r
  else ⟨r.boards.set category.index ((r.board category).offer candidate)⟩

def top (r : Rankings) (category : Category) : Option Contender := (r.board category).top

def withoutNames (r : Rankings) : Rankings := ⟨r.boards.map Ranking.withoutNames⟩

def used (r : Rankings) : List (Category × Ranking) :=
  (Category.all.map fun category => (category, r.board category)).filter (!·.2.isEmpty)

end Rankings

end HistorySurvey
