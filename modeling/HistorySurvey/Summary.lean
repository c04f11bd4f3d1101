import HistorySurvey.Object.Measure
import HistorySurvey.Object.Name
import HistorySurvey.Ranking
import HistorySurvey.References.Group

/-! The figures of a whole history: totals over its distinct objects, the largest figure of any one
of them, and who holds it. Recording an object adds its measure. -/
namespace HistorySurvey

structure CommitTotals where
  count : Count32
  bytes : Count64
  maxSize : Count32
  maxDepth : Count32
  maxParents : Count32
  deriving DecidableEq

structure TreeTotals where
  count : Count32
  bytes : Count64
  entries : Count64
  maxEntries : Count32
  deriving DecidableEq

structure BlobTotals where
  count : Count32
  bytes : Count64
  maxSize : Count32
  deriving DecidableEq

structure TagTotals where
  count : Count32
  maxDepth : Count32
  deriving DecidableEq

structure ReferenceTotals where
  count : Count32
  groups : References.GroupCounts
  deriving DecidableEq

structure Summary where
  commits : CommitTotals
  trees : TreeTotals
  blobs : BlobTotals
  tags : TagTotals
  references : ReferenceTotals
  /-- The largest figure of any commit's root tree, each on its own. -/
  checkout : Checkout
  rankings : Rankings
  deriving DecidableEq

namespace Summary

def empty : Summary :=
  { commits := ⟨0, 0, 0, 0, 0⟩
    trees := ⟨0, 0, 0, 0⟩
    blobs := ⟨0, 0, 0⟩
    tags := ⟨0, 0⟩
    references := ⟨0, References.GroupCounts.empty⟩
    checkout := Checkout.empty
    rankings := Rankings.empty }

instance : Inhabited Summary := ⟨empty⟩

def offer (s : Summary) (category : Category) (id : ObjectId) (value : Nat)
    (name : Option String) : Summary :=
  { s with rankings := s.rankings.offer category ⟨id, value, name⟩ }

def recordReference (s : Summary) (reference : String) : Summary :=
  { s with references :=
    { count := s.references.count + 1
      groups := s.references.groups.increment (References.groupOf reference) } }

def recordBlob (s : Summary) (id : ObjectId) (size : Count32) (name : Option String) : Summary :=
  let s := { s with blobs :=
    { count := s.blobs.count + 1
      bytes := s.blobs.bytes + size.widen
      maxSize := max s.blobs.maxSize size } }
  s.offer .blobSize id size.value name

def recordTree (s : Summary) (id : ObjectId) (bytes : Nat) (m : TreeMeasure)
    (name : Option String) : Summary :=
  let s := { s with trees :=
    { count := s.trees.count + 1
      bytes := s.trees.bytes + Count.ofNat bytes
      entries := s.trees.entries + m.entries.widen
      maxEntries := max s.trees.maxEntries m.entries } }
  s.offer .treeEntries id m.entries.value name

def checkoutFigures (c : Checkout) : List (Category × Nat) :=
  [(.pathDepth, c.pathDepth.value),
    (.pathLength, c.pathLength.value),
    (.checkoutTrees, c.trees.value),
    (.checkoutBlobs, c.blobs.value),
    (.checkoutSize, c.blobBytes.value),
    (.checkoutLinks, c.links.value),
    (.checkoutSubmodules, c.submodules.value)]

/-- A checkout is ranked under the root tree, which is named after the commit. -/
def recordCheckout (s : Summary) (m : CommitMeasure) (commitName : Option String) : Summary :=
  let name := commitName.map Object.rootTreeName
  let s := { s with checkout := max s.checkout m.rootTree.checkout }
  (checkoutFigures m.rootTree.checkout).foldl
    (fun s figure => s.offer figure.1 m.root figure.2 name) s

def recordCommit (s : Summary) (id : ObjectId) (bytes : Nat) (m : CommitMeasure)
    (name : Option String) : Summary :=
  let size : Count32 := .ofNat bytes
  let s := { s with commits :=
    { count := s.commits.count + 1
      bytes := s.commits.bytes + Count.ofNat bytes
      maxSize := max s.commits.maxSize size
      maxDepth := max s.commits.maxDepth m.depth
      maxParents := max s.commits.maxParents m.parents } }
  let s := s.offer .commitSize id size.value name
  let s := s.offer .parentCount id m.parents.value name
  let s := s.offer .historyDepth id m.depth.value name
  s.recordCheckout m name

def recordTag (s : Summary) (id : ObjectId) (m : TagMeasure) (name : Option String) : Summary :=
  let s := { s with tags :=
    { count := s.tags.count + 1
      maxDepth := max s.tags.maxDepth m.depth } }
  s.offer .tagDepth id m.depth.value name

def record (s : Summary) (object : HistoryObject) : Measure → Summary
  | .blob size => s.recordBlob object.id size object.name
  | .tree m => s.recordTree object.id object.size m object.name
  | .commit m => s.recordCommit object.id object.size m object.name
  | .tag m => s.recordTag object.id m object.name

end Summary

end HistorySurvey
