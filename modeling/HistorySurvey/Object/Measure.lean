import HistorySurvey.Count
import HistorySurvey.Object.Basic

/-! Measures of objects: what one object contributes to a survey, computed from the measures of
the objects that it links to. -/
namespace HistorySurvey

/-- What a checkout of a tree holds, everything beneath it included. What occurs under two paths
counts twice. -/
structure Checkout where
  pathDepth : Count32
  pathLength : Count32
  trees : Count32
  blobs : Count32
  blobBytes : Count64
  links : Count32
  submodules : Count32
  deriving DecidableEq

namespace Checkout

def empty : Checkout := ⟨0, 0, 0, 0, 0, 0, 0⟩

def max (a b : Checkout) : Checkout :=
  { pathDepth := Max.max a.pathDepth b.pathDepth
    pathLength := Max.max a.pathLength b.pathLength
    trees := Max.max a.trees b.trees
    blobs := Max.max a.blobs b.blobs
    blobBytes := Max.max a.blobBytes b.blobBytes
    links := Max.max a.links b.links
    submodules := Max.max a.submodules b.submodules }

instance : Max Checkout := ⟨max⟩

end Checkout

structure TreeMeasure where
  entries : Count32
  checkout : Checkout
  deriving DecidableEq

namespace TreeMeasure

/-- A tree of so many entries before any of them is looked at. It is one directory itself. -/
def ofEntryCount (entries : Nat) : TreeMeasure :=
  ⟨.ofNat entries, { Checkout.empty with trees := 1 }⟩

def addLeaf (m : TreeMeasure) (segmentLength : Nat) : TreeMeasure :=
  { m with checkout :=
    { m.checkout with
      pathDepth := max m.checkout.pathDepth 1
      pathLength := max m.checkout.pathLength (.ofNat segmentLength) } }

def addBlob (m : TreeMeasure) (segmentLength : Nat) (size : Count32) : TreeMeasure :=
  let m := m.addLeaf segmentLength
  { m with checkout :=
    { m.checkout with
      blobs := m.checkout.blobs + 1
      blobBytes := m.checkout.blobBytes + size.widen } }

def addSymlink (m : TreeMeasure) (segmentLength : Nat) : TreeMeasure :=
  let m := m.addLeaf segmentLength
  { m with checkout := { m.checkout with links := m.checkout.links + 1 } }

def addSubmodule (m : TreeMeasure) (segmentLength : Nat) : TreeMeasure :=
  let m := m.addLeaf segmentLength
  { m with checkout := { m.checkout with submodules := m.checkout.submodules + 1 } }

/-- The longest path through a directory: its name alone if it is empty, and otherwise a slash and
the longest path inside it after the name. -/
def pathLengthUnder (segmentLength : Nat) (inside : Count32) : Count32 :=
  if 0 < inside then .ofNat segmentLength + 1 + inside else .ofNat segmentLength

def addTree (m : TreeMeasure) (segmentLength : Nat) (sub : TreeMeasure) : TreeMeasure :=
  { m with checkout :=
    { pathDepth := max m.checkout.pathDepth (sub.checkout.pathDepth + 1)
      pathLength := max m.checkout.pathLength
        (pathLengthUnder segmentLength sub.checkout.pathLength)
      trees := m.checkout.trees + sub.checkout.trees
      blobs := m.checkout.blobs + sub.checkout.blobs
      blobBytes := m.checkout.blobBytes + sub.checkout.blobBytes
      links := m.checkout.links + sub.checkout.links
      submodules := m.checkout.submodules + sub.checkout.submodules } }

end TreeMeasure

structure CommitMeasure where
  parents : Count32
  /-- The longest chain of commits from this one down to a first commit, both counted. -/
  depth : Count32
  root : ObjectId
  rootTree : TreeMeasure
  deriving DecidableEq

namespace CommitMeasure

def ofRoot (root : ObjectId) (rootTree : TreeMeasure) : CommitMeasure := ⟨0, 1, root, rootTree⟩

def addParent (m parent : CommitMeasure) : CommitMeasure :=
  { m with parents := m.parents + 1, depth := max m.depth (parent.depth + 1) }

end CommitMeasure

structure TagMeasure where
  /-- The length of the chain of tags that begins here. -/
  depth : Count32
  target : ObjectId
  deriving DecidableEq

inductive Measure
  | blob (size : Count32)
  | tree (tree : TreeMeasure)
  | commit (commit : CommitMeasure)
  | tag (tag : TagMeasure)
  deriving DecidableEq

def Measure.kind : Measure → Kind
  | .blob _ => .blob
  | .tree _ => .tree
  | .commit _ => .commit
  | .tag _ => .tag

/-- Only a tag on a tag makes a chain longer. -/
def TagMeasure.ofTarget (target : ObjectId) : Measure → TagMeasure
  | .tag inner => ⟨inner.depth + 1, target⟩
  | _ => ⟨1, target⟩

end HistorySurvey
