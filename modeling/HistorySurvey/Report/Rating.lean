import HistorySurvey.Concern.Scale
import HistorySurvey.Report.Layout
import HistorySurvey.Report.Options
import HistorySurvey.Summary

/-! The figures of a summary, rated on a scale. A figure at its counter's limit may stand for a
larger one, so it is rated as high as possible. -/
namespace HistorySurvey

structure Figure where
  value : Nat
  overflow : Bool
  deriving DecidableEq

def Figure.ofCount {width : Nat} (count : Count width) : Figure := ⟨count.value, count.saturated⟩

def Summary.figure (s : Summary) : Metric → Figure
  | .commitCount => .ofCount s.commits.count
  | .commitBytes => .ofCount s.commits.bytes
  | .treeCount => .ofCount s.trees.count
  | .treeBytes => .ofCount s.trees.bytes
  | .treeEntries => .ofCount s.trees.entries
  | .blobCount => .ofCount s.blobs.count
  | .blobBytes => .ofCount s.blobs.bytes
  | .tagCount => .ofCount s.tags.count
  | .referenceCount => .ofCount s.references.count
  | .maxCommitSize => .ofCount s.commits.maxSize
  | .maxParents => .ofCount s.commits.maxParents
  | .maxTreeEntries => .ofCount s.trees.maxEntries
  | .maxBlobSize => .ofCount s.blobs.maxSize
  | .historyDepth => .ofCount s.commits.maxDepth
  | .tagDepth => .ofCount s.tags.maxDepth
  | .checkoutTrees => .ofCount s.checkout.trees
  | .pathDepth => .ofCount s.checkout.pathDepth
  | .pathLength => .ofCount s.checkout.pathLength
  | .checkoutBlobs => .ofCount s.checkout.blobs
  | .checkoutBytes => .ofCount s.checkout.blobBytes
  | .checkoutLinks => .ofCount s.checkout.links
  | .checkoutSubmodules => .ofCount s.checkout.submodules

structure Rating where
  figure : Figure
  level : Binary64
  stars : Nat

namespace Item

def rate (item : Item) (s : Summary) (scale : Scale) : Rating :=
  let figure := s.figure item.metric
  { figure := figure
    level := scale.level item.metric figure.value
    stars := if figure.overflow then maxStars else scale.severity item.metric figure.value }

def offender (item : Item) (s : Summary) : Option Contender :=
  item.metric.category?.bind s.rankings.top

end Item

/-- A row that is shown: its item, how it is rated, and who is behind it. -/
structure RatedItem where
  item : Item
  rating : Rating
  offender : Option Contender

def RatedItem.pick (s : Summary) (threshold : Threshold) (scale : Scale) (item : Item) :
    Option RatedItem :=
  let rating := item.rate s scale
  if threshold.admits rating.stars then some ⟨item, rating, item.offender s⟩ else none

end HistorySurvey
