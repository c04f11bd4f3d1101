import HistorySurvey.Binary64.Basic
import HistorySurvey.Text.Quoted

/-! The figures that a report rates, and the value of each that nobody would remark on. -/
namespace HistorySurvey

inductive Metric
  | commitCount
  | commitBytes
  | treeCount
  | treeBytes
  | treeEntries
  | blobCount
  | blobBytes
  | tagCount
  | referenceCount
  | maxCommitSize
  | maxParents
  | maxTreeEntries
  | maxBlobSize
  | historyDepth
  | tagDepth
  | checkoutTrees
  | pathDepth
  | pathLength
  | checkoutBlobs
  | checkoutBytes
  | checkoutLinks
  | checkoutSubmodules
  deriving DecidableEq

namespace Metric

def all : List Metric :=
  [commitCount, commitBytes, treeCount, treeBytes, treeEntries, blobCount, blobBytes, tagCount,
    referenceCount, maxCommitSize, maxParents, maxTreeEntries, maxBlobSize, historyDepth,
    tagDepth, checkoutTrees, pathDepth, pathLength, checkoutBlobs, checkoutBytes, checkoutLinks,
    checkoutSubmodules]

def key : Metric → String
  | commitCount => "uniqueCommitCount"
  | commitBytes => "uniqueCommitSize"
  | treeCount => "uniqueTreeCount"
  | treeBytes => "uniqueTreeSize"
  | treeEntries => "uniqueTreeEntries"
  | blobCount => "uniqueBlobCount"
  | blobBytes => "uniqueBlobSize"
  | tagCount => "uniqueTagCount"
  | referenceCount => "referenceCount"
  | maxCommitSize => "maxCommitSize"
  | maxParents => "maxCommitParentCount"
  | maxTreeEntries => "maxTreeEntries"
  | maxBlobSize => "maxBlobSize"
  | historyDepth => "maxHistoryDepth"
  | tagDepth => "maxTagDepth"
  | checkoutTrees => "maxCheckoutTreeCount"
  | pathDepth => "maxCheckoutPathDepth"
  | pathLength => "maxCheckoutPathLength"
  | checkoutBlobs => "maxCheckoutBlobCount"
  | checkoutBytes => "maxCheckoutBlobSize"
  | checkoutLinks => "maxCheckoutLinkCount"
  | checkoutSubmodules => "maxCheckoutSubmoduleCount"

structure UnknownKey where
  text : String

def UnknownKey.message (e : UnknownKey) : String := "unknown metric " ++ Text.quoted e.text

def ofKey (text : String) : Except UnknownKey Metric :=
  match all.find? (·.key = text) with
  | some metric => .ok metric
  | none => .error ⟨text⟩

/-- What is unremarkable, as a quotient of natural numbers. -/
def usual : Metric → Nat × Nat
  | commitCount => (500000, 1)
  | commitBytes => (250000000, 1)
  | treeCount => (1500000, 1)
  | treeBytes => (2000000000, 1)
  | treeEntries => (50000000, 1)
  | blobCount => (1500000, 1)
  | blobBytes => (10000000000, 1)
  | tagCount => (25000, 1)
  | referenceCount => (25000, 1)
  | maxCommitSize => (50000, 1)
  | maxParents => (10, 1)
  | maxTreeEntries => (1000, 1)
  | maxBlobSize => (10000000, 1)
  | historyDepth => (500000, 1)
  | tagDepth => (1001, 1000)
  | checkoutTrees => (2000, 1)
  | pathDepth => (10, 1)
  | pathLength => (100, 1)
  | checkoutBlobs => (50000, 1)
  | checkoutBytes => (1000000000, 1)
  | checkoutLinks => (25000, 1)
  | checkoutSubmodules => (100, 1)

def reasonable (metric : Metric) : Binary64 :=
  Binary64.nearest false metric.usual.1 metric.usual.2

end Metric

end HistorySurvey
