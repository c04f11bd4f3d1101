import HistorySurvey.Concern.Metric
import HistorySurvey.Ranking
import HistorySurvey.Report.Amount
import HistorySurvey.Report.Outline

/-! The rows of a report: which metrics it shows, in which sections and order, and how each is
described. -/
namespace HistorySurvey

structure Item where
  metric : Metric
  label : String
  description : String
  unit : String
  multiples : Multiples
  deriving DecidableEq

namespace Item

def counting (metric : Metric) (label description : String) : Outline Item :=
  .leaf ⟨metric, label, description, "", .decimal⟩

def measuring (metric : Metric) (label description : String) : Outline Item :=
  .leaf ⟨metric, label, description, "B", .binary⟩

end Item

/-- The ranking that names the object behind a figure. Totals have none. -/
def Metric.category? : Metric → Option Category
  | .maxCommitSize => some .commitSize
  | .maxParents => some .parentCount
  | .maxTreeEntries => some .treeEntries
  | .maxBlobSize => some .blobSize
  | .historyDepth => some .historyDepth
  | .tagDepth => some .tagDepth
  | .checkoutTrees => some .checkoutTrees
  | .pathDepth => some .pathDepth
  | .pathLength => some .pathLength
  | .checkoutBlobs => some .checkoutBlobs
  | .checkoutBytes => some .checkoutSize
  | .checkoutLinks => some .checkoutLinks
  | .checkoutSubmodules => some .checkoutSubmodules
  | _ => none

open Item

def totals : Outline Item :=
  .branch "Overall repository size" [
    .branch "Commits" [
      counting .commitCount "Count" "The total number of distinct commit objects",
      measuring .commitBytes "Total size" "The total size of all commit objects"],
    .branch "Trees" [
      counting .treeCount "Count" "The total number of distinct tree objects",
      measuring .treeBytes "Total size" "The total size of all distinct tree objects",
      counting .treeEntries "Total tree entries"
        "The total number of entries in all distinct tree objects"],
    .branch "Blobs" [
      counting .blobCount "Count" "The total number of distinct blob objects",
      measuring .blobBytes "Total size" "The total size of all distinct blob objects"],
    .branch "Annotated tags" [
      counting .tagCount "Count" "The total number of annotated tags"],
    .branch "References" [
      counting .referenceCount "Count" "The total number of references"]]

def biggestObjects : Outline Item :=
  .branch "Biggest objects" [
    .branch "Commits" [
      measuring .maxCommitSize "Maximum size" "The size of the largest single commit",
      counting .maxParents "Maximum parents" "The most parents of any single commit"],
    .branch "Trees" [
      counting .maxTreeEntries "Maximum entries" "The most entries in any single tree"],
    .branch "Blobs" [
      measuring .maxBlobSize "Maximum size" "The size of the largest blob object"]]

def historyStructure : Outline Item :=
  .branch "History structure" [
    counting .historyDepth "Maximum history depth" "The longest chain of commits in history",
    counting .tagDepth "Maximum tag depth"
      "The longest chain of annotated tags pointing at one another"]

def biggestCheckouts : Outline Item :=
  .branch "Biggest checkouts" [
    counting .checkoutTrees "Number of directories"
      "The number of directories in the largest checkout",
    counting .pathDepth "Maximum path depth" "The maximum path depth in any checkout",
    measuring .pathLength "Maximum path length" "The maximum path length in any checkout",
    counting .checkoutBlobs "Number of files" "The number of files in the largest checkout",
    measuring .checkoutBytes "Total size of files"
      "The total size of files in the largest checkout",
    counting .checkoutLinks "Number of symlinks" "The number of symlinks in the largest checkout",
    counting .checkoutSubmodules "Number of submodules"
      "The number of submodules in the largest checkout"]

def layout : List (Outline Item) := [totals, biggestObjects, historyStructure, biggestCheckouts]

end HistorySurvey
