import HistorySurvey.Json.Printer
import HistorySurvey.Report.Options
import HistorySurvey.Summary

/-! All figures of a summary as JSON. The rankings say as much about objects as the style allows. -/
namespace HistorySurvey

def Count.toJson {width : Nat} (count : Count width) : Json := .natural count.value

def Contender.toJson (c : Contender) : Json :=
  .object ([("id", .text c.id.toHex), ("value", .natural c.value)]
    ++ (c.name.map fun name => ("name", Json.text name)).toList)

def Ranking.toJson (r : Ranking) : Json := .list (r.contenders.map Contender.toJson)

def Rankings.toJson (r : Rankings) : Json :=
  .object (r.used.map fun board => (board.1.key, board.2.toJson))

def References.GroupCounts.toJson (counts : References.GroupCounts) : Json :=
  .object (counts.entries.map fun entry => (entry.1, entry.2.toJson))

namespace Summary

def scalarFields (s : Summary) : List (String × Json) :=
  [("unique_commit_count", s.commits.count.toJson),
    ("unique_commit_size", s.commits.bytes.toJson),
    ("max_commit_size", s.commits.maxSize.toJson),
    ("max_history_depth", s.commits.maxDepth.toJson),
    ("max_parent_count", s.commits.maxParents.toJson),
    ("unique_tree_count", s.trees.count.toJson),
    ("unique_tree_size", s.trees.bytes.toJson),
    ("unique_tree_entries", s.trees.entries.toJson),
    ("max_tree_entries", s.trees.maxEntries.toJson),
    ("unique_blob_count", s.blobs.count.toJson),
    ("unique_blob_size", s.blobs.bytes.toJson),
    ("max_blob_size", s.blobs.maxSize.toJson),
    ("unique_tag_count", s.tags.count.toJson),
    ("max_tag_depth", s.tags.maxDepth.toJson),
    ("reference_count", s.references.count.toJson),
    ("reference_groups", s.references.groups.toJson),
    ("max_path_depth", s.checkout.pathDepth.toJson),
    ("max_path_length", s.checkout.pathLength.toJson),
    ("max_expanded_tree_count", s.checkout.trees.toJson),
    ("max_expanded_blob_count", s.checkout.blobs.toJson),
    ("max_expanded_blob_size", s.checkout.blobBytes.toJson),
    ("max_expanded_link_count", s.checkout.links.toJson),
    ("max_expanded_submodule_count", s.checkout.submodules.toJson)]

def toJson (s : Summary) : Json :=
  .object (s.scalarFields ++ [("leaderboards", s.rankings.toJson)])

/-- The summary with only as much about objects as the style allows. -/
def redact (s : Summary) : NameStyle → Summary
  | .nothing => { s with rankings := Rankings.empty }
  | .hash => { s with rankings := s.rankings.withoutNames }
  | .full => s

def figuresText (s : Summary) (style : NameStyle) : String := (s.redact style).toJson.pretty

end Summary

end HistorySurvey
