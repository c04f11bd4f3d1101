/-! The four kinds of object in a history. -/
namespace HistorySurvey

inductive Kind
  | blob
  | tree
  | commit
  | tag
  deriving DecidableEq

namespace Kind

def all : List Kind := [blob, tree, commit, tag]

def name : Kind → String
  | blob => "blob"
  | tree => "tree"
  | commit => "commit"
  | tag => "tag"

instance : ToString Kind := ⟨name⟩

def ofName? (text : String) : Option Kind := all.find? (·.name = text)

end Kind

end HistorySurvey
