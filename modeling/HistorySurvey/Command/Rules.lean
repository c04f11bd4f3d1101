import HistorySurvey.References.Filter

/-! The rules of a command line. A parser keeps them flag by flag, each mention with an index that
grows along the command line. The filter collects them in the order of the flags and puts them back
into the order of the indices. -/
namespace HistorySurvey.Command
open References

/-- The groups of references with switches of their own. -/
inductive Group
  | branches
  | tags
  | remotes
  | notes
  | stash
  deriving DecidableEq

namespace Group

def all : List Group := [branches, tags, remotes, notes, stash]

/-- Where the references of a group are. -/
def place : Group → String
  | branches => "refs/heads/"
  | tags => "refs/tags/"
  | remotes => "refs/remotes/"
  | notes => "refs/notes/"
  | stash => "refs/stash"

end Group

/-- A flag that adds a rule: the switch of a group, or a setting with a place or an expression. -/
inductive RuleFlag
  | group (polarity : Polarity) (group : Group)
  | setting (polarity : Polarity) (regex : Bool)
  deriving DecidableEq

namespace RuleFlag

/-- The switches of groups in the order in which they are collected. -/
def switches : List (Polarity × Group) :=
  Group.all.flatMap fun group => [(.include, group), (.exclude, group)]

/-- The settings in the order in which they are collected, with whether they take expressions. -/
def settings : List (Polarity × Bool) :=
  [(.include, false), (.include, true), (.exclude, false), (.exclude, true)]

/-- The rule of a flag. The text of a setting is a place or an expression; a switch has none. -/
def rule (flag : RuleFlag) (text : String) : Except InvalidRegex Rule :=
  match flag with
  | group polarity whose => .ok ⟨polarity, .below whose.place⟩
  | setting polarity false => .ok ⟨polarity, .below text⟩
  | setting polarity true => (Pattern.ofRegex text).map fun pattern => ⟨polarity, pattern⟩

end RuleFlag

/-- One occurrence of a flag, with its index on the command line. -/
structure Mention where
  flag : RuleFlag
  index : Nat
  text : String
  deriving DecidableEq

/-- What is kept of the flags that add rules: for each of them the indices and the texts of its
occurrences, both from left to right. -/
structure Matches where
  indices : RuleFlag → List Nat
  texts : RuleFlag → List String

namespace Matches

def ofMentions (mentions : List Mention) : Matches :=
  let of (flag : RuleFlag) := mentions.filter (·.flag = flag)
  { indices := fun flag => (of flag).map Mention.index
    texts := fun flag => (of flag).map Mention.text }

/-- The rule of a group's switch stands at the last index of the switch. -/
def switchRules (m : Matches) (polarity : Polarity) (group : Group) : List (Nat × Rule) :=
  ((m.indices (.group polarity group)).getLast?.map fun index =>
    (index, ⟨polarity, .below group.place⟩)).toList

def settingRules (m : Matches) (polarity : Polarity) (regex : Bool) :
    Except InvalidRegex (List (Nat × Rule)) :=
  let flag := RuleFlag.setting polarity regex
  ((m.texts flag).zip (m.indices flag)).mapM fun (text, index) =>
    (flag.rule text).map fun rule => (index, rule)

/-- The rules of all flags, one flag after the other. -/
def collect (m : Matches) : Except InvalidRegex (List (Nat × Rule)) := do
  let switched := RuleFlag.switches.flatMap fun (polarity, group) => m.switchRules polarity group
  let set ← RuleFlag.settings.mapM fun (polarity, regex) => m.settingRules polarity regex
  .ok (switched ++ set.flatten)

/-- The filter of the rules in the order of the command line. Of several expressions that are none,
the first inclusion is complained about, or else the first exclusion. -/
def filter (m : Matches) : Except InvalidRegex Filter := do
  let collected ← m.collect
  let ordered := collected.mergeSort fun a b => a.1 ≤ b.1
  .ok (.ofRules (ordered.map Prod.snd))

end Matches

end HistorySurvey.Command
