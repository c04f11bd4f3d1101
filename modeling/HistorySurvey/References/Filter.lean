import HistorySurvey.References.Pattern

/-! The choice of references by rules in order. The last rule whose pattern admits a name decides,
and a name that no rule admits is not chosen. -/
namespace HistorySurvey.References

inductive Polarity
  | include
  | exclude
  deriving DecidableEq

def Polarity.inverted : Polarity → Polarity
  | .include => .exclude
  | .exclude => .include

structure Rule where
  polarity : Polarity
  pattern : Pattern
  deriving DecidableEq

structure Filter where
  rules : List Rule
  deriving DecidableEq

namespace Filter

def empty : Filter := ⟨[]⟩

instance : Inhabited Filter := ⟨empty⟩

/-- Chooses everything among the references. -/
def all : Filter := ⟨[⟨.include, .below "refs/"⟩]⟩

def push (f : Filter) (rule : Rule) : Filter := ⟨f.rules ++ [rule]⟩

def isEmpty (f : Filter) : Bool := f.rules.isEmpty

def chooses (f : Filter) (name : String) : Bool :=
  match f.rules.reverse.find? fun rule => rule.pattern.admits name with
  | some rule => rule.polarity = .include
  | none => false

/-- The filter of rules from a command line. Without rules, or with an exclusion first, everything
is chosen to begin with. -/
def ofRules (rules : List Rule) : Filter :=
  let start := match rules with
    | [] | ⟨.exclude, _⟩ :: _ => all
    | _ => empty
  rules.foldl push start

end Filter

end HistorySurvey.References
