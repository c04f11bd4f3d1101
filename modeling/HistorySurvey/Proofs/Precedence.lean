import Mathlib.Data.List.Sort
import HistorySurvey.Proofs.CommandLine
import HistorySurvey.Proofs.Hierarchy

/-! Which rule decides on a reference. The rules of a command line are collected flag by flag, and the
indices put them back into the order in which they were written. So the last one for a name decides,
as if the command line were read from left to right. -/
namespace HistorySurvey

namespace References

/-- The last rule for a name includes it. -/
def IncludedLast (rules : List Rule) (name : String) : Prop :=
  ∃ before rule after, rules = before ++ rule :: after ∧ rule.pattern.admits name = true ∧
    rule.polarity = .include ∧ ∀ later ∈ after, later.pattern.admits name = false

/-- What rules on a command line choose, read from left to right. -/
def Chosen (rules : List Rule) (name : String) : Prop :=
  IncludedLast rules name ∨
  (∀ rule ∈ rules, rule.pattern.admits name = false) ∧ startsWith "refs/" name = true ∧
    (rules = [] ∨ ∃ first rest, rules = first :: rest ∧ first.polarity = .exclude)

theorem Filter.chooses_iff (f : Filter) (name : String) :
    f.chooses name = true ↔ IncludedLast f.rules name := by
  unfold chooses
  constructor
  · intro chosen
    split at chosen
    · rename_i rule found
      obtain ⟨admits, later, earlier, parts, none⟩ := List.find?_eq_some_iff_append.mp found
      refine ⟨earlier.reverse, rule, later.reverse, ?_, admits, of_decide_eq_true chosen, ?_⟩
      · simpa using congrArg List.reverse parts
      · intro other member
        simpa using none other (List.mem_reverse.mp member)
    · contradiction
  · rintro ⟨before, rule, after, parts, admits, included, none⟩
    have found : f.rules.reverse.find? (fun rule => rule.pattern.admits name) = some rule := by
      refine List.find?_eq_some_iff_append.mpr ⟨admits, after.reverse, before.reverse, ?_, ?_⟩
      · rw [parts]
        simp
      · intro other member
        rw [none other (List.mem_reverse.mp member)]
        rfl
    rw [found]
    exact decide_eq_true included

/-- A rule in front of others decides on the names for which there is none among the others. -/
theorem includedLast_cons (first : Rule) (rest : List Rule) (name : String) :
    IncludedLast (first :: rest) name ↔ IncludedLast rest name ∨
      (∀ rule ∈ rest, rule.pattern.admits name = false) ∧ first.pattern.admits name = true ∧
        first.polarity = .include := by
  constructor
  · rintro ⟨before, rule, after, parts, admits, included, none⟩
    rcases List.cons_eq_append_iff.mp parts with ⟨_, same⟩ | ⟨others, _, same⟩
    · obtain ⟨rfl, rfl⟩ := List.cons.inj same
      exact .inr ⟨none, admits, included⟩
    · exact .inl ⟨others, rule, after, same, admits, included, none⟩
  · rintro (⟨before, rule, after, rfl, admits, included, none⟩ | ⟨none, admits, included⟩)
    · exact ⟨first :: before, rule, after, rfl, admits, included, none⟩
    · exact ⟨[], first, rest, rfl, admits, included, none⟩

theorem admits_refs (name : String) :
    (Pattern.below "refs/").admits name = startsWith "refs/" name :=
  Pattern.isBelow_of_slash (by decide) name.toList

theorem Filter.rules_foldl_push (rules : List Rule) (f : Filter) :
    (rules.foldl push f).rules = f.rules ++ rules := by
  induction rules generalizing f with
  | nil => exact (List.append_nil _).symm
  | cons rule rest ih =>
    rw [List.foldl_cons, ih, push, List.append_assoc]
    rfl

theorem Filter.chooses_ofRules (rules : List Rule) (name : String) :
    (ofRules rules).chooses name = true ↔ Chosen rules name := by
  have everything : IncludedLast (all.rules ++ rules) name ↔ IncludedLast rules name ∨
      (∀ rule ∈ rules, rule.pattern.admits name = false) ∧ startsWith "refs/" name = true := by
    rw [← admits_refs]
    exact (includedLast_cons ⟨.include, .below "refs/"⟩ rules name).trans (by simp)
  rw [chooses_iff, Chosen]
  cases rules with
  | nil => simpa [ofRules] using everything
  | cons first rest =>
    obtain ⟨polarity, pattern⟩ := first
    cases polarity with
    | «exclude» =>
      rw [ofRules, rules_foldl_push]
      simpa using everything
    | «include» =>
      rw [ofRules, rules_foldl_push]
      · simp [empty]
      · nofun
      · nofun

end References

namespace Command
open References

/-! Collecting flag by flag, and putting back into order. -/

private theorem perm_flatMap_filter {α κ : Type} [DecidableEq κ] (key : α → κ) (items : List α)
    {keys : List κ} (distinct : keys.Nodup) :
    (keys.flatMap fun k => items.filter (key · = k)).Perm (items.filter (key · ∈ keys)) := by
  induction distinct with
  | nil => simp
  | @cons k rest fresh _ ih =>
    have here : (items.filter (key · ∈ k :: rest)).filter (key · = k) = items.filter (key · = k) := by
      rw [List.filter_filter]
      exact List.filter_congr fun item _ => by by_cases same : key item = k <;> simp [same]
    have others : (items.filter (key · ∈ k :: rest)).filter (fun item => !decide (key item = k)) =
        items.filter (key · ∈ rest) := by
      rw [List.filter_filter]
      refine List.filter_congr fun item _ => ?_
      by_cases same : key item = k
      · have absent : k ∉ rest := fun member => fresh k member rfl
        simp [same, absent]
      · simp [same]
    have parts := List.filter_append_perm (key · = k) (items.filter (key · ∈ k :: rest))
    rw [here, others] at parts
    exact (ih.append_left _).trans parts

/-- What is put in order by distinct numbers comes into the order that they have. -/
private theorem mergeSort_eq {α : Type} {collected ordered : List (Nat × α)}
    (same : collected.Perm ordered) (ascending : ordered.Pairwise fun a b => a.1 < b.1) :
    collected.mergeSort (fun a b => a.1 ≤ b.1) = ordered := by
  have sorted : (collected.mergeSort fun a b => a.1 ≤ b.1).Pairwise fun a b => a.1 ≤ b.1 := by
    have all : (collected.mergeSort fun a b => a.1 ≤ b.1).Pairwise fun a b =>
        decide (a.1 ≤ b.1) = true := by
      refine List.pairwise_mergeSort (fun a b c first second => ?_) (fun a b => ?_) collected
      · simp only [decide_eq_true_eq] at *
        omega
      · simp only [Bool.or_eq_true, decide_eq_true_eq]
        omega
    exact all.imp of_decide_eq_true
  have permuted := (List.mergeSort_perm collected fun a b => decide (a.1 ≤ b.1)).trans same
  have distinct : (ordered.map Prod.fst).Nodup :=
    List.pairwise_map.mpr (ascending.imp fun below => Nat.ne_of_lt below)
  refine permuted.eq_of_pairwise (fun a b left right first second => ?_) sorted
    (ascending.imp Nat.le_of_lt)
  exact List.inj_on_of_nodup_map distinct (permuted.subset left) right (Nat.le_antisymm first second)

private theorem mapM_of_ok {ε α β : Type} {f : α → Except ε β} {g : α → β} {items : List α}
    (all : ∀ item ∈ items, f item = .ok (g item)) : items.mapM f = .ok (items.map g) := by
  induction items with
  | nil => rfl
  | cons item rest ih =>
    rw [List.mapM_cons, all item List.mem_cons_self,
      ih fun other member => all other (List.mem_cons_of_mem _ member)]
    rfl

private theorem ok_of_mapM {ε α β : Type} {f : α → Except ε β} {items : List α} {results : List β}
    (fine : items.mapM f = .ok results) : ∀ item ∈ items, ∃ result, f item = .ok result := by
  induction items generalizing results with
  | nil => nofun
  | cons item rest ih =>
    rw [List.mapM_cons] at fine
    cases first : f item with
    | error error =>
      rw [first] at fine
      contradiction
    | ok result =>
      cases others : rest.mapM f with
      | error error =>
        rw [first, others] at fine
        contradiction
      | ok tail => exact List.forall_mem_cons.mpr ⟨⟨result, first⟩, ih others⟩

/-- The flags that add rules, in the order in which they are collected. -/
def RuleFlag.all : List RuleFlag :=
  switches.map (fun (polarity, named) => group polarity named) ++
    settings.map fun (polarity, regex) => setting polarity regex

theorem RuleFlag.nodup_all : all.Nodup := by decide

theorem RuleFlag.mem_all (flag : RuleFlag) : flag ∈ all := by
  rcases flag with ⟨_ | _, _ | _ | _ | _ | _⟩ | ⟨_ | _, _ | _⟩ <;> decide

/-- The rule that an occurrence of a flag adds. -/
def Mention.rule (mention : Mention) : Except InvalidRegex Rule := mention.flag.rule mention.text

namespace Matches

variable {mentions : List Mention} {rule : Mention → Rule}

theorem rule_of_flag (valid : ∀ mention ∈ mentions, mention.rule = .ok (rule mention))
    {mention : Mention} {flag : RuleFlag} (member : mention ∈ mentions.filter (·.flag = flag)) :
    flag.rule mention.text = .ok (rule mention) := by
  obtain ⟨listed, same⟩ := List.mem_filter.mp member
  rw [← of_decide_eq_true same]
  exact valid mention listed

theorem switchRules_eq (valid : ∀ mention ∈ mentions, mention.rule = .ok (rule mention))
    (once : OnceEach mentions) (polarity : Polarity) (group : Group) :
    (ofMentions mentions).switchRules polarity group =
      (mentions.filter (·.flag = .group polarity group)).map fun mention =>
        (mention.index, rule mention) := by
  have few := once polarity group
  have made {mention : Mention} (member : mention ∈ mentions.filter (·.flag = .group polarity group)) :
      rule mention = ⟨polarity, .below group.place⟩ := by
    have same : Except.ok ⟨polarity, .below group.place⟩ = Except.ok (rule mention) :=
      rule_of_flag valid member
    exact (Except.ok.inj same).symm
  unfold switchRules ofMentions
  match found : mentions.filter (·.flag = .group polarity group) with
  | [] => simp [found]
  | [mention] =>
    rw [found] at made
    simp [found, made List.mem_cons_self]
  | first :: second :: rest =>
    rw [found, List.length_cons, List.length_cons] at few
    omega

theorem settingRules_eq (valid : ∀ mention ∈ mentions, mention.rule = .ok (rule mention))
    (polarity : Polarity) (regex : Bool) :
    (ofMentions mentions).settingRules polarity regex =
      .ok ((mentions.filter (·.flag = .setting polarity regex)).map fun mention =>
        (mention.index, rule mention)) := by
  simp only [settingRules, ofMentions, List.zip_map', List.mapM_map]
  refine mapM_of_ok fun mention member => ?_
  simp only [Function.comp_apply, rule_of_flag valid member]
  rfl

theorem collect_eq (valid : ∀ mention ∈ mentions, mention.rule = .ok (rule mention))
    (once : OnceEach mentions) :
    (ofMentions mentions).collect =
      .ok (RuleFlag.all.flatMap fun flag => (mentions.filter (·.flag = flag)).map fun mention =>
        (mention.index, rule mention)) := by
  have set : (RuleFlag.settings.mapM fun entry => (ofMentions mentions).settingRules entry.1 entry.2) =
      .ok (RuleFlag.settings.map fun entry =>
        (mentions.filter (·.flag = .setting entry.1 entry.2)).map fun mention =>
          (mention.index, rule mention)) :=
    mapM_of_ok fun entry _ => settingRules_eq valid entry.1 entry.2
  have switched : (RuleFlag.switches.flatMap fun entry =>
      (ofMentions mentions).switchRules entry.1 entry.2) = RuleFlag.switches.flatMap fun entry =>
        (mentions.filter (·.flag = .group entry.1 entry.2)).map fun mention =>
          (mention.index, rule mention) :=
    congrArg (RuleFlag.switches.flatMap ·) (funext fun entry =>
      switchRules_eq valid once entry.1 entry.2)
  unfold collect
  rw [set, switched, RuleFlag.all, List.flatMap_append, List.flatMap_map, List.flatMap_map]
  rfl

/-- The filter has the rules as they were written, one for each occurrence of a flag. -/
theorem filter_eq (valid : ∀ mention ∈ mentions, mention.rule = .ok (rule mention))
    (once : OnceEach mentions) (ascending : Ascending mentions) :
    (ofMentions mentions).filter = .ok (.ofRules (mentions.map rule)) := by
  let placed (mention : Mention) : Nat × Rule := (mention.index, rule mention)
  have grouped : (RuleFlag.all.flatMap fun flag =>
      (mentions.filter (·.flag = flag)).map placed).Perm (mentions.map placed) := by
    have parts := perm_flatMap_filter Mention.flag mentions RuleFlag.nodup_all
    rw [List.filter_eq_self.mpr fun mention _ => decide_eq_true mention.flag.mem_all] at parts
    rw [← List.map_flatMap]
    exact parts.map placed
  have growing : (mentions.map placed).Pairwise fun a b => a.1 < b.1 :=
    List.pairwise_map.mpr ascending
  unfold filter
  rw [collect_eq valid once]
  simp only [bind, Except.bind]
  rw [mergeSort_eq grouped growing, List.map_map]
  rfl

/-- What the filter chooses is what the rules choose from left to right. -/
theorem exists_filter {rules : List Rule} (ascending : Ascending mentions)
    (once : OnceEach mentions) (valid : mentions.mapM Mention.rule = .ok rules) :
    ∃ f, (ofMentions mentions).filter = .ok f ∧
      ∀ name, f.chooses name = true ↔ Chosen rules name := by
  have each : ∀ mention, ∃ rule, mention ∈ mentions → mention.rule = .ok rule := by
    intro mention
    by_cases member : mention ∈ mentions
    · obtain ⟨rule, same⟩ := ok_of_mapM valid mention member
      exact ⟨rule, fun _ => same⟩
    · exact ⟨⟨.include, .below ""⟩, fun listed => absurd listed member⟩
  choose rule made using each
  obtain rfl := Except.ok.inj (valid.symm.trans (mapM_of_ok made))
  exact ⟨_, filter_eq made once ascending, Filter.chooses_ofRules _⟩

end Matches

/-- The rules that words have as a command line, from left to right. -/
def writtenRules (words : List String) : Except InvalidRegex (List Rule) :=
  (Expected.flag.flags words).mapM fun (flag, text) => flag.rule text

theorem Arguments.exists_filter {words : List String} {a : Arguments} {rules : List Rule}
    (accepted : read words = .ok a) (valid : writtenRules words = .ok rules) :
    ∃ f, a.filter = .ok f ∧ ∀ name, f.chooses name = true ↔ Chosen rules name := by
  obtain ⟨written, ascending, once⟩ := read_ok accepted
  refine Matches.exists_filter ascending once ?_
  rw [← valid, writtenRules, ← written, Arguments.written, List.mapM_map]
  rfl

/-- The last rule for a name decides, and a name without a rule is chosen if it is a reference and
the first rule does not include anything. So it is for all occurrences of flags whose indices grow and
for all command lines that are accepted. -/
theorem last_rule_decides :
    (∀ mentions rules, Ascending mentions → OnceEach mentions →
      mentions.mapM Mention.rule = .ok rules →
      ∃ f, (Matches.ofMentions mentions).filter = .ok f ∧
        ∀ name, f.chooses name = true ↔ Chosen rules name) ∧
    ∀ words a rules, Arguments.read words = .ok a → writtenRules words = .ok rules →
      ∃ f, a.filter = .ok f ∧ ∀ name, f.chooses name = true ↔ Chosen rules name :=
  ⟨fun _ _ => Matches.exists_filter, fun _ _ _ => Arguments.exists_filter⟩

/-- A command line with a switch of a group and an expression between inclusions of places. -/
def interleavedWords : List String :=
  ["--include", "refs/heads", "--no-tags", "--exclude-regexp=refs/heads/wip-.*", "repository",
    "--include", "refs/heads/wip-kept"]

/-- Its flags, with the indices they get. -/
def interleavedMentions : List Mention :=
  [⟨.setting .include false, 1, "refs/heads"⟩, ⟨.group .exclude .tags, 2, ""⟩,
    ⟨.setting .exclude true, 4, "refs/heads/wip-.*"⟩,
    ⟨.setting .include false, 7, "refs/heads/wip-kept"⟩]

theorem last_rule_decides_interleaved :
    ∃ a f g, Arguments.read interleavedWords = .ok a ∧ a.filter = .ok f ∧
      (Matches.ofMentions interleavedMentions).filter = .ok g ∧
      f.chooses "refs/heads/wip-kept" = true ∧ g.chooses "refs/heads/wip-kept" = true := by
  have accepted : (Arguments.read interleavedWords).isOk = true := by decide +kernel
  have valid : (Pattern.ofRegex "refs/heads/wip-.*").isOk = true := by decide +kernel
  have flags : Expected.flag.flags interleavedWords =
      interleavedMentions.map Mention.written := by decide +kernel
  cases taken : Arguments.read interleavedWords with
  | error error =>
    rw [taken] at accepted
    contradiction
  | ok a =>
    cases made : Pattern.ofRegex "refs/heads/wip-.*" with
    | error error =>
      rw [made] at valid
      contradiction
    | ok wip =>
      have rules : interleavedMentions.mapM Mention.rule =
          .ok [⟨.include, .below "refs/heads"⟩, ⟨.exclude, .below "refs/tags/"⟩, ⟨.exclude, wip⟩,
            ⟨.include, .below "refs/heads/wip-kept"⟩] := by
        simp only [interleavedMentions, List.mapM_cons, Mention.rule, RuleFlag.rule, made]
        rfl
      have written : writtenRules interleavedWords = interleavedMentions.mapM Mention.rule := by
        rw [writtenRules, flags, List.mapM_map]
        rfl
      have once : OnceEach interleavedMentions := by
        rintro (_ | _) (_ | _ | _ | _ | _) <;> decide
      obtain ⟨f, first, chosen⟩ := last_rule_decides.2 _ a _ taken (written.trans rules)
      obtain ⟨g, second, likewise⟩ := last_rule_decides.1 _ _ (by unfold Ascending; decide) once rules
      have kept (earlier : List Rule) :
          Chosen (earlier ++ [⟨.include, .below "refs/heads/wip-kept"⟩]) "refs/heads/wip-kept" :=
        .inl ⟨earlier, _, [], rfl, by decide, rfl, nofun⟩
      exact ⟨a, f, g, rfl, first, second, (chosen _).mpr (kept [_, _, _]),
        (likewise _).mpr (kept [_, _, _])⟩

end Command

end HistorySurvey
