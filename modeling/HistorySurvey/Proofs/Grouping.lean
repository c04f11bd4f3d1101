import HistorySurvey.Proofs.Exploration
import HistorySurvey.Proofs.Hierarchy
import HistorySurvey.Proofs.Merging
import HistorySurvey.Proofs.Precedence

/-! Groups of references are written down twice, for counting and for the switches of a command line.
Counting looks at how a name begins, and a switch at a place in the hierarchy. The place of every group
but the stash ends in a slash, so the two differ only on names that go on right behind the stash. -/
namespace HistorySurvey

namespace Command.Group
open References

/-- The name under which the references of a group are counted. -/
def title : Group → String
  | branches => "branches"
  | tags => "tags"
  | remotes => "remotes"
  | notes => "notes"
  | stash => "stash"

/-- What the switches of a group stand for. -/
def pattern (g : Group) : Pattern := .below g.place

variable {g : Group} {name : String}

/-! How names are counted. -/

theorem mem_all (g : Group) : g ∈ all := by
  cases g <;> decide

theorem groups_eq : groups = all.map fun g => (g.place, g.title) := rfl

theorem title_injective : Function.Injective title := by
  intro g h
  cases g <;> cases h <;> decide

theorem title_ne_other (g : Group) : g.title ≠ otherGroup := by
  cases g <;> decide

/-- No place is the beginning of another one. -/
theorem eq_of_place_begins {g h : Group} (begins : g.place.toList <+: h.place.toList) : g = h := by
  revert begins
  cases g <;> cases h <;> decide

theorem startsWith_iff {beginning text : String} :
    startsWith beginning text = true ↔ beginning.toList <+: text.toList :=
  List.isPrefixOf_iff_prefix

theorem eq_of_startsWith {h : Group} (first : startsWith g.place name = true)
    (second : startsWith h.place name = true) : g = h := by
  rw [startsWith_iff] at first second
  rcases List.prefix_or_prefix_of_prefix first second with begins | begins
  · exact eq_of_place_begins begins
  · exact (eq_of_place_begins begins).symm

theorem groupOf_eq (name : String) : groupOf name =
    ((all.find? fun g => startsWith g.place name).map title).getD otherGroup := by
  have tested : ((fun group : String × String => startsWith group.1 name) ∘
      fun g : Group => (g.place, g.title)) = fun g => startsWith g.place name := rfl
  rw [groupOf, groups_eq, List.find?_map, tested]
  cases all.find? fun g => startsWith g.place name <;> rfl

theorem groupOf_eq_title_iff (g : Group) (name : String) :
    groupOf name = g.title ↔ startsWith g.place name = true := by
  rw [groupOf_eq]
  cases found : all.find? fun g => startsWith g.place name with
  | none =>
    have never := List.find?_eq_none.mp found g g.mem_all
    exact iff_of_false (fun same => title_ne_other g same.symm) never
  | some h =>
    have begins : startsWith h.place name = true :=
      List.find?_some (p := fun h : Group => startsWith h.place name) found
    refine ⟨fun same => ?_, fun also => ?_⟩
    · exact title_injective same ▸ begins
    · rw [eq_of_startsWith also begins]
      rfl

theorem groupOf_eq_other_iff (name : String) :
    groupOf name = otherGroup ↔ ∀ g : Group, startsWith g.place name = false := by
  constructor
  · intro other g
    rw [← Bool.not_eq_true, ← groupOf_eq_title_iff, other]
    exact (title_ne_other g).symm
  · intro never
    have none : all.find? (fun g => startsWith g.place name) = none :=
      List.find?_eq_none.mpr fun g _ => by simp [never g]
    rw [groupOf_eq, none]
    rfl

/-! How switches take names. -/

/-- A name that goes on behind the stash in the same segment. -/
def BesideStash (name : String) : Prop :=
  ∃ c rest, name.toList = stash.place.toList ++ c :: rest ∧ c ≠ '/'

theorem startsWith_stash_iff (name : String) :
    startsWith stash.place name = true ↔ stash.pattern.admits name = true ∨ BesideStash name := by
  have bare : stash.place.toList.getLast? ≠ some '/' := by decide
  rw [startsWith_iff, pattern, Pattern.admits, Pattern.isBelow_iff_of_no_slash bare, BesideStash]
  constructor
  · rintro ⟨rest, parts⟩
    cases rest with
    | nil => exact .inl (.inl (by rw [← parts, List.append_nil]))
    | cons c rest =>
      by_cases slash : c = '/'
      · exact .inl (.inr ⟨rest, by rw [← parts, slash]⟩)
      · exact .inr ⟨c, rest, parts.symm, slash⟩
  · rintro ((same | ⟨rest, parts⟩) | ⟨c, rest, parts, _⟩)
    · exact same ▸ List.prefix_refl _
    · exact ⟨_, parts.symm⟩
    · exact ⟨_, parts.symm⟩

theorem admits_of_slash (slash : g.place.toList.getLast? = some '/') (name : String) :
    g.pattern.admits name = startsWith g.place name :=
  Pattern.isBelow_of_slash slash name.toList

/-- Every place but that of the stash ends in a slash. -/
theorem startsWith_iff_admits (g : Group) (name : String) : startsWith g.place name = true ↔
    g.pattern.admits name = true ∨ g = stash ∧ BesideStash name := by
  cases g with
  | stash => simpa using startsWith_stash_iff name
  | branches => rw [admits_of_slash (by decide)]; simp
  | tags => rw [admits_of_slash (by decide)]; simp
  | remotes => rw [admits_of_slash (by decide)]; simp
  | notes => rw [admits_of_slash (by decide)]; simp

theorem BesideStash.groupOf_eq (beside : BesideStash name) : groupOf name = stash.title :=
  (groupOf_eq_title_iff stash name).mpr ((startsWith_stash_iff name).mpr (.inr beside))

/-- No switch takes a name that lies beside the stash. -/
theorem BesideStash.not_admits (beside : BesideStash name) (g : Group) :
    g.pattern.admits name = false := by
  by_contra taken
  rw [Bool.not_eq_false] at taken
  have stashed := (startsWith_stash_iff name).mpr (.inr beside)
  obtain rfl := eq_of_startsWith ((startsWith_iff_admits g name).mpr (.inl taken)) stashed
  obtain ⟨c, rest, parts, different⟩ := beside
  have bare : stash.place.toList.getLast? ≠ some '/' := by decide
  rw [pattern, Pattern.admits, Pattern.isBelow_iff_of_no_slash bare, parts] at taken
  rcases taken with same | ⟨_, same⟩
  · simp at same
  · exact different (List.cons.inj (List.append_cancel_left same)).1

/-- A name is counted in the group whose switches take it, and in none of them if no switch takes it. -/
def GroupsAgree (name : String) : Prop :=
  (∀ g : Group, groupOf name = g.title ↔ g.pattern.admits name = true) ∧
    (groupOf name = otherGroup ↔ ∀ g : Group, g.pattern.admits name = false)

theorem groupsAgree_iff (name : String) : GroupsAgree name ↔ ¬ BesideStash name := by
  constructor
  · intro agree beside
    have taken := (agree.1 stash).mp beside.groupOf_eq
    rw [beside.not_admits stash] at taken
    contradiction
  · intro apart
    have same (g : Group) : startsWith g.place name = g.pattern.admits name := by
      rw [Bool.eq_iff_iff, startsWith_iff_admits]
      exact or_iff_left fun beside => apart beside.2
    refine ⟨fun g => ?_, ?_⟩
    · rw [groupOf_eq_title_iff, same]
    · rw [groupOf_eq_other_iff]
      simp only [same]

end Command.Group

namespace Git.History
open References

variable {filter : Filter} {named : Bool} {r : Repository} {h : History}

theorem selection_of_opened (opened : ofRepository filter named r = .ok h) :
    ∀ entry ∈ h.selection, entry.2 = filter.chooses entry.1 := by
  unfold ofRepository at opened
  split at opened
  · contradiction
  · cases listed : r.references with
    | error error =>
      rw [listed] at opened
      contradiction
    | ok references =>
      rw [listed] at opened
      rw [← Except.ok.inj opened]
      intro entry member
      obtain ⟨reference, _, rfl⟩ := List.mem_map.mp member
      rfl

/-- The references of a history are those of its repository that the filter chooses. -/
theorem mem_references_iff (opened : ofRepository filter named r = .ok h) (name : String) :
    name ∈ h.references ↔
      (∃ entry ∈ h.selection, entry.1 = name) ∧ filter.chooses name = true := by
  have selected := selection_of_opened opened
  simp only [references, List.mem_map, List.mem_filter]
  constructor
  · rintro ⟨entry, ⟨member, chosen⟩, rfl⟩
    exact ⟨⟨entry, member, rfl⟩, selected entry member ▸ chosen⟩
  · rintro ⟨⟨entry, member, rfl⟩, chosen⟩
    exact ⟨entry, ⟨member, (selected entry member).trans chosen⟩, rfl⟩

end Git.History

/-- A summary counts the references of its stream, each in its group. -/
theorem Survey.groups_of_run {stream : ObjectStream} {stopAfter : Option Nat} {s : Summary}
    (fine : (run stream stopAfter).result = .ok s) :
    (∀ group, group ∈ s.references.groups.names ↔
      group ∈ stream.references.map References.groupOf) ∧
    (∀ group, s.references.groups.countOf group =
      .ofNat ((stream.references.map References.groupOf).count group)) ∧
    s.references.count = .ofNat stream.references.length := by
  obtain ⟨_, a, accepted, finished⟩ := Assembly.finish_of_stream fine
  obtain ⟨journal, _, accounted, _⟩ := Assembly.accounted_of_acceptAll stream.references accepted
  have counted : s.references = (Summary.ofReferences stream.references).references := by
    rw [← ((Assembly.finish_eq_ok_iff a s).mp finished).2, accounted.summary,
      Journal.summary_references]
  have totals := Totals.of_references stream.references
  rw [counted]
  exact ⟨Summary.mem_groups_ofReferences stream.references, totals.groups, totals.referenceCount⟩

namespace Command
open References HistorySurvey.Command.Group

/-! Surveys with the switch of one group. -/

theorem chosen_include (pattern : Pattern) (name : String) :
    Chosen [⟨.include, pattern⟩] name ↔ pattern.admits name = true := by
  have none : ¬ IncludedLast [] name := by
    rintro ⟨before, rule, after, parts, _⟩
    simp at parts
  simp [Chosen, includedLast_cons, none]

theorem chosen_exclude (pattern : Pattern) (name : String) :
    Chosen [⟨.exclude, pattern⟩] name ↔
      pattern.admits name = false ∧ startsWith "refs/" name = true := by
  have none : ¬ IncludedLast [] name := by
    rintro ⟨before, rule, after, parts, _⟩
    simp at parts
  simp [Chosen, includedLast_cons, none]

/-- The filter of a command line whose only rule comes from a switch. -/
theorem filter_of_switch {words : List String} {a : Arguments} {polarity : Polarity} {g : Group}
    {text : String} (accepted : Arguments.read words = .ok a)
    (only : Expected.flag.flags words = [(.group polarity g, text)]) :
    ∃ f, a.filter = .ok f ∧ ∀ name, f.chooses name = true ↔ Chosen [⟨polarity, g.pattern⟩] name := by
  refine Arguments.exists_filter accepted ?_
  rw [writtenRules, only]
  rfl

variable {g : Group} {f : Filter} {named : Bool} {r : Git.Repository} {h : Git.History}
  {stopAfter : Option Nat} {s : Summary}

theorem counted_of_included (chooses : ∀ name, f.chooses name = true ↔ g.pattern.admits name = true)
    (opened : Git.History.ofRepository f named r = .ok h)
    (fine : (Survey.run h.stream stopAfter).result = .ok s) :
    (∀ group ∈ s.references.groups.names, group = g.title) ∧
      s.references.groups.countOf g.title = s.references.count := by
  obtain ⟨names, counts, total⟩ := Survey.groups_of_run fine
  have inside : ∀ group ∈ h.references.map groupOf, group = g.title := by
    intro group member
    obtain ⟨name, listed, rfl⟩ := List.mem_map.mp member
    have chosen := ((Git.History.mem_references_iff opened name).mp listed).2
    rw [groupOf_eq_title_iff, startsWith_iff_admits]
    exact .inl ((chooses name).mp chosen)
  refine ⟨fun group member => inside group ((names group).mp member), ?_⟩
  have all : (h.references.map groupOf).count g.title = h.references.length := by
    rw [List.eq_replicate_of_mem inside, List.count_replicate_self, List.length_map]
  rw [counts, total]
  exact congrArg Count.ofNat all

theorem counted_of_excluded
    (chooses : ∀ name, f.chooses name = true ↔
      g.pattern.admits name = false ∧ startsWith "refs/" name = true)
    (opened : Git.History.ofRepository f named r = .ok h)
    (fine : (Survey.run h.stream stopAfter).result = .ok s) :
    g.title ∈ s.references.groups.names ↔
      g = .stash ∧ ∃ entry ∈ h.selection, BesideStash entry.1 := by
  have listed := Git.History.mem_references_iff opened
  rw [(Survey.groups_of_run fine).1, List.mem_map]
  constructor
  · rintro ⟨name, member, counted⟩
    obtain ⟨⟨entry, selected, rfl⟩, chosen⟩ := (listed name).mp member
    have refused := ((chooses entry.1).mp chosen).1
    rw [groupOf_eq_title_iff, startsWith_iff_admits, refused] at counted
    obtain ⟨rfl, beside⟩ := counted.resolve_left Bool.false_ne_true
    exact ⟨rfl, entry, selected, beside⟩
  · rintro ⟨rfl, entry, selected, beside⟩
    have begins : startsWith Group.stash.place entry.1 = true :=
      (startsWith_stash_iff entry.1).mpr (.inr beside)
    have reference : startsWith "refs/" entry.1 = true := by
      rw [startsWith_iff] at begins ⊢
      exact List.IsPrefix.trans (by decide) begins
    have chosen := (chooses entry.1).mpr ⟨beside.not_admits .stash, reference⟩
    exact ⟨entry.1, (listed entry.1).mpr ⟨⟨entry, selected, rfl⟩, chosen⟩, beside.groupOf_eq⟩

/-- Counting and switches agree on all names except those beside the stash, which are counted with the
stash and which no switch takes. So if the only rule of a command line includes a group, every counted
reference is in it, and if the rule excludes a group, no reference is counted in it, except that those
beside the stash are still counted when the stash is excluded. -/
theorem groups_follow_switches (words : List String) (a : Arguments) (polarity : Polarity) (g : Group)
    (text : String) (accepted : Arguments.read words = .ok a)
    (only : Expected.flag.flags words = [(.group polarity g, text)]) :
    (∀ name, (GroupsAgree name ↔ ¬ BesideStash name) ∧
      (BesideStash name →
        groupOf name = Group.stash.title ∧ ∀ g : Group, g.pattern.admits name = false)) ∧
    ∃ f, a.filter = .ok f ∧ ∀ named r h stopAfter s,
      Git.History.ofRepository f named r = .ok h →
      (Survey.run h.stream stopAfter).result = .ok s →
      match polarity with
      | .include => (∀ group ∈ s.references.groups.names, group = g.title) ∧
          s.references.groups.countOf g.title = s.references.count
      | .exclude => g.title ∈ s.references.groups.names ↔
          g = .stash ∧ ∃ entry ∈ h.selection, BesideStash entry.1 := by
  refine ⟨fun name => ⟨groupsAgree_iff name, fun beside => ⟨beside.groupOf_eq, beside.not_admits⟩⟩, ?_⟩
  obtain ⟨f, made, chooses⟩ := filter_of_switch accepted only
  refine ⟨f, made, fun named r h stopAfter s opened fine => ?_⟩
  cases polarity with
  | «include» => exact counted_of_included (by simpa [chosen_include] using chooses) opened fine
  | «exclude» => exact counted_of_excluded (by simpa [chosen_exclude] using chooses) opened fine

/-- A repository with one branch, once with only the branches and once without the tags. -/
theorem groups_follow_switches_main :
    ∃ a b f e s, Arguments.read ["--branches"] = .ok a ∧ a.filter = .ok f ∧
      Arguments.read ["--no-tags"] = .ok b ∧ b.filter = .ok e ∧
      Git.History.ofRepository f false Git.hollowRepository = .ok Git.hollowHistory ∧
      Git.History.ofRepository e false Git.hollowRepository = .ok Git.hollowHistory ∧
      (Survey.run Git.hollowHistory.stream none).result = .ok s ∧
      (∀ group ∈ s.references.groups.names, group = "branches") ∧
      s.references.groups.countOf "branches" = s.references.count ∧
      "tags" ∉ s.references.groups.names := by
  have flags : Expected.flag.flags ["--branches"] = [(.group .include .branches, "")] := by
    decide +kernel
  have others : Expected.flag.flags ["--no-tags"] = [(.group .exclude .tags, "")] := by
    decide +kernel
  obtain ⟨a, accepted⟩ : ∃ a, Arguments.read ["--branches"] = .ok a := ⟨_, rfl⟩
  obtain ⟨b, taken⟩ : ∃ b, Arguments.read ["--no-tags"] = .ok b := ⟨_, rfl⟩
  obtain ⟨_, f, made, included⟩ := groups_follow_switches _ a _ _ _ accepted flags
  obtain ⟨_, e, built, excluded⟩ := groups_follow_switches _ b _ _ _ taken others
  have main : f.chooses "refs/heads/main" = true := by
    obtain ⟨_, same, chooses⟩ := filter_of_switch accepted flags
    obtain rfl := Except.ok.inj (made.symm.trans same)
    exact (chooses _).mpr ((chosen_include _ _).mpr (by decide))
  have also : e.chooses "refs/heads/main" = true := by
    obtain ⟨_, same, chooses⟩ := filter_of_switch taken others
    obtain rfl := Except.ok.inj (built.symm.trans same)
    exact (chooses _).mpr ((chosen_exclude _ _).mpr (by decide))
  have opened := Git.hollow_opened_of_chosen main
  have opened' := Git.hollow_opened_of_chosen also
  have intact := Git.hollow_selected ▸ Git.hollow_intact
  obtain ⟨unfailing, left⟩ := Git.History.portrait_stream Git.hollow_opened intact
  obtain ⟨s, fine⟩ := left.exists_summary intact unfailing rfl
  obtain ⟨names, count⟩ := included _ _ _ _ _ opened fine
  have none := mt (excluded _ _ _ _ _ opened' fine).mp (by simp)
  exact ⟨a, b, f, e, s, accepted, made, taken, built, opened, opened', fine, names, count, none⟩

/-- A reference whose name only begins like the stash is counted with it, also when the stash is
excluded. -/
theorem beside_stash_counted :
    ¬ GroupsAgree "refs/stashed" ∧ groupOf "refs/stashed" = "stash" ∧
      Group.stash.pattern.admits "refs/stashed" = false ∧
      (Filter.ofRules [⟨.exclude, Group.stash.pattern⟩]).chooses "refs/stashed" = true ∧
      (Summary.ofReferences ["refs/stashed"]).references.groups.names = ["stash"] := by
  have beside : BesideStash "refs/stashed" := ⟨'e', ['d'], by decide, by decide⟩
  exact ⟨fun agree => (groupsAgree_iff _).mp agree beside, by decide +kernel, by decide +kernel,
    by decide +kernel, by decide +kernel⟩

end Command

end HistorySurvey
