import HistorySurvey.Proofs.Exploration
import HistorySurvey.Proofs.NamelessSurvey

/-! Walks that derive no names. A name is made of the name of what was found before and is looked at
for nothing else, so a walk without names does the same as one with them, and so does a survey. -/
namespace HistorySurvey.Git

def Discovery.unnamed (d : Discovery) : Discovery := { d with name := none }

namespace Walk

def Reading.unnamed (reading : Reading) : Reading :=
  { reading with next := reading.next.map Discovery.unnamed }

/-- The same walk without the names that it would have derived. -/
def unnamed (w : Walk) : Walk := { w with stack := w.stack.map Discovery.unnamed }

/-- What a call without names gives. -/
def unnamedCall (call : ObjectId × Option HistoryObject) : ObjectId × Option HistoryObject :=
  (call.1, call.2.map HistoryObject.unnamed)

def unnamedStep (read : HistoryObject × Walk) : HistoryObject × Walk :=
  (read.1.unnamed, read.2.unnamed)

theorem discoveries_unnamed (tree : Option String) (entries : List TreeEntry) :
    entries.filterMap (discoveryOf? none) =
      (entries.filterMap (discoveryOf? tree)).map Discovery.unnamed := by
  rw [List.map_filterMap]
  refine List.filterMap_congr fun entry _ => ?_
  unfold discoveryOf?
  cases entry.kind <;> rfl

theorem parentDiscoveries_unnamed (commit : Option String) (parents : List ObjectId) :
    parentDiscoveries none parents = (parentDiscoveries commit parents).map Discovery.unnamed := by
  apply List.ext_getElem
  · simp [parentDiscoveries]
  · intro place left right
    simp [parentDiscoveries, Discovery.unnamed]

theorem read?_unnamed (n : Nat) (item : Discovery) (stored : StoredObject) :
    read? n item.unnamed stored = (read? n item stored).map Reading.unnamed := by
  unfold read?
  rw [show item.unnamed.kind = item.kind from rfl, show item.unnamed.id = item.id from rfl,
    show item.unnamed.name = none from rfl]
  cases item.kind.getD stored.kind with
  | blob => rfl
  | tree =>
    dsimp only
    split
    · rfl
    · cases treeEntries? stored.content with
      | none => rfl
      | some entries =>
        simp only [discoveries_unnamed item.name]
        rfl
  | commit =>
    dsimp only
    split
    · rfl
    · cases commitLinks? stored.content with
      | none => rfl
      | some links =>
        simp only [parentDiscoveries_unnamed item.name]
        rfl
  | tag =>
    dsimp only
    split
    · rfl
    · cases tagTarget? stored.content <;> rfl

theorem discover_unnamed (w : Walk) (d : Discovery) :
    w.unnamed.discover d.unnamed = (w.discover d).unnamed := by
  unfold discover
  rw [show d.unnamed.id = d.id from rfl, show w.unnamed.found = w.found from rfl]
  split <;> rfl

theorem foldl_discover_unnamed (w : Walk) (items : List Discovery) :
    (items.map Discovery.unnamed).foldl discover w.unnamed = (items.foldl discover w).unnamed := by
  induction items generalizing w with
  | nil => rfl
  | cons first rest ih => rw [List.map_cons, List.foldl_cons, List.foldl_cons, discover_unnamed, ih]

theorem discoverAll_unnamed (w : Walk) (items : List Discovery) :
    w.unnamed.discoverAll (items.map Discovery.unnamed) = (w.discoverAll items).unnamed := by
  rw [discoverAll, ← List.map_reverse, foldl_discover_unnamed, discoverAll]

theorem next_unnamed (w : Walk) : w.unnamed.next = w.next.map (Option.map unnamedStep) := by
  unfold next
  rw [show w.unnamed.stack = w.stack.map Discovery.unnamed from rfl]
  cases stack : w.stack with
  | nil => rfl
  | cons item rest =>
    simp only [List.map_cons, show item.unnamed.id = item.id from rfl,
      show w.unnamed.unread = w.unread from rfl, show w.unnamed.lastLength = w.lastLength from rfl,
      read?_unnamed]
    cases w.unread[item.id]? with
    | none => rfl
    | some stored =>
      dsimp only
      cases read? w.lastLength item stored with
      | none => rfl
      | some reading =>
        have after := discoverAll_unnamed { w with
          unread := w.unread.erase item.id
          stack := rest
          lastLength := reading.length } reading.next
        simp only [Option.map_some, Except.map, unnamedStep, ← after]
        rfl

theorem next_of_unnamed {w between : Walk} {object : HistoryObject}
    (step : w.unnamed.next = .ok (some (object, between))) :
    ∃ first after, w.next = .ok (some (first, after)) ∧ object = first.unnamed ∧
      between = after.unnamed := by
  rw [next_unnamed] at step
  match known : w.next with
  | .error error =>
    rw [known] at step
    contradiction
  | .ok none =>
    rw [known] at step
    simp [Except.map] at step
  | .ok (some (first, after)) =>
    rw [known] at step
    obtain ⟨rfl, rfl⟩ := Prod.mk.inj (Option.some.inj (Except.ok.inj step))
    exact ⟨first, after, rfl, rfl, rfl⟩

theorem failed_of_unnamed {w : Walk} {error : SourceError} (step : w.unnamed.next = .error error) :
    w.next = .error error := by
  rw [next_unnamed] at step
  match known : w.next with
  | .error other =>
    rw [known] at step
    exact congrArg Except.error (Except.error.inj step)
  | .ok result =>
    rw [known] at step
    contradiction

theorem objects_unnamed (w : Walk) :
    w.unnamed.objects = (w.objects.1.map HistoryObject.unnamed, w.objects.2) := by
  have all (read : List HistoryObject) : w.unnamed.drain (read.map HistoryObject.unnamed) =
      ((w.drain read).1.map HistoryObject.unnamed, (w.drain read).2) := by
    induction read, w using drain.induct with
    | case1 read w error step =>
      rw [drain_eq, drain_eq read, next_unnamed, step]
      rfl
    | case2 read w step =>
      rw [drain_eq, drain_eq read, next_unnamed, step]
      rfl
    | case3 read w object after step ih =>
      rw [drain_eq, drain_eq read, next_unnamed, step]
      exact ih
  have whole := all []
  rw [List.map_nil] at whole
  rw [objects, objects, whole]
  simp only [List.map_reverse]

theorem start_unnamed (store : Store) (roots : List (String × ObjectId)) :
    start store roots false = (start store roots true).unnamed := by
  have bare : roots.map (rootOf false) = (roots.map (rootOf true)).map Discovery.unnamed := by
    rw [List.map_map]
    rfl
  have all : ((roots.map (rootOf true)).map Discovery.unnamed).foldl discover ⟨store, [], ∅, 0⟩ =
      ((roots.map (rootOf true)).foldl discover ⟨store, [], ∅, 0⟩).unnamed :=
    foldl_discover_unnamed ⟨store, [], ∅, 0⟩ (roots.map (rootOf true))
  rw [start_eq, start_eq, bare, all]
  simp only [unnamed, List.map_reverse]

theorem Calls.unnamed {w last : Walk} {calls : List (ObjectId × Option HistoryObject)}
    (made : Calls w calls last) : Calls w.unnamed (calls.map unnamedCall) last.unnamed := by
  induction made with
  | nil w => exact .nil w.unnamed
  | read w object between rest last step _ ih =>
    refine .read w.unnamed object.unnamed between.unnamed _ _ ?_ ih
    rw [next_unnamed, step]
    rfl
  | failed w item others error n rest last stack step _ ih =>
    refine .failed w.unnamed item.unnamed (others.map Discovery.unnamed) error n _ _ ?_ ?_ ih
    · rw [Walk.unnamed, stack]
      rfl
    · rw [next_unnamed, step]
      rfl

/-- A walk without names makes no other calls. -/
theorem Calls.exists_named {w : Walk} {bare : Walk} {calls : List (ObjectId × Option HistoryObject)}
    (made : Calls w.unnamed calls bare) :
    ∃ named last, Calls w named last ∧ calls = named.map unnamedCall ∧ bare = last.unnamed := by
  generalize start : w.unnamed = b at made
  induction made generalizing w with
  | nil b => exact ⟨[], w, .nil w, rfl, start.symm⟩
  | read b object between rest last step _ ih =>
    rw [← start] at step
    obtain ⟨first, after, known, rfl, rfl⟩ := next_of_unnamed step
    obtain ⟨named, stop, made, rfl, rfl⟩ := ih rfl
    exact ⟨(first.id, some first) :: named, stop, .read w first after named stop known made, rfl, rfl⟩
  | failed b item others error n rest last stack step _ ih =>
    rw [← start] at stack step
    obtain ⟨first, later, waiting, rfl, rfl⟩ := List.map_eq_cons_iff.mp stack
    have after : ({ w with stack := later, lastLength := n } : Walk).unnamed =
        { b with stack := later.map Discovery.unnamed, lastLength := n } := by
      rw [← start]
      rfl
    obtain ⟨named, stop, made, rfl, rfl⟩ := ih after
    exact ⟨(first.id, none) :: named, stop,
      .failed w first later error n named stop waiting (failed_of_unnamed step) made, rfl, rfl⟩

end Walk

namespace History

/-- The same history without names. -/
def unnamed (h : History) : History := { h with walk := h.walk.unnamed }

theorem ofRepository_unnamed (filter : References.Filter) (r : Repository) :
    ofRepository filter false r = (ofRepository filter true r).map unnamed := by
  unfold ofRepository
  split
  · rfl
  · cases r.references with
    | error error => rfl
    | ok references =>
      simp only [Walk.start_unnamed]
      rfl

theorem stream_unnamed (h : History) : h.unnamed.stream = h.stream.unnamed := by
  unfold stream
  rw [show h.unnamed.walk = h.walk.unnamed from rfl, Walk.objects_unnamed]
  rfl

end History

/-- Without names a repository is opened to the same history but for its names, whose calls give the
same objects but for their names and fail where those with names do. A survey measures as much by then
and ends the same way, with the same summary but for the names in its rankings. So reports with ids
or without objects are the same. -/
theorem names_measure_nothing (filter : References.Filter) (r : Repository) :
    History.ofRepository filter false r =
      (History.ofRepository filter true r).map History.unnamed ∧
    ∀ h, History.ofRepository filter true r = .ok h →
      (∀ calls last, Walk.Calls h.walk calls last →
        Walk.Calls h.unnamed.walk (calls.map Walk.unnamedCall) last.unnamed ∧
        last.unnamed.next = last.next.map (Option.map Walk.unnamedStep)) ∧
      (∀ calls last, Walk.Calls h.unnamed.walk calls last →
        ∃ named before, Walk.Calls h.walk named before ∧ calls = named.map Walk.unnamedCall ∧
          last = before.unnamed) ∧
      h.unnamed.stream = h.stream.unnamed ∧
      ∀ stopAfter,
        (Survey.run h.unnamed.stream stopAfter).progress = (Survey.run h.stream stopAfter).progress ∧
        (Survey.run h.unnamed.stream stopAfter).result =
          (Survey.run h.stream stopAfter).result.map
            (fun s => { s with rankings := s.rankings.withoutNames }) ∧
        ∀ s t, (Survey.run h.stream stopAfter).result = .ok s →
          (Survey.run h.unnamed.stream stopAfter).result = .ok t →
          ∀ style, style ≠ .full → t.figuresText style = s.figuresText style ∧
            ∀ threshold scale, t.rowsText threshold style scale = s.rowsText threshold style scale ∧
              t.tableText threshold style scale = s.tableText threshold style scale := by
  refine ⟨History.ofRepository_unnamed filter r, fun h _ => ⟨fun calls last made => ?_,
    fun calls last made => made.exists_named, h.stream_unnamed, fun stopAfter => ?_⟩⟩
  · exact ⟨made.unnamed, last.next_unnamed⟩
  · rw [h.stream_unnamed]
    obtain ⟨progress, result⟩ := Survey.run_unnamed h.stream stopAfter
    refine ⟨progress, result, fun s t named bare style short => ?_⟩
    rw [result, named] at bare
    obtain rfl := Except.ok.inj bare
    exact s.reports_unnamed short

/-- The tag is found under the name of its reference or without a name, and nothing else differs in
what is told of it, of the commits, and of what they hold. -/
theorem names_measure_nothing_released : ∃ h s t,
    History.ofRepository .all true releasedRepository = .ok h ∧
    h.walk.stack = [⟨releaseTag, none, some "refs/tags/v1"⟩] ∧ h.unnamed = releasedHistory ∧
    (Survey.run h.stream none).result = .ok s ∧
    (Survey.run releasedHistory.stream none).result = .ok t ∧
    t = { s with rankings := s.rankings.withoutNames } ∧
    t.tableText .verbose .hash .standard = s.tableText .verbose .hash .standard := by
  have opened := History.ofRepository_single true rfl released_references chooses_tag
  have intact := released_selected ▸ released_intact
  obtain ⟨same, all⟩ := names_measure_nothing .all releasedRepository
  rw [released_opened, opened] at same
  have bare := (Except.ok.inj same).symm
  obtain ⟨unfailing, left⟩ := History.portrait_stream opened intact
  obtain ⟨s, fine⟩ := left.exists_summary intact unfailing rfl
  obtain ⟨_, _, _, surveys⟩ := all _ opened
  obtain ⟨_, result, reports⟩ := surveys none
  rw [bare, fine] at result
  have table := (reports s _ fine (bare ▸ result) .hash nofun).2 .verbose .standard
  exact ⟨_, s, _, opened, by simp [Walk.start], bare, fine, result, rfl, table.2⟩

end HistorySurvey.Git
