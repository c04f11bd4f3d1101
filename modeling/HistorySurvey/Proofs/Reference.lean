import HistorySurvey.Assembly.Measuring
import HistorySurvey.Proofs.Dependency

/-! Measures by recursion on what an object links to, without a shelf and without an order of
arrival. This is what an assembly has to agree with. -/
namespace HistorySurvey

/-- The kinds of objects that an object may link to. -/
def HistoryObject.Fits (kind : ObjectId → Option Kind) (object : HistoryObject) : Prop :=
  match object.kind with
  | .blob => True
  | .tree => ∀ child ∈ object.dependencies, kind child = some .blob ∨ kind child = some .tree
  | .commit => ∃ root parents, object.links = root :: parents ∧ kind root.target = some .tree ∧
      ∀ parent ∈ parents, kind parent.target = some .commit
  | .tag => object.links ≠ []

instance (kind : ObjectId → Option Kind) (object : HistoryObject) : Decidable (object.Fits kind) :=
  match known : object.kind with
  | .blob => .isTrue (by simp [HistoryObject.Fits, known])
  | .tree =>
    decidable_of_iff
      (∀ child ∈ object.dependencies, kind child = some .blob ∨ kind child = some .tree)
      (by simp [HistoryObject.Fits, known])
  | .commit =>
    match listed : object.links with
    | [] => .isFalse (by simp [HistoryObject.Fits, known, listed])
    | root :: parents =>
      decidable_of_iff
        (kind root.target = some .tree ∧ ∀ parent ∈ parents, kind parent.target = some .commit)
        (by simp [HistoryObject.Fits, known, listed])
  | .tag => decidable_of_iff (object.links ≠ []) (by simp [HistoryObject.Fits, known])

/-- The objects whose measures make up the measure of an object. -/
def HistoryObject.consulted (object : HistoryObject) : List ObjectId :=
  match object.kind with
  | .blob => []
  | .tree => object.dependencies
  | .commit => object.links.map Link.target
  | .tag => (object.links.take 1).map Link.target

theorem HistoryObject.Fits.mono {kind other : ObjectId → Option Kind} {object : HistoryObject}
    (fits : object.Fits kind)
    (agree : ∀ id ∈ object.consulted, ∀ k, kind id = some k → other id = some k) :
    object.Fits other := by
  unfold HistoryObject.Fits at fits ⊢
  unfold HistoryObject.consulted at agree
  cases kinds : object.kind with
  | blob => trivial
  | tree =>
    rw [kinds] at fits agree
    exact fun child member => (fits child member).imp (agree child member _) (agree child member _)
  | commit =>
    rw [kinds] at fits agree
    obtain ⟨root, parents, links, tree, commits⟩ := fits
    simp only [links, List.map_cons, List.forall_mem_cons, List.forall_mem_map] at agree
    exact ⟨root, parents, links, agree.1 _ tree,
      fun parent member => agree.2 parent member _ (commits parent member)⟩
  | tag =>
    rw [kinds] at fits
    exact fits

/-- A commit or a tag follows all its links. -/
def HistoryObject.Followed (object : HistoryObject) : Prop :=
  object.kind = .commit ∨ object.kind = .tag → ∀ link ∈ object.links, link.mode = .content

instance (object : HistoryObject) : Decidable object.Followed :=
  inferInstanceAs (Decidable (_ → _))

theorem HistoryObject.Followed.consulted_subset {object : HistoryObject}
    (followed : object.Followed) : object.consulted ⊆ object.dependencies := by
  have all (either : object.kind = .commit ∨ object.kind = .tag) :
      object.dependencies = object.links.map Link.target := by
    rw [HistoryObject.dependencies, List.filter_eq_self.mpr]
    intro link member
    simpa using followed either link member
  unfold HistoryObject.consulted
  cases kind : object.kind with
  | blob => exact List.nil_subset _
  | tree => exact List.Subset.refl _
  | commit => rw [all (.inl kind)]; exact List.Subset.refl _
  | tag =>
    rw [all (.inr kind)]
    exact List.map_subset _ (List.take_subset 1 object.links)

namespace Reference

/-- The part of a measure that a tree has. -/
def treePart : Measure → TreeMeasure
  | .tree m => m
  | _ => .ofEntryCount 0

def addEntry (figure : ObjectId → Measure) (m : TreeMeasure) (entry : Link) : TreeMeasure :=
  match entry.mode with
  | .symlink => m.addSymlink entry.segmentLength
  | .submodule => m.addSubmodule entry.segmentLength
  | .content =>
    match figure entry.target with
    | .blob size => m.addBlob entry.segmentLength size
    | other => m.addTree entry.segmentLength (treePart other)

def addParent (figure : ObjectId → Measure) (m : CommitMeasure) (parent : Link) : CommitMeasure :=
  match figure parent.target with
  | .commit measure => m.addParent measure
  | _ => m

/-- The measure of an object from the measures of the objects it links to. -/
def combine (figure : ObjectId → Measure) (object : HistoryObject) : Measure :=
  match object.kind, object.links with
  | .blob, _ => .blob (.ofNat object.size)
  | .tree, entries => .tree (entries.foldl (addEntry figure) (.ofEntryCount entries.length))
  | .commit, [] => .commit (.ofRoot default (.ofEntryCount 0))
  | .commit, root :: parents =>
    .commit (parents.foldl (addParent figure) (.ofRoot root.target (treePart (figure root.target))))
  | .tag, [] => .tag ⟨1, default⟩
  | .tag, target :: _ => .tag (.ofTarget target.target (figure target.target))

theorem kind_combine (figure : ObjectId → Measure) (object : HistoryObject) :
    (combine figure object).kind = object.kind := by
  unfold combine
  split <;> simp_all [Measure.kind]

private theorem foldl_addParent (figure : ObjectId → Measure) (parents : List Link)
    (m : CommitMeasure) : (parents.foldl (addParent figure) m).root = m.root ∧
      (parents.foldl (addParent figure) m).rootTree = m.rootTree := by
  induction parents generalizing m with
  | nil => exact ⟨rfl, rfl⟩
  | cons parent rest ih =>
    have kept : (addParent figure m parent).root = m.root ∧
        (addParent figure m parent).rootTree = m.rootTree := by
      unfold addParent
      split <;> exact ⟨rfl, rfl⟩
    exact ⟨(ih _).1.trans kept.1, (ih _).2.trans kept.2⟩

/-- The first link of a commit is its root, and it keeps the measure of the tree there. -/
theorem root_eq {figure : ObjectId → Measure} {kind : ObjectId → Option Kind}
    {object : HistoryObject} {m : CommitMeasure} (fits : object.Fits kind)
    (combined : combine figure object = .commit m) :
    ∃ root parents, object.links = root :: parents ∧ kind root.target = some .tree ∧
      m.root = root.target ∧ m.rootTree = treePart (figure root.target) := by
  have commit : object.kind = .commit := by
    rw [← kind_combine figure object, combined]
    rfl
  rw [HistoryObject.Fits, commit] at fits
  obtain ⟨root, parents, links, tree, _⟩ := fits
  rw [combine, commit, links] at combined
  obtain rfl := Measure.commit.inj combined
  exact ⟨root, parents, links, tree, foldl_addParent figure parents
    (.ofRoot root.target (treePart (figure root.target)))⟩

/-- The measure that an id stands for, when links are followed so many times. -/
def figureWithin (objects : List HistoryObject) : Nat → ObjectId → Measure
  | 0, _ => .blob 0
  | depth + 1, id =>
    match objects.find? (·.id = id) with
    | some object => combine (figureWithin objects depth) object
    | none => .blob 0

/-- The measure that an id stands for. No way of links without a repetition is longer than the
list. -/
def figure (objects : List HistoryObject) : ObjectId → Measure :=
  figureWithin objects objects.length

/-- The kind of the object that an id stands for. -/
def kindIn (objects : List HistoryObject) (id : ObjectId) : Option Kind :=
  (objects.find? (·.id = id)).map HistoryObject.kind

/-- Every distinct object links to objects of the kinds it needs. -/
def WellKinded (objects : List HistoryObject) : Prop :=
  ∀ object ∈ ObjectStream.firstOccurrences objects, object.Fits (kindIn objects)

theorem WellKinded.of_forall {objects : List HistoryObject}
    (all : ∀ object ∈ objects, object.Fits (kindIn objects)) : WellKinded objects :=
  fun object member => all object (ObjectStream.mem_of_mem_firstOccurrences member)

private theorem addEntry_congr {f g : ObjectId → Measure} (m : TreeMeasure) (entry : Link)
    (same : entry.mode = .content → f entry.target = g entry.target) :
    addEntry f m entry = addEntry g m entry := by
  unfold addEntry
  cases mode : entry.mode with
  | symlink => rfl
  | submodule => rfl
  | content => rw [same mode]

private theorem addParent_congr {f g : ObjectId → Measure} (m : CommitMeasure) (parent : Link)
    (same : f parent.target = g parent.target) : addParent f m parent = addParent g m parent := by
  rw [addParent, addParent, same]

theorem combine_congr {f g : ObjectId → Measure} {object : HistoryObject}
    (same : ∀ child ∈ object.consulted, f child = g child) :
    combine f object = combine g object := by
  unfold HistoryObject.consulted at same
  unfold combine
  cases kind : object.kind with
  | blob => rfl
  | tree =>
    rw [kind] at same
    refine congrArg Measure.tree (List.foldl_ext _ _ _ fun m entry member => ?_)
    refine addEntry_congr m entry fun content => same _ ?_
    exact List.mem_map.mpr ⟨entry, List.mem_filter.mpr ⟨member, by simpa using content⟩, rfl⟩
  | commit =>
    rw [kind] at same
    cases links : object.links with
    | nil => rfl
    | cons root parents =>
      rw [links] at same
      simp only
      rw [same root.target (by simp)]
      refine congrArg Measure.commit (List.foldl_ext _ _ _ fun m parent member => ?_)
      exact addParent_congr m parent (same _ (by simp [List.mem_map_of_mem member]))
  | tag =>
    rw [kind] at same
    cases links : object.links with
    | nil => rfl
    | cons target rest =>
      rw [links] at same
      simp only
      rw [same target.target (by simp)]

end Reference

/-- The measures on a shelf, for objects that have one there. -/
def Shelf.figure (s : Shelf) (id : ObjectId) : Measure := (s.get? id).getD (.blob 0)

def Shelf.kindOf (s : Shelf) (id : ObjectId) : Option Kind := (s.get? id).map Measure.kind

namespace Assembly

/-- A fold fails at the first item that is not good, and otherwise folds plainly. -/
private theorem foldlM_ok_iff {α β ε : Type} {step : β → α → Except ε β} {good : α → Prop}
    {next : β → α → β} (spec : ∀ b a c, step b a = .ok c ↔ good a ∧ c = next b a)
    (items : List α) (b c : β) :
    items.foldlM step b = .ok c ↔ (∀ a ∈ items, good a) ∧ c = items.foldl next b := by
  induction items generalizing b with
  | nil =>
    simp only [List.foldlM_nil, pure, Except.pure, Except.ok.injEq, List.not_mem_nil, false_implies,
      implies_true, true_and, List.foldl_nil]
    exact eq_comm
  | cons item rest ih =>
    rw [List.foldlM_cons, List.foldl_cons, List.forall_mem_cons]
    cases stepped : step b item with
    | error error =>
      refine ⟨fun failed => by simp [bind, Except.bind] at failed, fun both => ?_⟩
      have fine := (spec b item (next b item)).mpr ⟨both.1.1, rfl⟩
      rw [stepped] at fine
      contradiction
    | ok d =>
      obtain ⟨fine, rfl⟩ := (spec b item d).mp stepped
      simp only [bind, Except.bind]
      rw [ih, and_assoc]
      exact ⟨fun rest => ⟨fine, rest⟩, fun all => all.2⟩

private theorem addEntry_ok_iff (s : Shelf) (object : HistoryObject) (m : TreeMeasure)
    (entry : Link) (result : TreeMeasure) :
    addEntry s object m entry = .ok result ↔
      (entry.mode = .content →
        s.kindOf entry.target = some .blob ∨ s.kindOf entry.target = some .tree) ∧
      result = Reference.addEntry s.figure m entry := by
  unfold addEntry Reference.addEntry
  cases mode : entry.mode with
  | symlink => simp [eq_comm]
  | submodule => simp [eq_comm]
  | content =>
    simp only [lookup, Shelf.kindOf, Shelf.figure, forall_const]
    cases found : s.get? entry.target with
    | none => simp [bind, Except.bind]
    | some x => cases x <;> simp [bind, Except.bind, Measure.kind, Reference.treePart, eq_comm]

private theorem measureTree_ok_iff (s : Shelf) (object : HistoryObject) (result : TreeMeasure) :
    measureTree s object = .ok result ↔
      (∀ child ∈ object.dependencies, s.kindOf child = some .blob ∨ s.kindOf child = some .tree) ∧
      result = object.links.foldl (Reference.addEntry s.figure)
        (.ofEntryCount object.links.length) := by
  rw [measureTree, foldlM_ok_iff (addEntry_ok_iff s object)]
  refine and_congr_left fun _ => ?_
  simp only [HistoryObject.dependencies, List.mem_map, List.mem_filter, decide_eq_true_eq]
  constructor
  · rintro good child ⟨entry, ⟨member, content⟩, rfl⟩
    exact good entry member content
  · intro good entry member content
    exact good _ ⟨entry, ⟨member, content⟩, rfl⟩

private theorem addParent_ok_iff (s : Shelf) (object : HistoryObject) (m : CommitMeasure)
    (parent : Link) (result : CommitMeasure) :
    addParent s object m parent = .ok result ↔
      s.kindOf parent.target = some .commit ∧ result = Reference.addParent s.figure m parent := by
  simp only [addParent, Reference.addParent, lookup, Shelf.kindOf, Shelf.figure]
  cases found : s.get? parent.target with
  | none => simp [bind, Except.bind]
  | some x => cases x <;> simp [bind, Except.bind, Measure.kind, eq_comm]

private theorem measureCommit_ok_iff (s : Shelf) (object : HistoryObject) (root : Link)
    (parents : List Link) (links : object.links = root :: parents) (result : CommitMeasure) :
    measureCommit s object = .ok result ↔
      s.kindOf root.target = some .tree ∧
      (∀ parent ∈ parents, s.kindOf parent.target = some .commit) ∧
      result = parents.foldl (Reference.addParent s.figure)
        (.ofRoot root.target (Reference.treePart (s.figure root.target))) := by
  rw [measureCommit, links]
  simp only [lookup, Shelf.kindOf, Shelf.figure]
  cases found : s.get? root.target with
  | none => simp [bind, Except.bind]
  | some x =>
    cases x with
    | tree tree =>
      simp only [bind, Except.bind, Option.map_some, Measure.kind, Option.getD_some, true_and,
        Reference.treePart]
      exact foldlM_ok_iff (addParent_ok_iff s object) parents _ result
    | _ => simp [bind, Except.bind, Measure.kind]

/-- An object gets a measure exactly if the measures it is made of are there and of the right
kinds, and it is the one that they combine to. -/
theorem measure_ok_iff (s : Shelf) (object : HistoryObject) (m : Measure) :
    measure s object = .ok m ↔
      (∀ child ∈ object.consulted, (s.get? child).isSome = true) ∧ object.Fits s.kindOf ∧
      m = Reference.combine s.figure object := by
  have present {child : ObjectId} {kind : Kind} (known : s.kindOf child = some kind) :
      (s.get? child).isSome = true := by
    obtain ⟨x, found, _⟩ := Option.map_eq_some_iff.mp known
    rw [found]; rfl
  unfold measure HistoryObject.consulted HistoryObject.Fits Reference.combine
  cases kind : object.kind with
  | blob =>
    simp only [Except.ok.injEq, List.not_mem_nil, false_implies, implies_true, true_and]
    exact eq_comm
  | tree =>
    simp only [Functor.map]
    constructor
    · intro measured
      cases computed : measureTree s object with
      | error error => simp [computed, Except.map] at measured
      | ok tree =>
        simp only [computed, Except.map, Except.ok.injEq] at measured
        obtain ⟨good, rfl⟩ := (measureTree_ok_iff s object tree).mp computed
        exact ⟨fun child member => (good child member).elim present present, good, measured.symm⟩
    · rintro ⟨_, good, rfl⟩
      rw [(measureTree_ok_iff s object _).mpr ⟨good, rfl⟩]
      rfl
  | commit =>
    simp only [Functor.map]
    cases links : object.links with
    | nil => simp [measureCommit, links, Except.map]
    | cons root parents =>
      constructor
      · intro measured
        cases computed : measureCommit s object with
        | error error => simp [computed, Except.map] at measured
        | ok commit =>
          simp only [computed, Except.map, Except.ok.injEq] at measured
          obtain ⟨tree, commits, rfl⟩ :=
            (measureCommit_ok_iff s object root parents links commit).mp computed
          refine ⟨?_, ⟨root, parents, rfl, tree, commits⟩, measured.symm⟩
          simp only [List.map_cons, List.forall_mem_cons, List.forall_mem_map]
          exact ⟨present tree, fun parent member => present (commits parent member)⟩
      · rintro ⟨_, ⟨root', parents', same, tree, commits⟩, rfl⟩
        obtain ⟨rfl, rfl⟩ := List.cons.inj same
        rw [(measureCommit_ok_iff s object root parents links _).mpr ⟨tree, commits, rfl⟩]
        rfl
  | tag =>
    simp only [Functor.map, measureTag]
    cases links : object.links with
    | nil => simp [Except.map]
    | cons target rest =>
      simp only [lookup, Shelf.figure, List.take_succ_cons, List.take_zero, List.map_cons,
        List.map_nil, List.forall_mem_singleton, ne_eq, reduceCtorEq, not_false_eq_true, true_and]
      cases found : s.get? target.target with
      | none => simp [bind, Except.bind, Except.map]
      | some x => simp [bind, Except.bind, Except.map, eq_comm]

private theorem foldlM_congr {α β ε : Type} {f g : β → α → Except ε β} (items : List α) (b : β)
    (same : ∀ item ∈ items, ∀ b, f b item = g b item) : items.foldlM f b = items.foldlM g b := by
  induction items generalizing b with
  | nil => rfl
  | cons item rest ih =>
    rw [List.foldlM_cons, List.foldlM_cons, same item List.mem_cons_self]
    refine congrArg _ (funext fun d => ?_)
    exact ih d fun other member => same other (List.mem_cons_of_mem _ member)

/-- Only the measures that an object is made of decide how measuring it ends, failures included. -/
theorem measure_congr {s t : Shelf} {object : HistoryObject}
    (same : ∀ child ∈ object.consulted, s.get? child = t.get? child) :
    measure s object = measure t object := by
  have found (child : ObjectId) (member : child ∈ object.consulted) :
      lookup s object child = lookup t object child := by
    rw [lookup, lookup, same child member]
  unfold HistoryObject.consulted at found
  unfold measure
  cases kind : object.kind with
  | blob => rfl
  | tree =>
    rw [kind] at found
    refine congrArg (Measure.tree <$> ·) (foldlM_congr object.links _ fun entry member m => ?_)
    unfold addEntry
    cases mode : entry.mode with
    | symlink => rfl
    | submodule => rfl
    | content =>
      have inside : entry.target ∈ object.dependencies :=
        List.mem_map.mpr ⟨entry, List.mem_filter.mpr ⟨member, by simpa using mode⟩, rfl⟩
      simp only [found entry.target inside]
  | commit =>
    rw [kind] at found
    simp only [measureCommit]
    cases links : object.links with
    | nil => rfl
    | cons root parents =>
      rw [links] at found
      simp only
      rw [found root.target (by simp)]
      refine congrArg (fun next => Measure.commit <$> (lookup t object root.target >>= next))
        (funext fun tree => ?_)
      cases tree with
      | tree tree =>
        refine foldlM_congr parents _ fun parent member m => ?_
        simp only [addParent]
        rw [found parent.target (by simp [List.mem_map_of_mem member])]
      | _ => rfl
  | tag =>
    rw [kind] at found
    simp only [measureTag]
    cases links : object.links with
    | nil => rfl
    | cons target rest =>
      rw [links] at found
      simp only
      rw [found target.target (by simp)]

/-! An object that cannot be measured says why. No measure is missed that is on the shelf, and no
error is about the absence of another object. -/

private theorem bind_error {ε α β : Type} {x : Except ε α} {next : α → Except ε β} {error : ε}
    (failed : (x >>= next) = .error error) : x = .error error ∨ ∃ a, next a = .error error := by
  cases x with
  | error first => exact .inl (congrArg Except.error (Except.error.inj failed))
  | ok a => exact .inr ⟨a, failed⟩

private theorem map_error {ε α β : Type} {x : Except ε α} {f : α → β} {error : ε}
    (failed : f <$> x = .error error) : x = .error error := by
  cases x with
  | error first => exact congrArg Except.error (Except.error.inj failed)
  | ok a => contradiction

private theorem foldlM_error {ε α β : Type} {step : β → α → Except ε β} {items : List α} {b : β}
    {error : ε} (failed : items.foldlM step b = .error error) :
    ∃ item ∈ items, ∃ c, step c item = .error error := by
  induction items generalizing b with
  | nil => contradiction
  | cons item rest ih =>
    rw [List.foldlM_cons] at failed
    rcases bind_error failed with here | ⟨c, later⟩
    · exact ⟨item, List.mem_cons_self, b, here⟩
    · obtain ⟨other, member, d, wrong⟩ := ih later
      exact ⟨other, List.mem_cons_of_mem _ member, d, wrong⟩

/-- Errors that say that an object cannot be measured. -/
def Unmeasurable (object : HistoryObject) (error : SurveyError) : Prop :=
  (∃ child, error = .breach (.unmeasured object.kind object.id child)) ∨
  (∃ child expected found, error = .unexpectedKind child object.id expected found) ∨
  ∃ defect, error = .source (.malformed object.id defect)

section
variable {s : Shelf} {object : HistoryObject} {error : SurveyError}

private theorem lookup_error {child : ObjectId} (failed : lookup s object child = .error error) :
    s.get? child = none ∧ error = .breach (.unmeasured object.kind object.id child) := by
  unfold lookup at failed
  split at failed
  · contradiction
  · exact ⟨‹_›, (Except.error.inj failed).symm⟩

private theorem addEntry_error {m : TreeMeasure} {entry : Link}
    (failed : addEntry s object m entry = .error error) :
    Unmeasurable object error ∧
      ∀ cause, error = .breach cause → entry.mode = .content ∧ s.get? entry.target = none := by
  unfold addEntry at failed
  cases mode : entry.mode with
  | symlink => rw [mode] at failed; contradiction
  | submodule => rw [mode] at failed; contradiction
  | content =>
    rw [mode] at failed
    rcases bind_error failed with missing | ⟨found, wrong⟩
    · obtain ⟨absent, rfl⟩ := lookup_error missing
      exact ⟨.inl ⟨_, rfl⟩, fun _ _ => ⟨rfl, absent⟩⟩
    · split at wrong
      · contradiction
      · contradiction
      · obtain rfl := Except.error.inj wrong
        exact ⟨.inr (.inl ⟨_, _, _, rfl⟩), fun _ => nofun⟩

private theorem addParent_error {m : CommitMeasure} {parent : Link}
    (failed : addParent s object m parent = .error error) :
    Unmeasurable object error ∧ ∀ cause, error = .breach cause → s.get? parent.target = none := by
  unfold addParent at failed
  rcases bind_error failed with missing | ⟨found, wrong⟩
  · obtain ⟨absent, rfl⟩ := lookup_error missing
    exact ⟨.inl ⟨_, rfl⟩, fun _ _ => absent⟩
  · split at wrong
    · contradiction
    · obtain rfl := Except.error.inj wrong
      exact ⟨.inr (.inl ⟨_, _, _, rfl⟩), fun _ => nofun⟩

private theorem measureTree_error (failed : measureTree s object = .error error) :
    Unmeasurable object error ∧
      ∀ cause, error = .breach cause → ∃ child ∈ object.dependencies, s.get? child = none := by
  obtain ⟨entry, member, m, wrong⟩ := foldlM_error failed
  obtain ⟨reason, breach⟩ := addEntry_error wrong
  refine ⟨reason, fun cause same => ?_⟩
  obtain ⟨content, absent⟩ := breach cause same
  refine ⟨entry.target, List.mem_map_of_mem (List.mem_filter.mpr ⟨member, ?_⟩), absent⟩
  simp [content]

private theorem measureCommit_error (failed : measureCommit s object = .error error) :
    Unmeasurable object error ∧
      ∀ cause, error = .breach cause → ∃ link ∈ object.links, s.get? link.target = none := by
  unfold measureCommit at failed
  cases links : object.links with
  | nil =>
    rw [links] at failed
    obtain rfl := Except.error.inj failed
    exact ⟨.inr (.inr ⟨_, rfl⟩), fun _ => nofun⟩
  | cons root parents =>
    rw [links] at failed
    rcases bind_error failed with missing | ⟨found, wrong⟩
    · obtain ⟨absent, rfl⟩ := lookup_error missing
      exact ⟨.inl ⟨_, rfl⟩, fun _ _ => ⟨root, List.mem_cons_self, absent⟩⟩
    · split at wrong
      · obtain ⟨parent, member, m, wrong⟩ := foldlM_error wrong
        obtain ⟨reason, breach⟩ := addParent_error wrong
        exact ⟨reason, fun cause same =>
          ⟨parent, List.mem_cons_of_mem root member, breach cause same⟩⟩
      · obtain rfl := Except.error.inj wrong
        exact ⟨.inr (.inl ⟨_, _, _, rfl⟩), fun _ => nofun⟩

private theorem measureTag_error (failed : measureTag s object = .error error) :
    Unmeasurable object error ∧
      ∀ cause, error = .breach cause → ∃ link ∈ object.links.take 1, s.get? link.target = none := by
  unfold measureTag at failed
  cases links : object.links with
  | nil =>
    rw [links] at failed
    obtain rfl := Except.error.inj failed
    exact ⟨.inr (.inr ⟨_, rfl⟩), fun _ => nofun⟩
  | cons target rest =>
    rw [links] at failed
    rcases bind_error failed with missing | ⟨found, wrong⟩
    · obtain ⟨absent, rfl⟩ := lookup_error missing
      exact ⟨.inl ⟨_, rfl⟩, fun _ _ => ⟨target, List.mem_cons_self, absent⟩⟩
    · contradiction

theorem measure_error (failed : measure s object = .error error) :
    Unmeasurable object error ∧
      ∀ cause, error = .breach cause → ∃ child ∈ object.consulted, s.get? child = none := by
  unfold measure at failed
  unfold HistoryObject.consulted
  cases kind : object.kind with
  | blob => rw [kind] at failed; contradiction
  | tree =>
    rw [kind] at failed
    exact measureTree_error (map_error failed)
  | commit =>
    rw [kind] at failed
    simpa only [List.mem_map, exists_exists_and_eq_and] using measureCommit_error (map_error failed)
  | tag =>
    rw [kind] at failed
    simpa only [List.mem_map, exists_exists_and_eq_and] using measureTag_error (map_error failed)

end

end Assembly

end HistorySurvey
