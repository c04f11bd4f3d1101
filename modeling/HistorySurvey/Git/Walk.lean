import HistorySurvey.Git.Repository
import HistorySurvey.Object.Name
import HistorySurvey.References.Filter
import HistorySurvey.Stream
import HistorySurvey.Text.Utf8

/-! The walk through everything that the chosen references lead to, each object once. Objects are
taken from a stack, so the first link of an object is followed before the others. -/
namespace HistorySurvey.Git

/-- An object found and not read yet. The kind is the one that its link states; the object of a
reference has none before it is read. -/
structure Discovery where
  id : ObjectId
  kind : Option Kind
  name : Option String
  deriving DecidableEq

structure Walk where
  /-- The stored objects that were not read yet. -/
  unread : Std.HashMap ObjectId StoredObject
  stack : List Discovery
  found : Std.HashMap ObjectId Unit
  /-- The length of the last content read as a tree, commit or tag. -/
  lastLength : Nat

namespace Walk

def discover (w : Walk) (discovery : Discovery) : Walk :=
  if w.found.contains discovery.id then w
  else { w with
    found := w.found.insert discovery.id ()
    stack := discovery :: w.stack }

/-- Discovers objects so that the first of them comes next. -/
def discoverAll (w : Walk) (discoveries : List Discovery) : Walk :=
  discoveries.reverse.foldl discover w

def start (store : Std.HashMap ObjectId StoredObject) (roots : List (String × ObjectId))
    (named : Bool) : Walk :=
  let distinct := (roots.foldl (fun (state : Std.HashMap ObjectId Unit × List Discovery) root =>
    if state.1.contains root.2 then state
    else (state.1.insert root.2 (),
      ⟨root.2, none, if named then some root.1 else none⟩ :: state.2)) (∅, [])
  )
  { unread := store, stack := distinct.2.reverse, found := distinct.1, lastLength := 0 }

def linkOf (entry : TreeEntry) : Link :=
  { target := entry.target
    segment := some entry.name
    mode := match entry.kind with
      | .symlink => .symlink
      | .submodule => .submodule
      | .file | .tree => .content }

/-- What an entry leads to. A submodule is part of another history. -/
def discoveryOf? (tree : Option String) (entry : TreeEntry) : Option Discovery :=
  let found (kind : Kind) : Option Discovery :=
    some ⟨entry.target, some kind,
      tree.map fun tree => Object.entryName tree (Text.lossyUtf8 entry.name)⟩
  match entry.kind with
  | .submodule => none
  | .tree => found .tree
  | .symlink | .file => found .blob

def parentDiscoveries (commit : Option String) (parents : List ObjectId) : List Discovery :=
  parents.mapIdx fun index parent =>
    ⟨parent, some .commit, commit.map fun commit => Object.parentName commit index⟩

structure Reading where
  object : HistoryObject
  next : List Discovery
  length : Nat

/-- Reads an object as the kind that its link states. A blob is not looked into, so anything can be
read as one. The empty tree has no content of its own to measure, and takes the length of the last
content read before it. -/
def read? (lastLength : Nat) (item : Discovery) (stored : StoredObject) : Option Reading :=
  let length := stored.content.length
  match item.kind.getD stored.kind with
  | .blob => some ⟨.blob item.id length, [], lastLength⟩
  | .tree => do
    let length := if item.id = emptyTree then lastLength else length
    if stored.kind ≠ .tree then none
    else
      let entries ← treeEntries? stored.content
      some ⟨.tree item.id length (entries.map linkOf),
        entries.filterMap (discoveryOf? item.name), length⟩
  | .commit => do
    if stored.kind ≠ .commit then none
    else
      let (root, parents) ← commitLinks? stored.content
      some ⟨.commit item.id length root parents,
        ⟨root, some .tree, item.name.map Object.rootTreeName⟩
          :: parentDiscoveries item.name parents, length⟩
  | .tag => do
    if stored.kind ≠ .tag then none
    else
      let (target, kind) ← tagTarget? stored.content
      some ⟨.tag item.id length target,
        [⟨target, some kind, item.name.map Object.tagTargetName⟩], length⟩

/-- The object read next, and the walk after it. An object is found once, so it is read once. -/
def next (w : Walk) : Except SourceError (Option (HistoryObject × Walk)) :=
  match w.stack with
  | [] => .ok none
  | item :: rest =>
    match w.unread[item.id]? with
    | none => .error (.unreadable item.id)
    | some stored =>
      match read? w.lastLength item stored with
      | none => .error (.unreadable item.id)
      | some reading =>
        let object := { reading.object with name := item.name }
        let after : Walk :=
          { w with
            unread := w.unread.erase item.id
            stack := rest
            lastLength := reading.length }
        .ok (some (object, after.discoverAll reading.next))

theorem unread_discover (w : Walk) (discovery : Discovery) :
    (w.discover discovery).unread = w.unread := by
  unfold discover
  split <;> rfl

theorem unread_discoverAll (w : Walk) (discoveries : List Discovery) :
    (w.discoverAll discoveries).unread = w.unread := by
  unfold discoverAll
  generalize discoveries.reverse = items
  induction items generalizing w with
  | nil => rfl
  | cons first others ih => rw [List.foldl_cons, ih, unread_discover]

/-- Each step reads an object that was not read before. -/
theorem unread_next {w after : Walk} {object : HistoryObject}
    (step : w.next = .ok (some (object, after))) : after.unread.size < w.unread.size := by
  unfold next at step
  split at step
  · cases step
  · rename_i item rest _
    split at step
    · cases step
    · rename_i stored present
      split at step
      · cases step
      · simp only [Except.ok.injEq, Option.some.injEq, Prod.mk.injEq] at step
        rw [← step.2, unread_discoverAll]
        have member : item.id ∈ w.unread := by
          rw [Std.HashMap.mem_iff_isSome_getElem?, present]; rfl
        have positive : 0 < w.unread.size :=
          Nat.pos_of_ne_zero fun none => by
            have bare : w.unread.isEmpty = true := by
              rw [Std.HashMap.isEmpty_eq_size_eq_zero, none]; rfl
            exact Std.HashMap.isEmpty_iff_forall_not_mem.mp bare _ member
        simp only [Std.HashMap.size_erase, member, if_true]
        omega

/-- Walks to the end: the objects read after those given, the last one first, and what stopped the
walk. -/
def drain (read : List HistoryObject) (w : Walk) : List HistoryObject × Option SourceError :=
  match _step : w.next with
  | .error error => (read, some error)
  | .ok none => (read, none)
  | .ok (some (object, after)) => drain (object :: read) after
termination_by w.unread.size
decreasing_by exact unread_next _step

def objects (w : Walk) : List HistoryObject × Option SourceError :=
  let (read, stopped) := w.drain []
  (read.reverse, stopped)

end Walk

structure History where
  selection : List (String × Bool)
  walk : Walk

namespace History

/-- Opens a repository. Names are derived only if they are wanted. -/
def ofRepository (filter : References.Filter) (named : Bool) (r : Repository) :
    Except SourceError History :=
  if r.shallow then .error .shallow
  else do
    let references ← r.references
    let chosen := references.filter fun reference => filter.chooses reference.1
    .ok { selection := references.map fun reference =>
            (reference.1, filter.chooses reference.1)
          walk := .start r.store chosen named }

def ofPath (filter : References.Filter) (named : Bool) (path : String) :
    Option Repository → Except SourceError History
  | some repository => ofRepository filter named repository
  | none => .error (.cannotOpen path)

def references (h : History) : List String :=
  (h.selection.filter Prod.snd).map Prod.fst

/-- The walk as a stream. Nothing is known about links beforehand. -/
def stream (h : History) : ObjectStream :=
  let (objects, failure) := h.walk.objects
  { references := h.references, objects := objects, failure := failure, hints := fun _ => none }

end History

end HistorySurvey.Git
