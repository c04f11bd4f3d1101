import Mathlib.Data.Set.Finite.List
import Mathlib.Logic.Relation
import HistorySurvey.Git.Walk

/-! What stored objects lead to, and what a walk makes of them. An object says what it leads to by
its own content; a walk reads it as the kind that a link to it states. -/
namespace HistorySurvey

/-- What a walk goes on to from an object. Submodules belong to other histories. -/
def HistoryObject.followed (object : HistoryObject) : List ObjectId :=
  (object.links.filter (·.mode ≠ .submodule)).map Link.target

theorem HistoryObject.dependencies_subset_followed (object : HistoryObject) :
    object.dependencies ⊆ object.followed := by
  refine List.map_subset _ fun link member => ?_
  obtain ⟨listed, content⟩ := List.mem_filter.mp member
  refine List.mem_filter.mpr ⟨listed, ?_⟩
  simp [of_decide_eq_true content]

namespace Git

abbrev Store := Std.HashMap ObjectId StoredObject

def TreeEntry.lead? (entry : TreeEntry) : Option (ObjectId × Kind) :=
  match entry.kind with
  | .submodule => none
  | .tree => some (entry.target, .tree)
  | .symlink | .file => some (entry.target, .blob)

theorem followed_entries (entries : List TreeEntry) :
    ((entries.map Walk.linkOf).filter (·.mode ≠ .submodule)).map Link.target =
      (entries.filterMap TreeEntry.lead?).map Prod.fst := by
  induction entries with
  | nil => rfl
  | cons entry rest ih =>
    cases kind : entry.kind <;> simpa [Walk.linkOf, TreeEntry.lead?, kind] using ih

theorem discoveries_entries (tree : Option String) (entries : List TreeEntry) :
    (entries.filterMap (Walk.discoveryOf? tree)).map (fun d => (d.id, d.kind)) =
      (entries.filterMap TreeEntry.lead?).map fun lead => (lead.1, some lead.2) := by
  induction entries with
  | nil => rfl
  | cons entry rest ih =>
    cases kind : entry.kind <;> simpa [Walk.discoveryOf?, TreeEntry.lead?, kind] using ih

theorem discoveries_parents (commit : Option String) (parents : List ObjectId) :
    (Walk.parentDiscoveries commit parents).map (fun d => (d.id, d.kind)) =
      parents.map fun parent => (parent, some .commit) := by
  apply List.ext_getElem
  · simp [Walk.parentDiscoveries]
  · intro place left right
    simp [Walk.parentDiscoveries]

namespace StoredObject

def describe? (stored : StoredObject) (id : ObjectId) : Option HistoryObject :=
  let size := stored.content.length
  match stored.kind with
  | .blob => some (.blob id size)
  | .tree => (treeEntries? stored.content).map fun entries =>
    .tree id size (entries.map Walk.linkOf)
  | .commit => (commitLinks? stored.content).map fun links => .commit id size links.1 links.2
  | .tag => (tagTarget? stored.content).map fun target => .tag id size target.1

/-- The ids that a stored object leads to, with the kinds that it states for them. -/
def leads (stored : StoredObject) : List (ObjectId × Kind) :=
  match stored.kind with
  | .blob => []
  | .tree => ((treeEntries? stored.content).getD []).filterMap TreeEntry.lead?
  | .commit => ((commitLinks? stored.content).map fun links =>
    (links.1, Kind.tree) :: links.2.map fun parent => (parent, .commit)).getD []
  | .tag => (tagTarget? stored.content).toList

variable {stored : StoredObject} {id : ObjectId} {object : HistoryObject}

theorem frame_of_describe? (described : stored.describe? id = some object) :
    object.id = id ∧ object.kind = stored.kind ∧ object.size = stored.content.length := by
  unfold describe? at described
  cases kind : stored.kind with
  | blob =>
    rw [kind] at described
    obtain rfl := Option.some.inj described
    exact ⟨rfl, rfl, rfl⟩
  | _ =>
    simp only [kind] at described
    obtain ⟨_, _, rfl⟩ := Option.map_eq_some_iff.mp described
    exact ⟨rfl, rfl, rfl⟩

theorem followed_of_describe? (described : stored.describe? id = some object) :
    object.followed = stored.leads.map Prod.fst := by
  unfold describe? at described
  unfold leads
  cases kind : stored.kind with
  | blob =>
    rw [kind] at described
    obtain rfl := Option.some.inj described
    rfl
  | tree =>
    simp only [kind] at described
    obtain ⟨entries, read, rfl⟩ := Option.map_eq_some_iff.mp described
    rw [read]
    exact followed_entries entries
  | commit =>
    simp only [kind] at described
    obtain ⟨links, read, rfl⟩ := Option.map_eq_some_iff.mp described
    simp [read, HistoryObject.followed, HistoryObject.commit, Link.toObject, Function.comp_def,
      List.filter_map]
  | tag =>
    simp only [kind] at described
    obtain ⟨target, read, rfl⟩ := Option.map_eq_some_iff.mp described
    simp [read, HistoryObject.followed, HistoryObject.tag, Link.toObject]

end StoredObject

/-- The same object but for a name and, if it is the empty tree, a size. -/
structure Portrays (object original : HistoryObject) : Prop where
  id : object.id = original.id
  kind : object.kind = original.kind
  links : object.links = original.links
  size : object.size = original.size ∨ object.kind = .tree ∧ object.id = emptyTree

/-- An object is the one stored under its id. -/
def Genuine (store : Store) (object : HistoryObject) : Prop :=
  ∃ stored original, store[object.id]? = some stored ∧
    stored.describe? object.id = some original ∧ Portrays object original

theorem Portrays.followed {object original : HistoryObject} (portrays : Portrays object original) :
    object.followed = original.followed := by
  rw [HistoryObject.followed, portrays.links]
  rfl

namespace Walk

variable {n : Nat} {item : Discovery} {stored : StoredObject} {reading : Reading}

/-- A reading is of the stored object, unless it is read as a blob and not looked into. -/
theorem read?_eq (read : read? n item stored = some reading) :
    (item.kind.getD stored.kind = .blob ∧
      reading.object = .blob item.id stored.content.length ∧ reading.next = []) ∨
    ∃ original, item.kind.getD stored.kind = stored.kind ∧
      stored.describe? item.id = some original ∧ Portrays reading.object original ∧
      reading.next.map (fun d => (d.id, d.kind)) =
        stored.leads.map fun lead => (lead.1, some lead.2) := by
  unfold read? at read
  cases kind : item.kind.getD stored.kind with
  | blob =>
    rw [kind] at read
    obtain rfl := Option.some.inj read
    exact .inl ⟨rfl, rfl, rfl⟩
  | tree =>
    right
    simp only [kind] at read
    split at read
    · contradiction
    · rename_i same
      rw [not_not] at same
      obtain ⟨entries, found, made⟩ := Option.bind_eq_some_iff.mp read
      obtain rfl := Option.some.inj made
      refine ⟨.tree item.id stored.content.length (entries.map linkOf), same.symm, ?_, ?_, ?_⟩
      · simp [StoredObject.describe?, same, found]
      · refine ⟨rfl, rfl, rfl, ?_⟩
        by_cases bare : item.id = emptyTree
        · exact .inr ⟨rfl, bare⟩
        · exact .inl (if_neg bare)
      · simp only [StoredObject.leads, same, found]
        exact discoveries_entries item.name entries
  | commit =>
    right
    simp only [kind] at read
    split at read
    · contradiction
    · rename_i same
      rw [not_not] at same
      obtain ⟨⟨root, parents⟩, found, made⟩ := Option.bind_eq_some_iff.mp read
      obtain rfl := Option.some.inj made
      refine ⟨.commit item.id stored.content.length root parents, same.symm, ?_, ?_, ?_⟩
      · simp [StoredObject.describe?, same, found]
      · exact ⟨rfl, rfl, rfl, .inl rfl⟩
      · simp only [StoredObject.leads, same, found]
        simp [discoveries_parents]
  | tag =>
    right
    simp only [kind] at read
    split at read
    · contradiction
    · rename_i same
      rw [not_not] at same
      obtain ⟨⟨target, stated⟩, found, made⟩ := Option.bind_eq_some_iff.mp read
      obtain rfl := Option.some.inj made
      refine ⟨.tag item.id stored.content.length target, same.symm, ?_, ?_, ?_⟩
      · simp [StoredObject.describe?, same, found]
      · exact ⟨rfl, rfl, rfl, .inl rfl⟩
      · simp [StoredObject.leads, same, found]

theorem id_of_read? (read : read? n item stored = some reading) : reading.object.id = item.id := by
  rcases read?_eq read with ⟨_, blob, _⟩ | ⟨original, _, described, portrays, _⟩
  · rw [blob]
    rfl
  · rw [portrays.id, (StoredObject.frame_of_describe? described).1]

theorem followed_of_read? (read : read? n item stored = some reading) :
    reading.object.followed = reading.next.map Discovery.id := by
  rcases read?_eq read with ⟨_, blob, nothing⟩ | ⟨original, _, described, portrays, next⟩
  · rw [blob, nothing]
    rfl
  · rw [portrays.followed, StoredObject.followed_of_describe? described]
    simpa [Function.comp_def] using (congrArg (List.map Prod.fst) next).symm

theorem lead_of_read? (read : read? n item stored = some reading) {d : Discovery}
    (next : d ∈ reading.next) : ∃ kind, d.kind = some kind ∧ (d.id, kind) ∈ stored.leads := by
  rcases read?_eq read with ⟨_, _, nothing⟩ | ⟨original, _, _, _, same⟩
  · rw [nothing] at next
    contradiction
  · have member := List.mem_map_of_mem next (f := fun d : Discovery => (d.id, d.kind))
    rw [same] at member
    obtain ⟨⟨target, kind⟩, listed, equal⟩ := List.mem_map.mp member
    obtain ⟨rfl, stated⟩ := Prod.mk.inj equal
    exact ⟨kind, stated.symm, listed⟩

/-- Read as the kind that it is, an object is the stored one. -/
theorem portrays_of_read? (read : read? n item stored = some reading)
    (kind : item.kind.getD stored.kind = stored.kind) :
    ∃ original, stored.describe? item.id = some original ∧ Portrays reading.object original := by
  rcases read?_eq read with ⟨blob, same, _⟩ | ⟨original, _, described, portrays, _⟩
  · refine ⟨.blob item.id stored.content.length, ?_, ?_⟩
    · simp [StoredObject.describe?, kind.symm.trans blob]
    · rw [same]
      exact ⟨rfl, rfl, rfl, .inl rfl⟩
  · exact ⟨original, described, portrays⟩

theorem read?_of_describe? {object : HistoryObject} (n : Nat)
    (kind : item.kind.getD stored.kind = stored.kind)
    (described : stored.describe? item.id = some object) :
    ∃ reading, read? n item stored = some reading := by
  unfold StoredObject.describe? at described
  unfold read?
  rw [kind]
  cases known : stored.kind with
  | blob => exact ⟨_, rfl⟩
  | _ =>
    simp only [known] at described
    obtain ⟨_, found, _⟩ := Option.map_eq_some_iff.mp described
    simp [found]

end Walk

/-! What there is to be found in a store. -/

def Leads (store : Store) (source target : ObjectId) : Prop :=
  ∃ stored, store[source]? = some stored ∧ target ∈ stored.leads.map Prod.fst

def Reachable (store : Store) (roots : Set ObjectId) (id : ObjectId) : Prop :=
  ∃ root ∈ roots, Relation.ReflTransGen (Leads store) root id

/-- What can be reached is there, is what the links to it say, and can be read, and no way comes
back to where it began. -/
structure Intact (store : Store) (roots : Set ObjectId) : Prop where
  readable : ∀ id, Reachable store roots id →
    ∃ stored object, store[id]? = some stored ∧ stored.describe? id = some object
  stated : ∀ id, Reachable store roots id → ∀ stored, store[id]? = some stored →
    ∀ lead ∈ stored.leads, ∀ other, store[lead.1]? = some other → other.kind = lead.2
  acyclic : ∀ id, Reachable store roots id → ¬ Relation.TransGen (Leads store) id id

variable {store : Store} {roots : Set ObjectId}

theorem Reachable.root {id : ObjectId} (root : id ∈ roots) : Reachable store roots id :=
  ⟨id, root, .refl⟩

theorem Reachable.tail {source target : ObjectId} (reachable : Reachable store roots source)
    (leads : Leads store source target) : Reachable store roots target := by
  obtain ⟨root, chosen, way⟩ := reachable
  exact ⟨root, chosen, way.tail leads⟩

theorem finite_reachable (store : Store) (finite : roots.Finite) :
    {id | Reachable store roots id}.Finite := by
  let targets := store.toList.flatMap fun entry => entry.2.leads.map Prod.fst
  refine (finite.union targets.finite_toSet).subset ?_
  rintro id ⟨root, chosen, way⟩
  rcases Relation.ReflTransGen.cases_tail way with rfl | ⟨source, _, stored, found, listed⟩
  · exact .inl chosen
  · refine .inr (List.mem_flatMap.mpr ⟨(source, stored), ?_, listed⟩)
    exact Std.HashMap.mem_toList_iff_getElem?_eq_some.mpr found

/-! What a repository answers. -/

namespace Repository

theorem store_emptyTree (r : Repository) : r.store[emptyTree]? = some ⟨.tree, []⟩ :=
  Std.HashMap.getElem?_insert_self

theorem getElem?_replaced (objects : Store) (id : ObjectId)
    (replacements : List (ObjectId × ObjectId)) :
    (replacements.foldr (replace objects) objects)[id]? =
      objects[(replacements.lookup id).getD id]? := by
  induction replacements with
  | nil => rfl
  | cons replacement others ih =>
    obtain ⟨replaced, other⟩ := replacement
    rw [List.foldr_cons, replace, List.lookup_cons]
    by_cases same : id = replaced
    · subst same
      cases found : objects[other]? <;> simp [found]
    · have apart : (replaced == id) = false := by simpa using Ne.symm same
      have missed : (id == replaced) = false := by simpa using same
      rw [missed, ← ih]
      cases objects[other]? <;>
        simp [Std.HashMap.getElem?_insert, Std.HashMap.getElem?_erase, apart]

/-- An object is read as the one that replaces it, or else as itself. -/
theorem getElem?_store (r : Repository) {id : ObjectId} (apart : id ≠ emptyTree) :
    r.store[id]? = (Std.HashMap.ofList r.objects)[(r.replacements.lookup id).getD id]? := by
  have other : (emptyTree == id) = false := by simpa using Ne.symm apart
  rw [Repository.store, Std.HashMap.getElem?_insert, other]
  exact getElem?_replaced _ id r.replacements

theorem store_of_mem {r : Repository} {id : ObjectId} {stored : StoredObject}
    (kept : r.replacements = []) (listed : (id, stored) ∈ r.objects)
    (distinct : r.objects.Pairwise fun a b => (a.1 == b.1) = false) (apart : id ≠ emptyTree) :
    r.store[id]? = some stored := by
  rw [r.getElem?_store apart, kept]
  exact Std.HashMap.getElem?_ofList_of_mem BEq.rfl distinct listed

end Repository

end Git

end HistorySurvey
