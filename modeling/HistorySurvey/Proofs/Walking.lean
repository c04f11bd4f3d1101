import Mathlib.Data.Set.Card
import HistorySurvey.Proofs.Reach

/-! A walk call by call. What it has found are the ids it was called for and those on its stack, and
all that it read leads to ids it has found. So at the end, found and called for are the same. -/
namespace HistorySurvey.Git.Walk

/-! A single call. -/

theorem next_eq_none_iff (w : Walk) : w.next = .ok none ↔ w.stack = [] := by
  unfold next
  cases w.stack with
  | nil => simp
  | cons item rest =>
    refine ⟨fun ended => ?_, fun empty => by contradiction⟩
    simp only at ended
    split at ended
    · contradiction
    · split at ended
      · contradiction
      · simp at ended

theorem next_read {w after : Walk} {object : HistoryObject}
    (step : w.next = .ok (some (object, after))) :
    ∃ item rest stored reading, w.stack = item :: rest ∧ w.unread[item.id]? = some stored ∧
      read? w.lastLength item stored = some reading ∧
      object = { reading.object with name := item.name } ∧
      after = ({ w with
        unread := w.unread.erase item.id
        stack := rest
        lastLength := reading.length } : Walk).discoverAll reading.next := by
  unfold next at step
  split at step
  · simp at step
  · rename_i item rest stack
    split at step
    · contradiction
    · rename_i stored found
      split at step
      · contradiction
      · rename_i reading read
        simp only [Except.ok.injEq, Option.some.injEq, Prod.mk.injEq] at step
        exact ⟨item, rest, stored, reading, stack, found, read, step.1.symm, step.2.symm⟩

theorem next_of_read? {w : Walk} {item : Discovery} {rest : List Discovery} {stored : StoredObject}
    {reading : Reading} (stack : w.stack = item :: rest) (found : w.unread[item.id]? = some stored)
    (read : read? w.lastLength item stored = some reading) :
    w.next = .ok (some ({ reading.object with name := item.name },
      ({ w with
        unread := w.unread.erase item.id
        stack := rest
        lastLength := reading.length } : Walk).discoverAll reading.next)) := by
  unfold next
  rw [stack]
  simp only [found, read]

theorem next_failed {w : Walk} {error : SourceError} (step : w.next = .error error) :
    ∃ item rest, w.stack = item :: rest ∧ error = .unreadable item.id ∧
      ∀ stored, w.unread[item.id]? = some stored → read? w.lastLength item stored = none := by
  unfold next at step
  split at step
  · contradiction
  · rename_i item rest stack
    refine ⟨item, rest, stack, ?_⟩
    split at step
    · rename_i absent
      refine ⟨(Except.error.inj step).symm, fun stored found => ?_⟩
      rw [absent] at found
      contradiction
    · rename_i stored found
      split at step
      · rename_i unread
        refine ⟨(Except.error.inj step).symm, fun other also => ?_⟩
        obtain rfl := Option.some.inj (found.symm.trans also)
        exact unread
      · contradiction

/-- The new ones among some discoveries come onto the stack, each of them once. -/
structure Discovers (w : Walk) (items new : List Discovery) (after : Walk) : Prop where
  stack : after.stack = new ++ w.stack
  among : new ⊆ items
  distinct : (new.map Discovery.id).Nodup
  fresh : ∀ d ∈ new, w.found.contains d.id = false
  found : ∀ id, after.found.contains id = true ↔
    w.found.contains id = true ∨ id ∈ new.map Discovery.id
  covered : ∀ d ∈ items, after.found.contains d.id = true
  unread : after.unread = w.unread

theorem Discovers.cons_known {w after : Walk} {first : Discovery} {items new : List Discovery}
    (known : w.found.contains first.id = true) (discovers : Discovers w items new after) :
    Discovers w (first :: items) new after := by
  refine { discovers with among := ?_, covered := ?_ }
  · exact fun d member => List.mem_cons_of_mem _ (discovers.among member)
  · intro d member
    rcases List.mem_cons.mp member with rfl | later
    · exact (discovers.found d.id).mpr (.inl known)
    · exact discovers.covered d later

theorem Discovers.cons_new {w after : Walk} {first : Discovery} {items new : List Discovery}
    (unknown : w.found.contains first.id = false)
    (discovers : Discovers (w.discover first) items new after) :
    Discovers w (first :: items) (new ++ [first]) after := by
  have pushed : w.discover first = { w with
      found := w.found.insert first.id ()
      stack := first :: w.stack } := if_neg (Bool.eq_false_iff.mp unknown)
  obtain ⟨stack, among, distinct, fresh, found, covered, unread⟩ := discovers
  rw [pushed] at stack fresh found unread
  simp only [Std.HashMap.contains_insert, Bool.or_eq_false_iff, beq_eq_false_iff_ne, Bool.or_eq_true,
    beq_iff_eq] at fresh found
  refine ⟨by simp [stack], ?_, ?_, ?_, ?_, ?_, unread⟩
  · intro d member
    rcases List.mem_append.mp member with later | here
    · exact List.mem_cons_of_mem _ (among later)
    · rw [List.mem_singleton.mp here]
      exact List.mem_cons_self
  · rw [List.map_append, List.map_singleton, ← List.concat_eq_append]
    refine distinct.concat fun member => ?_
    obtain ⟨d, inside, same⟩ := List.mem_map.mp member
    exact (fresh d inside).1 same.symm
  · intro d member
    rcases List.mem_append.mp member with later | here
    · exact (fresh d later).2
    · rw [List.mem_singleton.mp here]
      exact unknown
  · intro id
    rw [found, List.map_append, List.mem_append, List.map_singleton, List.mem_singleton]
    constructor
    · rintro ((rfl | before) | later)
      · exact .inr (.inr rfl)
      · exact .inl before
      · exact .inr (.inl later)
    · rintro (before | later | rfl)
      · exact .inl (.inr before)
      · exact .inr later
      · exact .inl (.inl rfl)
  · intro d member
    rcases List.mem_cons.mp member with rfl | later
    · exact (found d.id).mpr (.inl (.inl rfl))
    · exact covered d later

theorem exists_discovers (w : Walk) (items : List Discovery) :
    ∃ new, Discovers w items new (items.foldl discover w) := by
  induction items generalizing w with
  | nil => exact ⟨[], by constructor <;> simp⟩
  | cons first rest ih =>
    obtain ⟨new, discovers⟩ := ih (w.discover first)
    cases known : w.found.contains first.id with
    | true =>
      have same : w.discover first = w := if_pos known
      rw [same] at discovers
      rw [List.foldl_cons, same]
      exact ⟨new, discovers.cons_known known⟩
    | false => exact ⟨new ++ [first], discovers.cons_new known⟩

theorem exists_discoverAll (w : Walk) (discoveries : List Discovery) :
    ∃ new, Discovers w discoveries new (w.discoverAll discoveries) := by
  obtain ⟨new, discovers⟩ := exists_discovers w discoveries.reverse
  refine ⟨new, { discovers with among := ?_, covered := ?_ }⟩
  · exact fun d member => List.mem_reverse.mp (discovers.among member)
  · exact fun d member => discovers.covered d (List.mem_reverse.mpr member)

theorem Discovers.nodup_beside {w after : Walk} {items new : List Discovery} {known : List ObjectId}
    (discovers : Discovers w items new after) (distinct : known.Nodup)
    (found : ∀ id ∈ known, w.found.contains id = true) : (new.map Discovery.id ++ known).Nodup := by
  refine List.nodup_append'.mpr ⟨discovers.distinct, distinct, fun id added before => ?_⟩
  obtain ⟨d, member, rfl⟩ := List.mem_map.mp added
  have unknown := discovers.fresh d member
  rw [found d.id before] at unknown
  contradiction

/-! Several calls. -/

/-- Calls one after the other, each with the id it was for and what was read there. One that fails
gives that id up, and what it leaves of the last length may be anything. -/
inductive Calls : Walk → List (ObjectId × Option HistoryObject) → Walk → Prop
  | nil (w : Walk) : Calls w [] w
  | read (w : Walk) (object : HistoryObject) (between : Walk)
      (rest : List (ObjectId × Option HistoryObject)) (last : Walk)
      (step : w.next = .ok (some (object, between))) (further : Calls between rest last) :
      Calls w ((object.id, some object) :: rest) last
  | failed (w : Walk) (item : Discovery) (others : List Discovery) (error : SourceError) (n : Nat)
      (rest : List (ObjectId × Option HistoryObject)) (last : Walk)
      (stack : w.stack = item :: others) (step : w.next = .error error)
      (further : Calls { w with stack := others, lastLength := n } rest last) :
      Calls w ((item.id, none) :: rest) last

def called (calls : List (ObjectId × Option HistoryObject)) : List ObjectId := calls.map Prod.fst

def produced (calls : List (ObjectId × Option HistoryObject)) : List HistoryObject :=
  calls.filterMap Prod.snd

/-- What the objects of a list lead to, when they are read as they are there. -/
def Through (objects : List HistoryObject) (source target : ObjectId) : Prop :=
  ∃ object ∈ objects, object.id = source ∧ target ∈ object.followed

/-- An id can be reached by way of the objects of a list. -/
def Traced (roots : Set ObjectId) (objects : List HistoryObject) (id : ObjectId) : Prop :=
  ∃ root ∈ roots, Relation.ReflTransGen (Through objects) root id

theorem Traced.mono {roots : Set ObjectId} {objects more : List HistoryObject} {id : ObjectId}
    (traced : Traced roots objects id) (within : objects ⊆ more) : Traced roots more id := by
  obtain ⟨root, chosen, way⟩ := traced
  refine ⟨root, chosen, Relation.ReflTransGen.mono (fun source target => ?_) _ _ way⟩
  rintro ⟨object, inside, leads⟩
  exact ⟨object, within inside, leads⟩

theorem Traced.tail {roots : Set ObjectId} {objects : List HistoryObject} {object : HistoryObject}
    {target : ObjectId} (traced : Traced roots objects object.id) (inside : object ∈ objects)
    (leads : target ∈ object.followed) : Traced roots objects target := by
  obtain ⟨root, chosen, way⟩ := traced
  exact ⟨root, chosen, way.tail ⟨object, inside, rfl, leads⟩⟩

/-- An id on the stack is a root, or what a link in a reachable object says it is. -/
def Stated (store : Store) (roots : Set ObjectId) (item : Discovery) : Prop :=
  (item.kind = none ∧ item.id ∈ roots) ∨
  ∃ source stored kind, Reachable store roots source ∧ store[source]? = some stored ∧
    item.kind = some kind ∧ (item.id, kind) ∈ stored.leads

theorem Stated.reachable {store : Store} {roots : Set ObjectId} {item : Discovery}
    (stated : Stated store roots item) : Reachable store roots item.id := by
  rcases stated with ⟨_, root⟩ | ⟨source, stored, kind, reachable, found, _, lead⟩
  · exact .root root
  · exact reachable.tail ⟨stored, found, List.mem_map_of_mem lead⟩

/-- An object was read from the store under its id. -/
def Made (store : Store) (roots : Set ObjectId) (object : HistoryObject) : Prop :=
  ∃ item stored n reading, Stated store roots item ∧ store[item.id]? = some stored ∧
    read? n item stored = some reading ∧ object = { reading.object with name := item.name }

/-- What a walk has done after some calls, and what it still has to do. -/
structure Walked (store : Store) (roots : Set ObjectId)
    (calls : List (ObjectId × Option HistoryObject)) (w : Walk) : Prop where
  found : ∀ id, w.found.contains id = true ↔ id ∈ called calls ∨ id ∈ w.stack.map Discovery.id
  distinct : (called calls ++ w.stack.map Discovery.id).Nodup
  unread : ∀ id, id ∉ called calls → w.unread[id]? = store[id]?
  stated : ∀ item ∈ w.stack, Stated store roots item
  reachable : ∀ id ∈ called calls, Reachable store roots id
  made : ∀ id object, (id, some object) ∈ calls → object.id = id ∧ Made store roots object
  begun : ∀ root ∈ roots, w.found.contains root = true
  closed : ∀ object ∈ produced calls, ∀ target ∈ object.followed, w.found.contains target = true
  traced : ∀ id, w.found.contains id = true → Traced roots (produced calls) id

variable {store : Store} {roots : Set ObjectId} {w after last : Walk}
  {calls further : List (ObjectId × Option HistoryObject)}

@[simp] theorem called_concat (calls : List (ObjectId × Option HistoryObject)) (id : ObjectId)
    (result : Option HistoryObject) : called (calls ++ [(id, result)]) = called calls ++ [id] := by
  simp [called]

@[simp] theorem produced_concat_some (calls : List (ObjectId × Option HistoryObject)) (id : ObjectId)
    (object : HistoryObject) :
    produced (calls ++ [(id, some object)]) = produced calls ++ [object] := by
  simp [produced]

@[simp] theorem produced_concat_none (calls : List (ObjectId × Option HistoryObject)) (id : ObjectId) :
    produced (calls ++ [(id, none)]) = produced calls := by
  simp [produced]

/-- What comes next was stated somewhere, and the walk was not called for it before. -/
theorem Walked.first (walked : Walked store roots calls w) {item : Discovery}
    {rest : List Discovery} (stack : w.stack = item :: rest) :
    Stated store roots item ∧ item.id ∉ called calls := by
  have distinct := walked.distinct
  refine ⟨walked.stated item (by rw [stack]; exact List.mem_cons_self), fun before => ?_⟩
  rw [stack] at distinct
  exact (List.nodup_append.mp distinct).2.2 _ before item.id (by simp) rfl

theorem Walked.failed (walked : Walked store roots calls w) {item : Discovery}
    {others : List Discovery} (stack : w.stack = item :: others) (n : Nat) :
    Walked store roots (calls ++ [(item.id, none)]) { w with stack := others, lastLength := n } := by
  have found := walked.found
  have distinct := walked.distinct
  rw [stack] at found distinct
  obtain ⟨next, _⟩ := walked.first stack
  refine ⟨fun id => ?_, ?_, fun id new => ?_, fun other member => ?_, fun id member => ?_,
    fun id object member => ?_, walked.begun, ?_, ?_⟩
  · simp only [found, called_concat, List.map_cons, List.mem_cons, List.mem_append,
      or_assoc, List.not_mem_nil, or_false]
  · rw [called_concat, List.append_assoc]
    exact distinct
  · rw [called_concat, List.mem_append, not_or] at new
    exact walked.unread id new.1
  · exact walked.stated other (by rw [stack]; exact List.mem_cons_of_mem _ member)
  · rw [called_concat, List.mem_append, List.mem_singleton] at member
    rcases member with before | rfl
    · exact walked.reachable id before
    · exact next.reachable
  · rw [List.mem_append, List.mem_singleton] at member
    rcases member with before | now
    · exact walked.made id object before
    · simp at now
  · rw [produced_concat_none]
    exact walked.closed
  · rw [produced_concat_none]
    exact walked.traced

theorem Walked.read {object : HistoryObject} (walked : Walked store roots calls w)
    (step : w.next = .ok (some (object, after))) :
    Walked store roots (calls ++ [(object.id, some object)]) after := by
  obtain ⟨item, rest, stored, reading, stack, present, read, same, left⟩ := next_read step
  have named : object.id = item.id := by
    rw [same]
    exact id_of_read? read
  have follows : object.followed = reading.next.map Discovery.id := by
    rw [same]
    exact followed_of_read? read
  obtain ⟨new, discovers⟩ := exists_discoverAll { w with
    unread := w.unread.erase item.id
    stack := rest
    lastLength := reading.length } reading.next
  rw [← left] at discovers
  have found := walked.found
  have distinct := walked.distinct
  rw [stack] at found distinct
  obtain ⟨next, uncalled⟩ := walked.first stack
  have inside : store[item.id]? = some stored := (walked.unread item.id uncalled).symm.trans present
  have grows : ∀ id, w.found.contains id = true → after.found.contains id = true :=
    fun id before => (discovers.found id).mpr (.inl before)
  rw [named]
  -- The id moves from the stack to those called for, and what is new comes onto the stack.
  refine ⟨fun id => ?_, ?_, fun id new => ?_, fun other member => ?_, fun id member => ?_,
    fun id object member => ?_, fun root chosen => grows root (walked.begun root chosen), ?_, ?_⟩
  · rw [discovers.found, found, discovers.stack, called_concat, List.map_append, List.map_cons,
      List.mem_append, List.mem_append, List.mem_cons, List.mem_singleton]
    tauto
  · have parts : (called calls ++ [item.id] ++ (new ++ rest).map Discovery.id).Perm
        (new.map Discovery.id ++ (called calls ++ item.id :: rest.map Discovery.id)) := by
      have swap : ((called calls ++ [item.id]) ++ new.map Discovery.id).Perm
          (new.map Discovery.id ++ (called calls ++ [item.id])) := List.perm_append_comm
      simpa using swap.append_right (rest.map Discovery.id)
    rw [called_concat, discovers.stack, parts.nodup_iff]
    exact discovers.nodup_beside distinct fun id before => (found id).mpr (List.mem_append.mp before)
  · rw [called_concat, List.mem_append, List.mem_singleton, not_or] at new
    rw [discovers.unread, Std.HashMap.getElem?_erase, if_neg (by simpa using Ne.symm new.2)]
    exact walked.unread id new.1
  · rw [discovers.stack, List.mem_append] at member
    rcases member with added | later
    · obtain ⟨kind, known, lead⟩ := lead_of_read? read (discovers.among added)
      exact .inr ⟨item.id, stored, kind, next.reachable, inside, known, lead⟩
    · exact walked.stated other (by rw [stack]; exact List.mem_cons_of_mem _ later)
  · rw [called_concat, List.mem_append, List.mem_singleton] at member
    rcases member with before | rfl
    · exact walked.reachable id before
    · exact next.reachable
  · rw [List.mem_append, List.mem_singleton] at member
    rcases member with before | now
    · exact walked.made id object before
    · obtain ⟨rfl, equal⟩ := Prod.mk.inj now
      obtain rfl := Option.some.inj equal
      exact ⟨named, item, stored, w.lastLength, reading, next, inside, read, same⟩
  · rw [produced_concat_some]
    intro made member target leads
    rcases List.mem_append.mp member with before | now
    · exact grows target (walked.closed made before target leads)
    · rw [List.mem_singleton.mp now, follows] at leads
      obtain ⟨d, listed, rfl⟩ := List.mem_map.mp leads
      exact discovers.covered d listed
  · rw [produced_concat_some]
    intro id known
    have within : produced calls ⊆ produced calls ++ [object] := List.subset_append_left _ _
    rcases (discovers.found id).mp known with before | added
    · exact (walked.traced id before).mono within
    · have reached := walked.traced item.id ((found item.id).mpr (.inr List.mem_cons_self))
      rw [← named] at reached
      refine (reached.mono within).tail (by simp) ?_
      rw [follows]
      exact List.map_subset _ discovers.among added

theorem Calls.walked (made : Calls w further last) (walked : Walked store roots calls w) :
    Walked store roots (calls ++ further) last := by
  induction made generalizing calls with
  | nil w =>
    rw [List.append_nil]
    exact walked
  | read w object between rest last step _ ih =>
    have next := ih (walked.read step)
    rw [List.append_assoc] at next
    exact next
  | failed w item others error n rest last stack _ _ ih =>
    have next := ih (walked.failed stack n)
    rw [List.append_assoc] at next
    exact next

theorem Walked.found_iff_called (walked : Walked store roots calls w) (ended : w.next = .ok none)
    (id : ObjectId) : w.found.contains id = true ↔ id ∈ called calls := by
  simpa [(next_eq_none_iff w).mp ended] using walked.found id

/-- At the end, a walk was called for everything that its roots lead to by way of what it read. -/
theorem Walked.called_iff (walked : Walked store roots calls w) (ended : w.next = .ok none)
    (id : ObjectId) : id ∈ called calls ↔ Traced roots (produced calls) id := by
  rw [← walked.found_iff_called ended]
  refine ⟨walked.traced id, ?_⟩
  rintro ⟨root, chosen, way⟩
  induction way with
  | refl => exact walked.begun root chosen
  | tail _ leads _ =>
    obtain ⟨object, inside, _, target⟩ := leads
    exact walked.closed object inside _ target

theorem Walked.length_le (walked : Walked store roots calls w) (finite : roots.Finite) :
    calls.length ≤ {id | Reachable store roots id}.ncard := by
  have distinct : (called calls).Nodup := (List.nodup_append.mp walked.distinct).1
  calc
    calls.length = (called calls).toFinset.card := by
      rw [List.toFinset_card_of_nodup distinct, called, List.length_map]
    _ = ((called calls).toFinset : Set ObjectId).ncard := (Set.ncard_coe_finset _).symm
    _ ≤ {id | Reachable store roots id}.ncard := by
      refine Set.ncard_le_ncard (fun id member => ?_) (finite_reachable store finite)
      exact walked.reachable id (List.mem_toFinset.mp member)

theorem exists_call (w : Walk) : w.next = .ok none ∨
    ∃ id result after, (∀ rest last, Calls after rest last → Calls w ((id, result) :: rest) last) ∧
      ∀ store roots calls, Walked store roots calls w →
        Walked store roots (calls ++ [(id, result)]) after := by
  cases step : w.next with
  | error error =>
    obtain ⟨item, others, stack, _⟩ := next_failed step
    refine .inr ⟨item.id, none, { w with stack := others, lastLength := 0 }, ?_, ?_⟩
    · exact fun rest last further => .failed w item others error 0 rest last stack step further
    · exact fun store roots calls walked => walked.failed stack 0
  | ok ended =>
    cases ended with
    | none => exact .inl rfl
    | some read =>
      obtain ⟨object, after⟩ := read
      refine .inr ⟨object.id, some object, after, ?_, ?_⟩
      · exact fun rest last further => .read w object after rest last step further
      · exact fun store roots calls walked => walked.read step

theorem Walked.exists_end (walked : Walked store roots calls w) (finite : roots.Finite) :
    ∃ further last, Calls w further last ∧ last.next = .ok none := by
  -- Every call is for another id that can be reached.
  generalize left : {id | Reachable store roots id}.ncard - calls.length = m
  induction m generalizing calls w with
  | zero =>
    rcases exists_call w with ended | ⟨id, result, after, _, kept⟩
    · exact ⟨[], w, .nil w, ended⟩
    · have room := (kept store roots calls walked).length_le finite
      rw [List.length_append, List.length_singleton] at room
      omega
  | succ m ih =>
    rcases exists_call w with ended | ⟨id, result, after, longer, kept⟩
    · exact ⟨[], w, .nil w, ended⟩
    · have next := kept store roots calls walked
      obtain ⟨further, last, made, ended⟩ := ih next (by
        rw [List.length_append, List.length_singleton]
        omega)
      exact ⟨_, last, longer further last made, ended⟩

theorem drain_eq (read : List HistoryObject) (w : Walk) :
    w.drain read = match w.next with
      | .error error => (read, some error)
      | .ok none => (read, none)
      | .ok (some (object, after)) => after.drain (object :: read) := by
  rw [drain.eq_def]
  split <;> rename_i step <;> rw [step]

/-- How a walk is left by its last call: failing, or at its end. -/
def Stops (w : Walk) (stopped : Option SourceError) : Prop :=
  w.next = match stopped with
    | some error => .error error
    | none => .ok none

/-- The objects of a walk are what its calls read, up to the first that fails. -/
theorem calls_objects (w : Walk) :
    ∃ last, Calls w (w.objects.1.map fun object => (object.id, some object)) last ∧
      last.Stops w.objects.2 := by
  have all (read : List HistoryObject) : ∃ (objects : List HistoryObject) (last : Walk),
      (w.drain read).1 = objects.reverse ++ read ∧
      Calls w (objects.map fun object => (object.id, some object)) last ∧
      last.Stops (w.drain read).2 := by
    induction read, w using drain.induct with
    | case1 read w error step =>
      rw [drain_eq, step]
      exact ⟨[], w, rfl, .nil w, step⟩
    | case2 read w step =>
      rw [drain_eq, step]
      exact ⟨[], w, rfl, .nil w, step⟩
    | case3 read w object after step ih =>
      obtain ⟨objects, last, same, calls, stops⟩ := ih
      rw [drain_eq, step]
      refine ⟨object :: objects, last, ?_, .read w object after _ last step calls, stops⟩
      rw [same]
      simp
  obtain ⟨objects, last, same, calls, stops⟩ := all []
  have whole : w.objects.1 = objects := by
    rw [Walk.objects]
    simp [same]
  rw [whole]
  exact ⟨last, calls, stops⟩

/-! The beginning. -/

def rootOf (named : Bool) (root : String × ObjectId) : Discovery :=
  ⟨root.2, none, if named then some root.1 else none⟩

/-- A walk begins with discovering the objects of its references, the first one on top. -/
theorem start_eq (store : Store) (roots : List (String × ObjectId)) (named : Bool) :
    start store roots named =
      let w := (roots.map (rootOf named)).foldl discover ⟨store, [], ∅, 0⟩
      { w with stack := w.stack.reverse } := by
  have all (found : Std.HashMap ObjectId Unit) (stack : List Discovery) :
      (roots.map (rootOf named)).foldl discover ⟨store, stack, found, 0⟩ =
        let state := roots.foldl (fun (state : Std.HashMap ObjectId Unit × List Discovery) root =>
          if state.1.contains root.2 then state
          else (state.1.insert root.2 (), rootOf named root :: state.2)) (found, stack)
        ⟨store, state.2, state.1, 0⟩ := by
    induction roots generalizing found stack with
    | nil => rfl
    | cons root rest ih =>
      by_cases known : found.contains root.2 = true
      · have same : discover ⟨store, stack, found, 0⟩ (rootOf named root) =
            ⟨store, stack, found, 0⟩ := if_pos known
        rw [List.map_cons, List.foldl_cons, List.foldl_cons, same, if_pos known]
        exact ih found stack
      · have pushed : discover ⟨store, stack, found, 0⟩ (rootOf named root) =
            ⟨store, rootOf named root :: stack, found.insert root.2 (), 0⟩ := if_neg known
        rw [List.map_cons, List.foldl_cons, List.foldl_cons, pushed, if_neg known]
        exact ih _ _
  rw [all]
  rfl

theorem walked_start (store : Store) (roots : List (String × ObjectId)) (named : Bool) :
    Walked store {id | id ∈ roots.map Prod.snd} [] (start store roots named) := by
  obtain ⟨new, discovers⟩ := exists_discovers ⟨store, [], ∅, 0⟩ (roots.map (rootOf named))
  rw [start_eq]
  generalize (roots.map (rootOf named)).foldl discover ⟨store, [], ∅, 0⟩ = w at discovers
  obtain ⟨stack, among, distinct, _, found, covered, unread⟩ := discovers
  simp only [Std.HashMap.contains_empty, Bool.false_eq_true, false_or] at found
  rw [List.append_nil] at stack
  have first {d : Discovery} (member : d ∈ new) : d.kind = none ∧ d.id ∈ roots.map Prod.snd := by
    obtain ⟨root, chosen, rfl⟩ := List.mem_map.mp (among member)
    exact ⟨rfl, List.mem_map_of_mem chosen⟩
  refine ⟨fun id => ?_, ?_, fun id _ => ?_, fun item member => ?_, ?_, ?_, fun root chosen => ?_,
    ?_, fun id known => ?_⟩
  · simp [stack, found, called]
  · simpa [stack, called] using distinct
  · rw [unread]
  · simp only [stack, List.mem_reverse] at member
    exact .inl (first member)
  · intro id member
    contradiction
  · intro id object member
    contradiction
  · obtain ⟨entry, listed, rfl⟩ := List.mem_map.mp chosen
    exact covered (rootOf named entry) (List.mem_map_of_mem listed)
  · intro object member
    contradiction
  · obtain ⟨d, member, rfl⟩ := List.mem_map.mp ((found id).mp known)
    exact ⟨d.id, (first member).2, .refl⟩

/-! A store in which nothing is wrong. -/

theorem Stated.kind_eq {item : Discovery} (stated : Stated store roots item)
    (intact : Intact store roots) {stored : StoredObject} (found : store[item.id]? = some stored) :
    item.kind.getD stored.kind = stored.kind := by
  rcases stated with ⟨unknown, _⟩ | ⟨source, origin, kind, reachable, inside, known, lead⟩
  · rw [unknown]
    rfl
  · rw [known]
    exact (intact.stated source reachable origin inside _ lead stored found).symm

theorem genuine_of_read? {item : Discovery} {stored : StoredObject} {n : Nat} {reading : Reading}
    (found : store[item.id]? = some stored) (read : read? n item stored = some reading)
    (kind : item.kind.getD stored.kind = stored.kind) :
    Genuine store { reading.object with name := item.name } := by
  obtain ⟨original, described, portrays⟩ := portrays_of_read? read kind
  have same : ({ reading.object with name := item.name } : HistoryObject).id = item.id :=
    id_of_read? read
  unfold Genuine
  rw [same]
  exact ⟨stored, original, found, described, portrays.id, portrays.kind, portrays.links,
    portrays.size⟩

theorem Made.genuine {object : HistoryObject} (made : Made store roots object)
    (intact : Intact store roots) : Genuine store object := by
  obtain ⟨item, stored, n, reading, stated, found, read, rfl⟩ := made
  exact genuine_of_read? found read (stated.kind_eq intact found)

theorem Walked.unfailing (walked : Walked store roots calls w) (intact : Intact store roots)
    (error : SourceError) : w.next ≠ .error error := by
  intro step
  obtain ⟨item, rest, stack, _, unreadable⟩ := next_failed step
  obtain ⟨stated, uncalled⟩ := walked.first stack
  obtain ⟨stored, object, found, described⟩ := intact.readable item.id stated.reachable
  obtain ⟨reading, read⟩ := read?_of_describe? w.lastLength (stated.kind_eq intact found) described
  have unread := unreadable stored ((walked.unread item.id uncalled).trans found)
  rw [read] at unread
  contradiction

/-- A walk that reads only what is stored reads everything that there is to be found. -/
theorem Walked.called_of_genuine (walked : Walked store roots calls w)
    (genuine : ∀ object ∈ produced calls, Genuine store object)
    (read : ∀ call ∈ calls, call.2 ≠ none) (ended : w.next = .ok none) (id : ObjectId) :
    id ∈ called calls ↔ Reachable store roots id := by
  refine ⟨walked.reachable id, ?_⟩
  have found := walked.found_iff_called ended
  rintro ⟨root, chosen, way⟩
  -- Along the way everything was read, and as what it is, so the next id was found too.
  induction way with
  | refl => exact (found root).mp (walked.begun root chosen)
  | tail _ leads before =>
    obtain ⟨⟨source, result⟩, member, rfl⟩ := List.mem_map.mp before
    obtain ⟨object, rfl⟩ := Option.ne_none_iff_exists'.mp (read _ member)
    obtain ⟨rfl, _⟩ := walked.made source object member
    have inside : object ∈ produced calls := List.mem_filterMap.mpr ⟨_, member, rfl⟩
    obtain ⟨stored, original, there, described, portrays⟩ := genuine object inside
    obtain ⟨other, also, target⟩ := leads
    obtain rfl := Option.some.inj (there.symm.trans also)
    rw [← StoredObject.followed_of_describe? described, ← portrays.followed] at target
    exact (found _).mp (walked.closed object inside _ target)

end HistorySurvey.Git.Walk
