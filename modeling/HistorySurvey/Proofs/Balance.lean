import Mathlib.Data.List.Count
import HistorySurvey.Assembly.Basic
import HistorySurvey.Proofs.Shelving

/-! The bookkeeping of an assembly: who waits for whom, and how much each parked object still
misses. It balances after every step, failed ones included, so the two accounts never disagree and
nobody who waits is ever found missing. -/
namespace HistorySurvey.Assembly

/-- Who waits for an object, once for each link, in order of arrival. -/
def waiting (a : Assembly) (child : ObjectId) : List ObjectId := (a.waiters[child]?.getD #[]).toList

/-- The dependencies of an object that are not measured yet, once for each link. -/
def unmet (s : Shelf) (object : HistoryObject) : List ObjectId :=
  object.dependencies.filter (!s.isFinalized ·)

/-- The links of the parked object with this id, if it is parked. -/
def parkedLinks (a : Assembly) (id : ObjectId) : List ObjectId :=
  (a.parked[id]?.map (·.object.dependencies)).getD []

/-- The bookkeeping of an assembly while some that wait, named once for each link, have still to be
told about a measured object. -/
structure Balanced (owed : List ObjectId) (a : Assembly) : Prop where
  listed : ∀ child id, (a.waiting child).count id =
    if a.shelf.isFinalized child = true then 0 else (a.parkedLinks id).count child
  inhabited : ∀ child, a.waiters.contains child = true → a.waiting child ≠ []
  parked : ∀ id entry, a.parked[id]? = some entry →
    entry.object.id = id ∧ a.shelf.isFinalized id = false ∧ 0 < entry.missing ∧
      entry.missing = (unmet a.shelf entry.object).length + owed.count id
  owed : ∀ id ∈ owed, a.parked.contains id = true
  ready : ∀ object ∈ a.ready, unmet a.shelf object = [] ∧ a.parked.contains object.id = false

theorem mem_ready {a : Assembly} {object : HistoryObject} {rest : List HistoryObject}
    (ready : a.ready = object :: rest) : object ∈ a.ready := by
  rw [ready]
  exact List.mem_cons_self

/-- An object is ready or parked. -/
def Outstanding (a : Assembly) (object : HistoryObject) : Prop :=
  object ∈ a.ready ∨ ∃ missing, a.parked[object.id]? = some ⟨object, missing⟩

/-- Nothing that is ready is measured already or ready twice. -/
def Fresh (a : Assembly) : Prop :=
  (a.ready.map HistoryObject.id).Nodup ∧ ∀ object ∈ a.ready, a.shelf.isFinalized object.id = false

/-- How often an object with this id is ready or parked. -/
def pending (a : Assembly) (id : ObjectId) : Nat :=
  (a.ready.map HistoryObject.id).count id + if a.parked.contains id = true then 1 else 0

/-- Objects moved from the parked ones to the ready ones, and nothing else happened. -/
structure Moved (a b : Assembly) : Prop where
  frame : b = { a with parked := b.parked, ready := b.ready }
  outstanding : ∀ object, b.Outstanding object ↔ a.Outstanding object
  pending : ∀ id, b.pending id = a.pending id
  fresh : a.Fresh → b.Fresh

theorem Moved.refl (a : Assembly) : Moved a a :=
  ⟨rfl, fun _ => Iff.rfl, fun _ => rfl, fun fresh => fresh⟩

theorem Moved.trans {a b c : Assembly} (first : Moved a b) (second : Moved b c) : Moved a c where
  frame := by rw [second.frame, first.frame]
  outstanding object := (second.outstanding object).trans (first.outstanding object)
  pending id := (second.pending id).trans (first.pending id)
  fresh fresh := second.fresh (first.fresh fresh)

theorem contains_parked_iff (a : Assembly) (id : ObjectId) :
    a.parked.contains id = true ↔ ∃ entry, a.parked[id]? = some entry := by
  rw [Std.HashMap.contains_eq_isSome_getElem?, Option.isSome_iff_exists]

theorem contains_parked_eq_false_iff (a : Assembly) (id : ObjectId) :
    a.parked.contains id = false ↔ a.parked[id]? = none := by
  rw [Std.HashMap.contains_eq_isSome_getElem?, Option.isSome_eq_false_iff, Option.isNone_iff_eq_none]

theorem parkedLinks_of_parked {a : Assembly} {id : ObjectId} {entry : Parked}
    (found : a.parked[id]? = some entry) : a.parkedLinks id = entry.object.dependencies := by
  rw [parkedLinks, found]
  rfl

theorem unmet_eq_nil_iff (s : Shelf) (object : HistoryObject) :
    unmet s object = [] ↔ ∀ child ∈ object.dependencies, s.isFinalized child = true := by
  simp [unmet, List.filter_eq_nil_iff]

theorem count_unmet (s : Shelf) (object : HistoryObject) (child : ObjectId) :
    (unmet s object).count child =
      if s.isFinalized child = true then 0 else object.dependencies.count child := by
  cases known : s.isFinalized child with
  | true =>
    refine List.count_eq_zero.mpr fun member => ?_
    simp [unmet, known] at member
  | false => exact List.count_filter (by simp [known])

theorem Balanced.parked_of_waiting {a : Assembly} {owed : List ObjectId}
    (balanced : Balanced owed a) {child id : ObjectId} (waits : id ∈ a.waiting child) :
    a.parked.contains id = true := by
  have counted := List.count_pos_iff.mpr waits
  rw [balanced.listed] at counted
  by_contra absent
  rw [Bool.not_eq_true, contains_parked_eq_false_iff] at absent
  rw [parkedLinks, absent] at counted
  split at counted <;> simp at counted

/-! One link of a parked object is met. -/

private theorem Balanced.meet_last {a : Assembly} {parent : ObjectId} {rest : List ObjectId}
    {entry : Parked} (balanced : Balanced (parent :: rest) a)
    (found : a.parked[parent]? = some entry) (last : entry.missing ≤ 1) :
    let b := { a with parked := a.parked.erase parent, ready := entry.object :: a.ready }
    Balanced rest b ∧ Moved a b := by
  intro b
  obtain ⟨named, unmeasured, _, missing⟩ := balanced.parked parent entry found
  rw [List.count_cons_self] at missing
  have met : unmet a.shelf entry.object = [] := List.eq_nil_of_length_eq_zero (by omega)
  have done : parent ∉ rest := List.count_eq_zero.mp (by omega)
  have lookup (id : ObjectId) : b.parked[id]? = if parent = id then none else a.parked[id]? := by
    simp only [b, Std.HashMap.getElem?_erase, beq_iff_eq]
  constructor
  · constructor
    · intro child id
      change (a.waiting child).count id = if a.shelf.isFinalized child = true then 0 else _
      rw [balanced.listed]
      split
      · rfl
      · rename_i unknown
        by_cases same : parent = id
        · subst same
          have absent : child ∉ entry.object.dependencies := fun member =>
            unknown ((unmet_eq_nil_iff a.shelf entry.object).mp met child member)
          rw [parkedLinks_of_parked found, List.count_eq_zero.mpr absent, parkedLinks, lookup,
            if_pos rfl]
          rfl
        · rw [parkedLinks, parkedLinks, lookup, if_neg same]
    · exact balanced.inhabited
    · intro id other present
      rw [lookup] at present
      split at present
      · contradiction
      · rename_i different
        obtain ⟨same, unfinished, positive, count⟩ := balanced.parked id other present
        rw [List.count_cons_of_ne different] at count
        exact ⟨same, unfinished, positive, count⟩
    · intro id member
      have different : parent ≠ id := fun same => done (same ▸ member)
      have known := balanced.owed id (List.mem_cons_of_mem _ member)
      rw [contains_parked_iff] at known ⊢
      rw [lookup, if_neg different]
      exact known
    · intro object member
      rw [contains_parked_eq_false_iff, lookup]
      rcases List.mem_cons.mp member with rfl | before
      · exact ⟨met, by rw [if_pos named.symm]⟩
      · obtain ⟨all, outside⟩ := balanced.ready object before
        refine ⟨all, ?_⟩
        split
        · rfl
        · exact (contains_parked_eq_false_iff a object.id).mp outside
  · refine ⟨rfl, fun object => ?_, fun id => ?_, fun fresh => ?_⟩
    · simp only [Outstanding, lookup]
      constructor
      · rintro (member | ⟨count, present⟩)
        · rcases List.mem_cons.mp member with rfl | before
          · exact .inr ⟨entry.missing, by rw [named, found]⟩
          · exact .inl before
        · split at present
          · contradiction
          · exact .inr ⟨count, present⟩
      · rintro (member | ⟨count, present⟩)
        · exact .inl (List.mem_cons_of_mem _ member)
        · by_cases same : parent = object.id
          · rw [← same, found, Option.some.injEq] at present
            exact .inl (List.mem_cons.mpr (.inl (by rw [present])))
          · exact .inr ⟨count, by rw [if_neg same]; exact present⟩
    · have present := (contains_parked_iff a parent).mpr ⟨entry, found⟩
      simp only [pending, b, List.map_cons, List.count_cons, named, Std.HashMap.contains_erase]
      by_cases same : parent = id
      · subst same
        simp [present]
      · simp [same]
    · refine ⟨List.nodup_cons.mpr ⟨fun member => ?_, fresh.1⟩,
        List.forall_mem_cons.mpr ⟨?_, fresh.2⟩⟩
      · obtain ⟨other, before, same⟩ := List.mem_map.mp member
        have outside := (balanced.ready other before).2
        rw [same, named, contains_parked_eq_false_iff, found] at outside
        contradiction
      · rw [named]
        exact unmeasured

private theorem Balanced.meet_more {a : Assembly} {parent : ObjectId} {rest : List ObjectId}
    {entry : Parked} (balanced : Balanced (parent :: rest) a)
    (found : a.parked[parent]? = some entry) (more : 1 < entry.missing) :
    let b := { a with
      parked := a.parked.insert parent { entry with missing := entry.missing - 1 } }
    Balanced rest b ∧ Moved a b := by
  intro b
  obtain ⟨named, unmeasured, _, missing⟩ := balanced.parked parent entry found
  rw [List.count_cons_self] at missing
  have lookup (id : ObjectId) : b.parked[id]? =
      if parent = id then some { entry with missing := entry.missing - 1 } else a.parked[id]? := by
    simp only [b, Std.HashMap.getElem?_insert, beq_iff_eq]
  have contains (id : ObjectId) : b.parked.contains id = a.parked.contains id := by
    rw [Bool.eq_iff_iff, contains_parked_iff, contains_parked_iff, lookup]
    split
    · rename_i same
      subst same
      simp [found]
    · rfl
  constructor
  · constructor
    · intro child id
      change (a.waiting child).count id = if a.shelf.isFinalized child = true then 0 else _
      rw [balanced.listed, parkedLinks, parkedLinks, lookup]
      by_cases same : parent = id
      · subst same
        rw [if_pos rfl, found]
        rfl
      · rw [if_neg same]
    · exact balanced.inhabited
    · intro id other present
      rw [lookup] at present
      split at present
      · rename_i same
        subst same
        obtain rfl := Option.some.inj present
        exact ⟨named, unmeasured, by simp only; omega, by simp only [b]; omega⟩
      · rename_i different
        obtain ⟨same, unfinished, positive, count⟩ := balanced.parked id other present
        rw [List.count_cons_of_ne different] at count
        exact ⟨same, unfinished, positive, count⟩
    · intro id member
      rw [contains]
      exact balanced.owed id (List.mem_cons_of_mem _ member)
    · intro object member
      rw [contains]
      exact balanced.ready object member
  · refine ⟨rfl, fun object => or_congr Iff.rfl ?_, fun id => ?_, fun fresh => fresh⟩
    · rw [lookup]
      by_cases same : parent = object.id
      · rw [if_pos same, ← same, found]
        constructor
        · rintro ⟨count, present⟩
          have equal : entry.object = object := congrArg Parked.object (Option.some.inj present)
          exact ⟨entry.missing, by rw [← equal]⟩
        · rintro ⟨count, present⟩
          have equal : entry.object = object := congrArg Parked.object (Option.some.inj present)
          exact ⟨entry.missing - 1, by rw [equal]⟩
      · rw [if_neg same]
    · simp only [Assembly.pending, contains, b]

theorem Balanced.meet {a : Assembly} {parent : ObjectId} {rest : List ObjectId}
    (balanced : Balanced (parent :: rest) a) (child : ObjectId) :
    ∃ b, a.meet child parent = (b, none) ∧ Balanced rest b ∧ Moved a b := by
  obtain ⟨entry, found⟩ := (contains_parked_iff a parent).mp (balanced.owed parent List.mem_cons_self)
  rw [Assembly.meet, found]
  by_cases last : entry.missing ≤ 1
  · simp only [if_pos last]
    exact ⟨_, rfl, balanced.meet_last found last⟩
  · simp only [if_neg last]
    exact ⟨_, rfl, balanced.meet_more found (by omega)⟩

/-- Everyone who is owed word is told, and nobody is found missing. -/
theorem Balanced.meetAll {owed : List ObjectId} {a : Assembly} (balanced : Balanced owed a)
    (child : ObjectId) :
    ∃ b, Assembly.meetAll child owed a = (b, none) ∧ Balanced [] b ∧ Moved a b := by
  induction owed generalizing a with
  | nil => exact ⟨a, rfl, balanced, .refl a⟩
  | cons parent rest ih =>
    obtain ⟨b, met, left, moved⟩ := balanced.meet child
    obtain ⟨c, all, settled, further⟩ := ih left
    exact ⟨c, by rw [Assembly.meetAll, met]; exact all, settled, moved.trans further⟩

/-- Telling those who wait only moves objects from the parked ones to the ready ones. -/
theorem meetAll_frame (child : ObjectId) (parents : List ObjectId) (a : Assembly) :
    ∃ parked ready, (Assembly.meetAll child parents a).1 =
      { a with parked := parked, ready := ready } := by
  induction parents generalizing a with
  | nil => exact ⟨a.parked, a.ready, rfl⟩
  | cons parent rest ih =>
    have single : ∃ parked ready, (a.meet child parent).1 =
        { a with parked := parked, ready := ready } := by
      unfold Assembly.meet
      split
      · exact ⟨a.parked, a.ready, rfl⟩
      · split <;> exact ⟨_, _, rfl⟩
    rw [Assembly.meetAll]
    cases met : a.meet child parent with
    | mk b outcome =>
      rw [met] at single
      cases outcome with
      | none =>
        obtain ⟨_, _, rfl⟩ := single
        exact ih _
      | some error => exact single

/-- Announcing an object touches neither the shelf nor a request to stop, and changes nothing for
those who wait for others. -/
theorem announce_frame (a : Assembly) (child : ObjectId) :
    (a.announce child).1.shelf = a.shelf ∧ (a.announce child).1.cancelled = a.cancelled ∧
      ∀ other, child ≠ other → (a.announce child).1.waiting other = a.waiting other := by
  rw [announce]
  cases a.waiters[child]? with
  | none => exact ⟨rfl, rfl, fun _ _ => rfl⟩
  | some parents =>
    obtain ⟨parked, ready, told⟩ :=
      meetAll_frame child parents.toList { a with waiters := a.waiters.erase child }
    simp only [told, true_and]
    intro other apart
    simp [waiting, Std.HashMap.getElem?_erase, apart]

/-! An object is measured. -/

private theorem length_filter_split {α : Type} [DecidableEq α] (p : α → Bool) (x : α)
    (items : List α) :
    (items.filter p).length =
      (items.filter fun y => p y && !(x == y)).length + if p x = true then items.count x else 0 := by
  induction items with
  | nil => simp
  | cons item rest ih =>
    rw [List.count_cons]
    by_cases same : x = item
    · subst same
      cases holds : p x with
      | true => simp [holds, ih]; omega
      | false => simp [holds, ih]
    · have other : (item == x) = false := by simpa using Ne.symm same
      cases holds : p item with
      | true => simp [holds, ih, same, other]; omega
      | false => simp [holds, ih, other]

theorem isFinalized_finalize (hints : Hints) (a : Assembly) (object : HistoryObject) (m : Measure)
    (id : ObjectId) :
    (a.finalize hints object m).shelf.isFinalized id =
      (a.shelf.isFinalized id || object.id == id) := by
  rw [finalize, Shelf.isFinalized_consumeAll, Shelf.isFinalized_put]

private theorem unmet_finalize (hints : Hints) (a : Assembly) (object : HistoryObject) (m : Measure)
    (other : HistoryObject) :
    (unmet a.shelf other).length = (unmet (a.finalize hints object m).shelf other).length +
      if a.shelf.isFinalized object.id = true then 0 else other.dependencies.count object.id := by
  have split := length_filter_split (!a.shelf.isFinalized ·) object.id other.dependencies
  simp only [unmet, isFinalized_finalize, Bool.not_or]
  rw [split]
  cases a.shelf.isFinalized object.id <;> rfl

/-- Once a ready object is measured, those who waited for it are owed word. -/
theorem Balanced.finalized {a : Assembly} {object : HistoryObject}
    {rest : List HistoryObject} (balanced : Balanced [] a) (ready : a.ready = object :: rest)
    (hints : Hints) (m : Measure) (w : Std.HashMap ObjectId (Array ObjectId))
    (taken : w[object.id]? = none) (kept : ∀ id, object.id ≠ id → w[id]? = a.waiters[id]?) :
    Balanced (a.waiting object.id)
      { ({ a with ready := rest }).finalize hints object m with waiters := w } := by
  have done (id : ObjectId) := isFinalized_finalize hints { a with ready := rest } object m id
  have outside : a.parked[object.id]? = none :=
    (contains_parked_eq_false_iff a object.id).mp (balanced.ready object (by simp [ready])).2
  constructor
  · intro child id
    change (w[child]?.getD #[]).toList.count id =
      if Shelf.isFinalized _ child = true then 0 else (a.parkedLinks id).count child
    rw [done]
    by_cases same : object.id = child
    · subst same
      simp [taken]
    · rw [kept child same, beq_eq_false_iff_ne.mpr same, Bool.or_false]
      exact balanced.listed child id
  · intro child present
    change w.contains child = true at present
    change (w[child]?.getD #[]).toList ≠ []
    by_cases same : object.id = child
    · subst same
      rw [Std.HashMap.contains_eq_isSome_getElem?, taken] at present
      contradiction
    · rw [Std.HashMap.contains_eq_isSome_getElem?, kept child same,
        ← Std.HashMap.contains_eq_isSome_getElem?] at present
      rw [kept child same]
      exact balanced.inhabited child present
  · intro id entry found
    change a.parked[id]? = some entry at found
    obtain ⟨named, unmeasured, positive, missing⟩ := balanced.parked id entry found
    refine ⟨named, ?_, positive, ?_⟩
    · rw [done, Bool.or_eq_false_iff, beq_eq_false_iff_ne]
      refine ⟨unmeasured, fun same => ?_⟩
      subst same
      rw [outside] at found
      contradiction
    · -- What an object misses falls by its links to the measured one, which are now owed.
      have split := unmet_finalize hints { a with ready := rest } object m entry.object
      rw [missing, List.count_nil, balanced.listed, parkedLinks_of_parked found]
      exact split
  · exact fun id member => balanced.parked_of_waiting member
  · intro other member
    obtain ⟨all, free⟩ := balanced.ready other (by rw [ready]; exact List.mem_cons_of_mem _ member)
    refine ⟨?_, free⟩
    rw [unmet_eq_nil_iff] at all ⊢
    intro child inside
    rw [done, all child inside]
    rfl

/-- A ready object can be measured and everyone who waits for it told. -/
theorem Balanced.announce_finalize {a : Assembly} {object : HistoryObject}
    {rest : List HistoryObject} (balanced : Balanced [] a) (ready : a.ready = object :: rest)
    (hints : Hints) (m : Measure) :
    ∃ w b, (({ a with ready := rest } : Assembly).finalize hints object m).announce object.id =
        (b, none) ∧ Balanced [] b ∧
      Moved { ({ a with ready := rest } : Assembly).finalize hints object m with waiters := w } b := by
  cases found : a.waiters[object.id]? with
  | none =>
    have left := balanced.finalized ready hints m a.waiters found fun _ _ => rfl
    rw [waiting, found] at left
    exact ⟨a.waiters, _, by rw [announce]; simp only [finalize, found], left, .refl _⟩
  | some parents =>
    have left := balanced.finalized ready hints m (a.waiters.erase object.id)
      Std.HashMap.getElem?_erase_self
      fun id different => by simp [Std.HashMap.getElem?_erase, different]
    rw [waiting, found] at left
    obtain ⟨b, told, settled, moved⟩ := left.meetAll object.id
    refine ⟨a.waiters.erase object.id, b, ?_, settled, moved⟩
    rw [announce]
    simp only [finalize, found]
    exact told

/-! An object is accepted. -/

/-- Whoever is enlisted comes after those who wait already, once for each link. -/
theorem toList_enlist (parent : ObjectId) (w : Std.HashMap ObjectId (Array ObjectId))
    (children : List ObjectId) (child : ObjectId) :
    ((children.foldl (enlist parent) w)[child]?.getD #[]).toList =
      (w[child]?.getD #[]).toList ++ List.replicate (children.count child) parent := by
  induction children generalizing w with
  | nil => simp
  | cons first rest ih =>
    rw [List.foldl_cons, ih, enlist, Std.HashMap.getElem?_alter, List.count_cons]
    by_cases same : first = child
    · subst same
      simp [List.replicate_succ]
    · simp [same]

private theorem count_enlist (parent id : ObjectId) (w : Std.HashMap ObjectId (Array ObjectId))
    (children : List ObjectId) (child : ObjectId) :
    ((children.foldl (enlist parent) w)[child]?.getD #[]).toList.count id =
      (w[child]?.getD #[]).toList.count id + if parent = id then children.count child else 0 := by
  rw [toList_enlist, List.count_append, List.count_replicate]
  simp only [beq_iff_eq]

private theorem inhabited_enlist (parent : ObjectId) (w : Std.HashMap ObjectId (Array ObjectId))
    (children : List ObjectId)
    (before : ∀ child, w.contains child = true → (w[child]?.getD #[]).toList ≠ [])
    (child : ObjectId) (present : (children.foldl (enlist parent) w).contains child = true) :
    ((children.foldl (enlist parent) w)[child]?.getD #[]).toList ≠ [] := by
  induction children generalizing w with
  | nil => exact before child present
  | cons first rest ih =>
    refine ih (enlist parent w first) (fun other inside => ?_) present
    rw [enlist, Std.HashMap.contains_alter] at inside
    rw [enlist, Std.HashMap.getElem?_alter]
    by_cases same : first = other
    · simp [same]
    · simp only [beq_iff_eq, same, if_false] at inside ⊢
      exact before other inside

theorem knows_eq_false_iff (a : Assembly) (id : ObjectId) :
    a.knows id = false ↔ a.shelf.isFinalized id = false ∧ a.parked[id]? = none := by
  rw [knows, Bool.or_eq_false_iff, contains_parked_eq_false_iff]

theorem Balanced.accept_ready {a : Assembly} {object : HistoryObject} (balanced : Balanced [] a)
    (new : a.knows object.id = false) (met : unmet a.shelf object = []) :
    Balanced [] { a with ready := object :: a.ready } where
  listed := balanced.listed
  inhabited := balanced.inhabited
  parked := balanced.parked
  owed := balanced.owed
  ready := List.forall_mem_cons.mpr
    ⟨⟨met, (contains_parked_eq_false_iff a object.id).mpr ((knows_eq_false_iff a object.id).mp new).2⟩,
      balanced.ready⟩

/-- The assembly in which an object is parked, and each object it misses knows that it waits. -/
def park (a : Assembly) (object : HistoryObject) : Assembly :=
  let parked := a.parked.insert object.id ⟨object, (unmet a.shelf object).length⟩
  { a with
    waiters := (unmet a.shelf object).foldl (enlist object.id) a.waiters
    parked := parked
    statistics :=
      { a.statistics with peakParked := max a.statistics.peakParked parked.size } }

theorem Balanced.park {a : Assembly} {object : HistoryObject} (balanced : Balanced [] a)
    (new : a.knows object.id = false) (some : unmet a.shelf object ≠ [])
    (alone : ∀ other ∈ a.ready, other.id = object.id → other = object) :
    Balanced [] (a.park object) := by
  obtain ⟨unmeasured, outside⟩ := (knows_eq_false_iff a object.id).mp new
  constructor
  · intro child id
    have before := balanced.listed child id
    simp only [waiting, parkedLinks, Assembly.park] at before ⊢
    rw [count_enlist, before, Std.HashMap.getElem?_insert]
    by_cases same : object.id = id
    · subst same
      simp only [if_true, count_unmet, beq_self_eq_true, Option.map_some, Option.getD_some, outside,
        Option.map_none, Option.getD_none, List.count_nil]
      split <;> omega
    · simp [same]
  · intro child present
    exact inhabited_enlist object.id a.waiters _ balanced.inhabited child present
  · intro id entry found
    simp only [Assembly.park, Std.HashMap.getElem?_insert, beq_iff_eq] at found
    split at found
    · rename_i same
      subst same
      obtain rfl := Option.some.inj found
      exact ⟨rfl, unmeasured, List.length_pos_of_ne_nil some, by simp [Assembly.park]⟩
    · exact balanced.parked id entry found
  · intro id member
    contradiction
  · intro other member
    obtain ⟨all, free⟩ := balanced.ready other member
    refine ⟨all, ?_⟩
    have different : object.id ≠ other.id := by
      intro same
      rw [alone other member same.symm] at all
      exact some all
    simp only [Assembly.park, Std.HashMap.contains_insert, free, Bool.or_false,
      beq_eq_false_iff_ne]
    exact different

end HistorySurvey.Assembly
