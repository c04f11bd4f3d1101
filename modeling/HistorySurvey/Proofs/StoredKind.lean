import HistorySurvey.Proofs.Exploration

/-! The kinds that a walk tells of its objects. Each is read as the first link to it says, and that
is checked only for trees, commits and tags. So what is called a blob and is none passes for one, and
what it leads to is not followed. -/
namespace HistorySurvey.Git
open ObjectStream Dependency Assembly

/-- An object passes for a blob and is stored as something else. -/
def Misread (store : Store) (object : HistoryObject) : Prop :=
  ∃ stored, store[object.id]? = some stored ∧ stored.kind ≠ .blob ∧
    object = { HistoryObject.blob object.id stored.content.length with name := object.name }

/-- One of some objects, which is stored as it is, says that another id is of a kind. -/
def Tells (store : Store) (objects : List HistoryObject) (id : ObjectId) (kind : Kind) : Prop :=
  ∃ source ∈ objects, Genuine store source ∧
    ∃ stored, store[source.id]? = some stored ∧ (id, kind) ∈ stored.leads

/-- A stored object calls another one a blob that is none. -/
def Miscalls (store : Store) (source target : ObjectId) : Prop :=
  ∃ stored other, store[source]? = some stored ∧ (target, Kind.blob) ∈ stored.leads ∧
    store[target]? = some other ∧ other.kind ≠ .blob

variable {store : Store} {roots : Set ObjectId} {objects before : List HistoryObject}
  {object : HistoryObject}

theorem Tells.mono {id : ObjectId} {kind : Kind} (tells : Tells store objects id kind)
    (within : objects ⊆ before) : Tells store before id kind := by
  obtain ⟨source, member, genuine⟩ := tells
  exact ⟨source, within member, genuine⟩

theorem Misread.kind (misread : Misread store object) : object.kind = .blob := by
  obtain ⟨_, _, _, same⟩ := misread
  rw [same]
  rfl

theorem Genuine.stored (genuine : Genuine store object) :
    ∃ stored, store[object.id]? = some stored ∧ object.kind = stored.kind := by
  obtain ⟨stored, original, found, described, portrays⟩ := genuine
  exact ⟨stored, found, portrays.kind.trans (StoredObject.frame_of_describe? described).2.1⟩

/-- How an object comes to be read after others: as the kind that a root is stored as or that one of
the others says it is. -/
structure Found (store : Store) (roots : Set ObjectId) (before : List HistoryObject)
    (object : HistoryObject) : Prop where
  told : object.id ∈ roots ∧ Genuine store object ∨ Tells store before object.id object.kind
  read : Genuine store object ∨ Misread store object

/-- Only what an object before it calls a blob can be misread. -/
theorem Found.miscalled (found : Found store roots before object) (other : ¬ Genuine store object) :
    Misread store object ∧ ∃ source ∈ before, Miscalls store source.id object.id := by
  have misread := found.read.resolve_left other
  refine ⟨misread, ?_⟩
  rcases found.told with ⟨_, genuine⟩ | ⟨source, member, _, origin, inside, lead⟩
  · exact absurd genuine other
  · rw [misread.kind] at lead
    obtain ⟨stored, there, none, _⟩ := misread
    exact ⟨source, member, origin, stored, inside, lead, there, none⟩

namespace Walk

section
variable {item : Discovery} {stored : StoredObject} {n : Nat} {reading : Reading}

theorem kind_of_read? (read : read? n item stored = some reading) :
    reading.object.kind = item.kind.getD stored.kind := by
  rcases read?_eq read with ⟨blob, same, _⟩ | ⟨original, known, described, portrays, _⟩
  · rw [same, blob]
    rfl
  · rw [portrays.kind, (StoredObject.frame_of_describe? described).2.1, known]

theorem genuine_or_misread (found : store[item.id]? = some stored)
    (read : read? n item stored = some reading) :
    Genuine store { reading.object with name := item.name } ∨
      Misread store { reading.object with name := item.name } ∧ reading.next = [] := by
  by_cases known : item.kind.getD stored.kind = stored.kind
  · exact .inl (genuine_of_read? found read known)
  · rcases read?_eq read with ⟨blob, same, nothing⟩ | ⟨_, also, _⟩
    · rw [blob] at known
      rw [same]
      exact .inr ⟨⟨stored, found, Ne.symm known, rfl⟩, nothing⟩
    · exact absurd also known

end

/-- What waits is a root, or what an object read before says it is, and so was all that was read. -/
structure Told (store : Store) (roots : Set ObjectId) (objects : List HistoryObject) (w : Walk) :
    Prop where
  waiting : ∀ item ∈ w.stack, item.kind = none ∧ item.id ∈ roots ∨
    ∃ kind, item.kind = some kind ∧ Tells store objects item.id kind
  found : ∀ before object, before ++ [object] <+: objects → Found store roots before object

variable {w after last : Walk} {calls further : List (ObjectId × Option HistoryObject)}

theorem told_start (store : Store) (roots : List (String × ObjectId)) (named : Bool) :
    Told store {id | id ∈ roots.map Prod.snd} [] (start store roots named) := by
  refine ⟨fun item member => .inl ?_, fun before object within => ?_⟩
  · obtain ⟨new, discovers⟩ := exists_discovers ⟨store, [], ∅, 0⟩ (roots.map (rootOf named))
    rw [start_eq] at member
    simp only [discovers.stack, List.append_nil, List.mem_reverse] at member
    obtain ⟨root, chosen, rfl⟩ := List.mem_map.mp (discovers.among member)
    exact ⟨rfl, List.mem_map_of_mem (f := Prod.snd) chosen⟩
  · simp at within

theorem Told.failed (told : Told store roots objects w) {item : Discovery}
    {others : List Discovery} (stack : w.stack = item :: others) (n : Nat) :
    Told store roots objects { w with stack := others, lastLength := n } :=
  ⟨fun other member => told.waiting other (stack ▸ List.mem_cons_of_mem _ member), told.found⟩

theorem Told.read (told : Told store roots objects w) (walked : Walked store roots calls w)
    (step : w.next = .ok (some (object, after))) :
    Told store roots (objects ++ [object]) after := by
  obtain ⟨item, rest, stored, reading, stack, present, read, same, left⟩ := next_read step
  obtain ⟨_, uncalled⟩ := walked.first stack
  have inside : store[item.id]? = some stored := (walked.unread item.id uncalled).symm.trans present
  have named : object.id = item.id := by
    rw [same]
    exact id_of_read? read
  have kind : object.kind = item.kind.getD stored.kind := by
    rw [same]
    exact kind_of_read? read
  have made := genuine_or_misread inside read
  rw [← same] at made
  refine ⟨fun other member => ?_, fun before last within => ?_⟩
  · obtain ⟨new, discovers⟩ := exists_discoverAll { w with
      unread := w.unread.erase item.id
      stack := rest
      lastLength := reading.length } reading.next
    rw [← left] at discovers
    rw [discovers.stack, List.mem_append] at member
    rcases member with added | later
    · -- Something new is found only by what is stored as it is.
      have next := discovers.among added
      obtain ⟨kind, known, lead⟩ := lead_of_read? read next
      rcases made with genuine | ⟨_, nothing⟩
      · exact .inr ⟨kind, known, object, by simp, genuine, stored, named ▸ inside, lead⟩
      · rw [nothing] at next
        contradiction
    · refine (told.waiting other (stack ▸ List.mem_cons_of_mem _ later)).imp_right ?_
      rintro ⟨kind, known, tells⟩
      exact ⟨kind, known, tells.mono (List.subset_append_left _ _)⟩
  · rcases List.prefix_concat_iff.mp within with whole | earlier
    · obtain ⟨rfl, rfl⟩ := List.append_singleton_inj.mp whole
      refine ⟨?_, made.imp_right And.left⟩
      rcases told.waiting item (stack ▸ List.mem_cons_self) with ⟨unknown, root⟩ | ⟨told, known, tells⟩
      · refine .inl ⟨named ▸ root, ?_⟩
        rw [same]
        exact genuine_of_read? inside read (by rw [unknown]; rfl)
      · rw [known] at kind
        rw [kind, named]
        exact .inr tells
    · exact told.found before last earlier

theorem Calls.told (made : Calls w further last) (walked : Walked store roots calls w)
    (told : Told store roots (produced calls) w) :
    Told store roots (produced (calls ++ further)) last := by
  induction made generalizing calls with
  | nil w =>
    rw [List.append_nil]
    exact told
  | read w object between rest last step _ ih =>
    have next := told.read walked step
    rw [← produced_concat_some calls object.id object] at next
    have whole := ih (walked.read step) next
    rw [List.append_assoc] at whole
    exact whole
  | failed w item others error n rest last stack _ _ ih =>
    have next := told.failed stack n
    rw [← produced_concat_none calls item.id] at next
    have whole := ih (walked.failed stack n) next
    rw [List.append_assoc] at whole
    exact whole

end Walk

/-- Where links are of the kinds that are expected, what an object says of them is right, but for the
blobs and directories of a tree and for the target of a tag. -/
theorem StoredObject.stated_of_fits {stored : StoredObject} {id : ObjectId}
    {original : HistoryObject} (described : stored.describe? id = some original)
    {kind : ObjectId → Option Kind} (fits : original.Fits kind) :
    ∀ lead ∈ stored.leads, kind lead.1 = some lead.2 ∨
      stored.kind = .tree ∧ (lead.2 = .blob ∨ kind lead.1 = some .blob) ∨ stored.kind = .tag := by
  unfold describe? at described
  unfold leads
  unfold HistoryObject.Fits at fits
  intro lead listed
  cases known : stored.kind with
  | blob =>
    rw [known] at listed
    contradiction
  | tree =>
    simp only [known] at described listed
    obtain ⟨entries, read, rfl⟩ := Option.map_eq_some_iff.mp described
    rw [read, Option.getD_some] at listed
    obtain ⟨entry, inside, leads⟩ := List.mem_filterMap.mp listed
    unfold TreeEntry.lead? at leads
    split at leads
    · contradiction
    · rename_i directory
      obtain rfl := Option.some.inj leads
      have needed : entry.target ∈
          (HistoryObject.tree id stored.content.length (entries.map Walk.linkOf)).dependencies := by
        refine List.mem_map.mpr ⟨Walk.linkOf entry, List.mem_filter.mpr ⟨?_, ?_⟩, rfl⟩
        · exact List.mem_map_of_mem inside
        · simp [Walk.linkOf, directory]
      rcases fits entry.target needed with blob | tree
      · exact .inr (.inl ⟨rfl, .inr blob⟩)
      · exact .inl tree
    all_goals
      obtain rfl := Option.some.inj leads
      exact .inr (.inl ⟨rfl, .inl rfl⟩)
  | commit =>
    simp only [known] at described listed
    obtain ⟨⟨root, parents⟩, read, rfl⟩ := Option.map_eq_some_iff.mp described
    rw [read, Option.map_some, Option.getD_some] at listed
    obtain ⟨_, _, same, first, others⟩ := fits
    obtain ⟨rfl, rfl⟩ := List.cons.inj same
    rcases List.mem_cons.mp listed with rfl | later
    · exact .inl first
    · obtain ⟨parent, member, rfl⟩ := List.mem_map.mp later
      exact .inl (others (.toObject parent) (List.mem_map_of_mem member))
  | tag => exact .inr (.inr rfl)

theorem Genuine.stated (genuine : Genuine store object)
    (fits : object.Fits (Reference.kindIn objects)) {stored : StoredObject}
    (found : store[object.id]? = some stored) :
    ∀ lead ∈ stored.leads, Reference.kindIn objects lead.1 = some lead.2 ∨
      stored.kind = .tree ∧ (lead.2 = .blob ∨ Reference.kindIn objects lead.1 = some .blob) ∨
      stored.kind = .tag := by
  obtain ⟨other, original, also, described, portrays⟩ := genuine
  obtain rfl := Option.some.inj (found.symm.trans also)
  exact StoredObject.stated_of_fits described ((portrays.fits_iff _).mp fits)

/-- If all objects that can be reached are called what they are, or are not called blobs at least,
nothing is misread. -/
theorem Found.genuine (found : Found store roots before object)
    (reachable : ∀ source ∈ before, Reachable store roots source.id)
    (called : ∀ source target, Reachable store roots source → ¬ Miscalls store source target) :
    Genuine store object := by
  by_contra other
  obtain ⟨_, source, member, miscalls⟩ := found.miscalled other
  exact called source.id object.id (reachable source member) miscalls

/-- A commit is not wrong about its links if they are of the kinds that are expected. -/
theorem stated_of_commit (read : ∀ object ∈ objects, Genuine store object ∨ Misread store object)
    (fits : object.Fits (Reference.kindIn objects)) (genuine : Genuine store object)
    {stored : StoredObject} (found : store[object.id]? = some stored)
    (commit : stored.kind = .commit) :
    ∀ lead ∈ stored.leads, ∃ other, store[lead.1]? = some other ∧ other.kind = lead.2 := by
  intro lead listed
  have other : lead.2 ≠ .blob := by
    simp only [StoredObject.leads, commit] at listed
    cases links : commitLinks? stored.content with
    | none =>
      rw [links] at listed
      contradiction
    | some both =>
      rw [links] at listed
      rcases List.mem_cons.mp listed with rfl | later
      · simp
      · obtain ⟨parent, _, rfl⟩ := List.mem_map.mp later
        simp
  rcases genuine.stated fits found lead listed with known | ⟨tree, _⟩ | tag
  · obtain ⟨target, distinct, same, kind⟩ := (kindIn_eq_some_iff objects _ _).mp known
    rcases read target (mem_of_mem_firstOccurrences distinct) with right | misread
    · obtain ⟨held, there, equal⟩ := right.stored
      exact ⟨held, same ▸ there, equal.symm.trans kind⟩
    · exact absurd (kind.symm.trans misread.kind) other
  · rw [commit] at tree
    contradiction
  · rw [commit] at tag
    contradiction

/-- Where nothing is wrongly called a blob, only directories that are blobs and targets of tags may
be called something else than they are. -/
theorem Portrait.stated (portrait : Portrait store roots objects)
    (fitting : Reference.WellKinded objects)
    (called : ∀ source target, Reachable store roots source → ¬ Miscalls store source target)
    {source : ObjectId} (reachable : Reachable store roots source) {stored : StoredObject}
    (found : store[source]? = some stored) :
    ∀ lead ∈ stored.leads, ∃ other, store[lead.1]? = some other ∧ (other.kind = lead.2 ∨
      stored.kind = .tree ∧ other.kind = .blob ∨ stored.kind = .tag) := by
  intro lead listed
  have next := reachable.tail ⟨stored, found, List.mem_map_of_mem listed⟩
  obtain ⟨target, member, same⟩ := List.mem_map.mp ((portrait.ids lead.1).mpr next)
  obtain ⟨other, there, _⟩ := Genuine.stored (portrait.portrays target member)
  rw [same] at there
  have known := portrait.kindIn next there
  obtain ⟨object, distinct, rfl⟩ := List.mem_map.mp
    ((ids_firstOccurrences objects source).mpr ((portrait.ids source).mpr reachable))
  have genuine := portrait.portrays object (mem_of_mem_firstOccurrences distinct)
  refine ⟨other, there, ?_⟩
  rcases Genuine.stated genuine (fitting object distinct) found lead listed with
    right | ⟨tree, blob | blob⟩ | tag
  · exact .inl (Option.some.inj (known.symm.trans right))
  · -- What is called a blob is one.
    refine .inl (by_contra fun wrong => called object.id lead.1 reachable ?_)
    rw [blob] at wrong
    exact ⟨stored, other, found, blob ▸ listed, there, wrong⟩
  · exact .inr (.inl ⟨tree, Option.some.inj (known.symm.trans blob)⟩)
  · exact .inr (.inr tag)

namespace History
variable {filter : References.Filter} {named : Bool} {r : Repository} {h : History}

theorem told_stream (opened : ofRepository filter named r = .ok h) :
    ∀ before object, before ++ [object] <+: h.stream.objects →
      Found r.store (r.selected filter) before object := by
  obtain ⟨calls, last, made, _, whole, _⟩ := walked_stream opened
  obtain ⟨chosen, selected, walk⟩ := walk_of_opened opened
  have told := made.told (walked_of_opened opened) (by
    rw [selected, walk]
    exact Walk.told_start r.store chosen named)
  rw [List.nil_append, whole] at told
  exact told.found

theorem found_stream (opened : ofRepository filter named r = .ok h)
    (member : object ∈ h.stream.objects) :
    ∃ before, before ⊆ h.stream.objects ∧ Found r.store (r.selected filter) before object := by
  obtain ⟨before, after, parts⟩ := List.append_of_mem member
  refine ⟨before, parts ▸ List.subset_append_left _ _, told_stream opened before object ⟨after, ?_⟩⟩
  rw [parts, List.append_assoc]
  rfl

theorem wellKinded_stream {stopAfter : Option Nat} {s : Summary}
    (fine : (Survey.run h.stream stopAfter).result = .ok s) :
    Reference.WellKinded h.stream.objects := by
  obtain ⟨journal, b, accounted, all, _⟩ := accounted_of_stream fine
  exact fun object distinct =>
    accounted.fits (List.prefix_refl _) (accounted.mem_journal distinct (all object distinct))

theorem portrait_of_called (opened : ofRepository filter named r = .ok h)
    (unfailing : h.stream.failure = none)
    (called : ∀ source target, Reachable r.store (r.selected filter) source →
      ¬ Miscalls r.store source target) :
    Portrait r.store (r.selected filter) h.stream.objects := by
  obtain ⟨calls, last, _, walked, whole, read, stops⟩ := walked_stream opened
  rw [unfailing] at stops
  rw [← whole]
  refine walked.portrait (fun object member => ?_) read stops
  obtain ⟨before, within, found⟩ := found_stream opened (whole ▸ member)
  refine found.genuine (fun source earlier => walked.reachable source.id ?_) called
  have inside : source ∈ Walk.produced calls := whole ▸ within earlier
  exact walked.ids_produced.1.subset (List.mem_map_of_mem inside)

end History

/-- Each object is produced as the kind that it is stored as, or it is called a blob by an object
before it and passes for one. A survey that gives a summary did not meet a commit that is wrong about
its links. If besides nothing that can be reached is wrongly called a blob, it has all that can be
reached, each as what it is stored as, and what a link is still wrong about is a directory that is a
blob or the target of a tag. -/
theorem kinds_as_stored (filter : References.Filter) (named : Bool) (r : Repository) {h : History}
    (opened : History.ofRepository filter named r = .ok h) :
    let roots := r.selected filter
    (∀ before object, before ++ [object] <+: h.stream.objects →
      (object.id ∈ roots ∧ Genuine r.store object ∨
        Tells r.store before object.id object.kind) ∧
      (Genuine r.store object ∨ Misread r.store object)) ∧
    ∀ stopAfter s, (Survey.run h.stream stopAfter).result = .ok s →
      (∀ source ∈ h.stream.objects, source.kind = .commit →
        ∀ stored, r.store[source.id]? = some stored → ∀ lead ∈ stored.leads,
          ∃ other, r.store[lead.1]? = some other ∧ other.kind = lead.2) ∧
      ((∀ source target, Reachable r.store roots source → ¬ Miscalls r.store source target) →
        Portrait r.store roots h.stream.objects ∧
        ∀ source, Reachable r.store roots source →
          ∀ stored, r.store[source]? = some stored → ∀ lead ∈ stored.leads,
            ∃ other, r.store[lead.1]? = some other ∧ (other.kind = lead.2 ∨
              stored.kind = .tree ∧ other.kind = .blob ∨ stored.kind = .tag)) := by
  intro roots
  refine ⟨fun before object within => ?_, fun stopAfter s fine => ⟨?_, fun called => ?_⟩⟩
  · have found := History.told_stream opened before object within
    exact ⟨found.told, found.read⟩
  · intro source member commit stored found
    have read : ∀ object ∈ h.stream.objects, Genuine r.store object ∨ Misread r.store object := by
      intro object member
      obtain ⟨_, _, found⟩ := History.found_stream opened member
      exact found.read
    have genuine : Genuine r.store source := by
      refine (read source member).resolve_right fun misread => ?_
      rw [misread.kind] at commit
      contradiction
    have fits := History.wellKinded_stream fine source (by
      rw [firstOccurrences_of_nodup (History.distinct_stream opened)]
      exact member)
    obtain ⟨other, also, same⟩ := genuine.stored
    obtain rfl := Option.some.inj (found.symm.trans also)
    exact stated_of_commit read fits genuine found (same.symm.trans commit)
  · have portrait := History.portrait_of_called opened (finish_of_stream fine).1.2 called
    exact ⟨portrait, fun source reachable stored found =>
      portrait.stated (History.wellKinded_stream fine) called reachable found⟩

/-- No link of the tag, the commits and the trees is wrong about a kind, so all are surveyed as what
they are. -/
theorem kinds_as_stored_released :
    History.ofRepository .all false releasedRepository = .ok releasedHistory ∧
    (∃ s, (Survey.run releasedHistory.stream none).result = .ok s) ∧
    Portrait releasedRepository.store (releasedRepository.selected .all)
      releasedHistory.stream.objects ∧
    ∀ object ∈ releasedHistory.stream.objects, object.kind = .commit →
      object.id = releaseCommit ∨ object.id = firstCommit := by
  have intact := released_selected ▸ released_intact
  obtain ⟨unfailing, left⟩ := History.portrait_stream released_opened intact
  obtain ⟨s, fine⟩ := left.exists_summary intact unfailing rfl
  obtain ⟨portrait, _⟩ := ((kinds_as_stored .all false releasedRepository released_opened).2
    none s fine).2 fun source target reachable ⟨stored, other, found, listed, there, wrong⟩ =>
      wrong (intact.stated source reachable stored found _ listed other there)
  refine ⟨released_opened, ⟨s, fine⟩, portrait, fun object member commit => ?_⟩
  have mirrors := released_selected ▸ released_listed.mirrors
  have commits : ∀ other ∈ releasedObjects, other.kind = .commit →
      other.id = releaseCommit ∨ other.id = firstCommit := by decide
  obtain ⟨other, inside, same⟩ := List.mem_map.mp
    ((mirrors.ids object.id).mpr (portrait.reachable member))
  rw [← same]
  exact commits other inside ((mirrors.portrait.alike portrait inside member same).1.trans commit)

/-! A repository in which the only entry of a tree is said to be a file and is a tree with a file. -/

def coverTree : ObjectId := .ofNat 0x180104d0338cd1581d96e593a63e00ee10cc14a0

def hiddenTree : ObjectId := .ofNat 0x0976950c1fdbcb52435a433913017bf044b3a58f

def hiddenBlob : ObjectId := .ofNat 0xce013625030ba8dba906f756967f9e9ca394464a

def coverEntry : TreeEntry := ⟨.file, [0x64, 0x6f, 0x63, 0x73], hiddenTree⟩

/-- The mode of a file, a name, a zero byte, and the id of the other tree. -/
def coverContent : Bytes :=
  [0x31, 0x30, 0x30, 0x36, 0x34, 0x34, 0x20, 0x64, 0x6f, 0x63, 0x73, 0x00,
    0x09, 0x76, 0x95, 0x0c, 0x1f, 0xdb, 0xcb, 0x52, 0x43, 0x5a,
    0x43, 0x39, 0x13, 0x01, 0x7b, 0xf0, 0x44, 0xb3, 0xa5, 0x8f]

def hiddenContent : Bytes :=
  [0x31, 0x30, 0x30, 0x36, 0x34, 0x34, 0x20, 0x61, 0x00,
    0xce, 0x01, 0x36, 0x25, 0x03, 0x0b, 0xa8, 0xdb, 0xa9, 0x06,
    0xf7, 0x56, 0x96, 0x7f, 0x9e, 0x9c, 0xa3, 0x94, 0x46, 0x4a]

def coveredRepository : Repository :=
  { objects := [(coverTree, ⟨.tree, coverContent⟩), (hiddenTree, ⟨.tree, hiddenContent⟩),
      (hiddenBlob, ⟨.blob, [0x68, 0x65, 0x6c, 0x6c, 0x6f, 0x0a]⟩)]
    loose := [("refs/heads/main", "180104d0338cd1581d96e593a63e00ee10cc14a0")]
    packed := []
    shallow := false }

def coveredHistory : History :=
  { selection := [("refs/heads/main", true)]
    walk := .start coveredRepository.store [("refs/heads/main", coverTree)] false }

/-- What is found in it. -/
def coveredObjects : List HistoryObject :=
  [.tree coverTree 32 [Walk.linkOf coverEntry], .blob hiddenTree 29]

private theorem covered_references :
    coveredRepository.references = .ok [("refs/heads/main", coverTree)] := by
  decide +kernel

private theorem covered_opened :
    History.ofRepository .all false coveredRepository = .ok coveredHistory :=
  History.ofRepository_single false rfl covered_references chooses_main

private theorem covered_stored {id : ObjectId} {stored : StoredObject}
    (listed : (id, stored) ∈ coveredRepository.objects) :
    coveredRepository.store[id]? = some stored := by
  have kept := Repository.replacements_single covered_references (by decide)
  have apart : ∀ entry ∈ coveredRepository.objects, entry.1 ≠ emptyTree := by decide
  exact Repository.store_of_mem kept listed (by decide) (apart _ listed)

private theorem cover_entries : treeEntries? coverContent = some [coverEntry] := by
  decide +kernel

/-- The tree that is said to be a file is read as a blob. -/
theorem covered_walk : coveredHistory.walk.objects = (coveredObjects, none) := by
  have read : Walk.read? 0 ⟨coverTree, none, none⟩ ⟨.tree, coverContent⟩ =
      some ⟨.tree coverTree 32 [Walk.linkOf coverEntry], [⟨hiddenTree, some .blob, none⟩], 32⟩ := by
    have apart : coverTree ≠ emptyTree := by decide
    simp only [Walk.read?, Option.getD_none, cover_entries, if_neg apart, ne_eq,
      not_true_eq_false, if_false]
    rfl
  have further : Walk.read? 32 ⟨hiddenTree, some .blob, none⟩ ⟨.tree, hiddenContent⟩ =
      some ⟨.blob hiddenTree 29, [], 32⟩ := rfl
  exact Walk.objects_pair _ (by decide) (covered_stored (by decide)) (covered_stored (by decide))
    read rfl further rfl

/-- A survey gives a summary although a tree passes for a blob in it and the blob in that tree is left
out. -/
theorem hidden_tree_passes :
    History.ofRepository .all false coveredRepository = .ok coveredHistory ∧
    (∃ s, (Survey.run coveredHistory.stream none).result = .ok s) ∧
    coveredRepository.store[hiddenTree]? = some ⟨.tree, hiddenContent⟩ ∧
    (∃ object ∈ coveredHistory.stream.objects, object.id = hiddenTree ∧ object.kind = .blob) ∧
    Reachable coveredRepository.store (coveredRepository.selected .all) hiddenBlob ∧
    hiddenBlob ∉ coveredHistory.stream.objects.map HistoryObject.id := by
  have cover : coveredRepository.store[coverTree]? = some ⟨.tree, coverContent⟩ :=
    covered_stored (by decide)
  have hidden : coveredRepository.store[hiddenTree]? = some ⟨.tree, hiddenContent⟩ :=
    covered_stored (by decide)
  have objects : coveredHistory.stream.objects = coveredObjects := by
    rw [History.stream, covered_walk]
  have summary : ∃ s, (Survey.run coveredHistory.stream none).result = .ok s := by
    have unfailing : coveredHistory.stream.failure = none := by
      rw [History.stream, covered_walk]
    have acyclic : Acyclic coveredObjects :=
      .of_falling (fun id => if id = coverTree then 1 else 0) (by decide)
    refine run_of_sound _ unfailing (truthful_none _) ?_ ?_ ?_ ?_ <;> rw [objects]
    · decide
    · exact .of_listed (by decide)
    · exact acyclic
    · exact .of_forall (by decide)
  have reachable : Reachable coveredRepository.store (coveredRepository.selected .all) hiddenBlob := by
    have root : coverTree ∈ coveredRepository.selected .all :=
      ⟨_, "refs/heads/main", covered_references, List.mem_singleton_self _, chooses_main⟩
    have inner : treeEntries? hiddenContent = some [⟨.file, [0x61], hiddenBlob⟩] := by decide +kernel
    have first : Leads coveredRepository.store coverTree hiddenTree :=
      ⟨_, cover, by simp [StoredObject.leads, cover_entries, TreeEntry.lead?, coverEntry]⟩
    have second : Leads coveredRepository.store hiddenTree hiddenBlob :=
      ⟨_, hidden, by simp [StoredObject.leads, inner, TreeEntry.lead?]⟩
    exact ((Reachable.root root).tail first).tail second
  refine ⟨covered_opened, summary, hidden, ?_, reachable, ?_⟩ <;> rw [objects]
  · exact ⟨.blob hiddenTree 29, by simp [coveredObjects], rfl, rfl⟩
  · decide

end HistorySurvey.Git
