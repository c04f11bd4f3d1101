import HistorySurvey.Proofs.Interruption
import HistorySurvey.Proofs.Release

/-! Hints that may be wrong. A measure that is used more often than its source told is forgotten too
early. An assembly that forgets goes through the same steps as one that keeps every measure, until
it misses one. -/
namespace HistorySurvey.Shelf

/-- Whatever is on the shelf stays there for good. -/
def Lasting (t : Shelf) : Prop :=
  ∀ (id : ObjectId) (place : Place), t.places[id]? = some place → ∃ m, place = ⟨some m, none⟩

/-- A shelf that has forgotten some of the measures on another one. -/
structure Forgets (s t : Shelf) : Prop where
  finalized : ∀ id, s.isFinalized id = t.isFinalized id
  kept : ∀ id m, s.get? id = some m → t.get? id = some m

variable {s t : Shelf}

theorem Lasting.put (lasting : t.Lasting) (id : ObjectId) (m : Measure) :
    (t.put id m none).Lasting := by
  cases known : t.isFinalized id with
  | true =>
    rw [put_of_known known]
    exact lasting
  | false =>
    intro other place found
    rw [places_put known] at found
    split at found
    · exact ⟨m, (Option.some.inj found).symm⟩
    · exact lasting other place found

theorem Lasting.consume_eq (lasting : t.Lasting) (id : ObjectId) : t.consume id = t := by
  unfold consume
  cases found : t.places[id]? with
  | none => rfl
  | some place =>
    obtain ⟨m, rfl⟩ := lasting id place found
    rfl

theorem Lasting.consumeAll_eq (lasting : t.Lasting) (ids : List ObjectId) :
    ids.foldl consume t = t := by
  induction ids with
  | nil => rfl
  | cons id rest ih => rw [List.foldl_cons, lasting.consume_eq, ih]

theorem Lasting.held (lasting : t.Lasting) {id : ObjectId} (measured : t.isFinalized id = true) :
    (t.get? id).isSome = true := by
  obtain ⟨place, found⟩ := Option.ne_none_iff_exists'.mp ((t.isFinalized_iff id).mp measured)
  obtain ⟨m, rfl⟩ := lasting id place found
  simp [get?, found]

theorem Forgets.refl (s : Shelf) : s.Forgets s := ⟨fun _ => rfl, fun _ _ held => held⟩

theorem Forgets.put (forgets : s.Forgets t) (id : ObjectId) (m : Measure) (uses : Option Nat) :
    (s.put id m uses).Forgets (t.put id m none) := by
  have same := forgets.finalized id
  cases known : s.isFinalized id with
  | true =>
    rw [put_of_known known, put_of_known (same.symm.trans known)]
    exact forgets
  | false =>
    refine ⟨fun other => ?_, fun other n held => ?_⟩
    · rw [isFinalized_put, isFinalized_put, forgets.finalized]
    · rw [get?, places_put known] at held
      rw [get?, places_put (same.symm.trans known)]
      split at held
      · rename_i here
        rw [if_pos here]
        simp only [Option.bind_some, measure_placeAfter, Option.ite_none_right_eq_some] at held
        exact held.2
      · rename_i apart
        rw [if_neg apart]
        exact forgets.kept other n held

theorem Forgets.consume (forgets : s.Forgets t) (id : ObjectId) : (s.consume id).Forgets t := by
  refine ⟨fun other => ?_, fun other m held => forgets.kept other m ?_⟩
  · rw [isFinalized_consume, forgets.finalized]
  · rw [get?, places_consume] at held
    split at held
    · cases found : s.places[other]? with
      | none => simp [found] at held
      | some place =>
        obtain ⟨measure, _ | remaining⟩ := place
        · simpa [found, usedOnce, get?] using held
        · simp only [found, usedOnce, Option.map_some, Option.bind_some,
            Option.ite_none_left_eq_some] at held
          rw [get?, found]
          exact held.2
    · exact held

theorem Forgets.consumeAll (forgets : s.Forgets t) (ids : List ObjectId) :
    (ids.foldl Shelf.consume s).Forgets t := by
  induction ids generalizing s with
  | nil => exact forgets
  | cons id rest ih => exact ih (forgets.consume id)

end Shelf

namespace Assembly
open ObjectStream

/-! Measuring from a shelf that has forgotten something. -/

/-- Two computations end alike, or the first one misses something. -/
def AlikeUnless {ε α : Type} (missed : ε → Prop) (x y : Except ε α) : Prop :=
  x = y ∨ ∃ error, x = .error error ∧ missed error

section
variable {ε α β γ : Type} {missed : ε → Prop}

private theorem AlikeUnless.refl (x : Except ε α) : AlikeUnless missed x x := .inl rfl

private theorem AlikeUnless.bind {x y : Except ε α} {f g : α → Except ε β}
    (first : AlikeUnless missed x y) (next : ∀ a, AlikeUnless missed (f a) (g a)) :
    AlikeUnless missed (x >>= f) (y >>= g) := by
  rcases first with rfl | ⟨error, rfl, lost⟩
  · cases x with
    | error error => exact .refl _
    | ok a => exact next a
  · exact .inr ⟨error, rfl, lost⟩

private theorem AlikeUnless.map {x y : Except ε α} (f : α → β) (alike : AlikeUnless missed x y) :
    AlikeUnless missed (f <$> x) (f <$> y) := by
  rcases alike with rfl | ⟨error, rfl, lost⟩
  · exact .refl _
  · exact .inr ⟨error, rfl, lost⟩

private theorem AlikeUnless.foldlM {f g : β → γ → Except ε β} (items : List γ) (b : β)
    (each : ∀ item b, AlikeUnless missed (f b item) (g b item)) :
    AlikeUnless missed (items.foldlM f b) (items.foldlM g b) := by
  induction items generalizing b with
  | nil => exact .refl _
  | cons item rest ih =>
    rw [List.foldlM_cons, List.foldlM_cons]
    exact (each item b).bind ih

end

/-- What an object says of a measure that one shelf has forgotten and another one holds. -/
def Missed (s t : Shelf) (object : HistoryObject) (error : SurveyError) : Prop :=
  ∃ child, s.get? child = none ∧ (t.get? child).isSome = true ∧
    error = .breach (.unmeasured object.kind object.id child)

section
variable {s t : Shelf} (forgets : s.Forgets t) (object : HistoryObject)
include forgets

private theorem lookup_alike (child : ObjectId) :
    AlikeUnless (Missed s t object) (lookup s object child) (lookup t object child) := by
  unfold lookup
  cases held : s.get? child with
  | some m =>
    rw [forgets.kept child m held]
    exact .refl _
  | none =>
    cases other : t.get? child with
    | none => exact .refl _
    | some m =>
      have some : (t.get? child).isSome = true := by
        rw [other]
        rfl
      exact .inr ⟨_, rfl, child, held, some, rfl⟩

private theorem addEntry_alike (entry : Link) (m : TreeMeasure) :
    AlikeUnless (Missed s t object) (addEntry s object m entry) (addEntry t object m entry) := by
  unfold addEntry
  cases entry.mode with
  | symlink => exact .refl _
  | submodule => exact .refl _
  | content => exact (lookup_alike forgets object entry.target).bind fun _ => .refl _

private theorem addParent_alike (parent : Link) (m : CommitMeasure) :
    AlikeUnless (Missed s t object) (addParent s object m parent) (addParent t object m parent) :=
  (lookup_alike forgets object parent.target).bind fun _ => .refl _

theorem measure_alike : AlikeUnless (Missed s t object) (measure s object) (measure t object) := by
  unfold measure
  cases object.kind with
  | blob => exact .refl _
  | tree => exact .map _ (.foldlM object.links _ (addEntry_alike forgets object))
  | commit =>
    refine .map _ ?_
    unfold measureCommit
    cases object.links with
    | nil => exact .refl _
    | cons root parents =>
      refine (lookup_alike forgets object root.target).bind fun found => ?_
      cases found with
      | tree tree => exact .foldlM parents _ (addParent_alike forgets object)
      | _ => exact .refl _
  | tag =>
    refine .map _ ?_
    unfold measureTag
    cases object.links with
    | nil => exact .refl _
    | cons target rest => exact (lookup_alike forgets object target.target).bind fun _ => .refl _

theorem measure_of_forgets {m : Measure} (measured : measure s object = .ok m) :
    measure t object = .ok m := by
  rcases measure_alike forgets object with same | ⟨error, failed, _⟩
  · exact same.symm.trans measured
  · rw [measured] at failed
    contradiction

end

/-! The run of an assembly that forgets beside that of one without hints. -/

/-- How an assembly that keeps every measure goes where one that forgets ended so: the same way,
unless the latter missed something. -/
inductive Beside (goes : Journal → Assembly → Option SurveyError → Prop) (final : Journal)
    (b : Assembly) (outcome : Option SurveyError) : Prop
  | alike (v : Assembly) (t : Shelf) (left : b = v.withShelf t) (forgets : t.Forgets v.shelf)
      (lasting : v.shelf.Lasting) (same : goes final v outcome)
  | missed (v : Assembly) (t : Shelf) (object : HistoryObject) (error : SurveyError)
      (reached : Journal) (w : Assembly) (other : Option SurveyError) (left : b = v.withShelf t)
      (forgets : t.Forgets v.shelf) (ended : outcome = some error)
      (lost : Missed t v.shelf object error) (further : goes reached w other)
      (begins : final <:+ reached)

theorem Beside.mono {goes others : Journal → Assembly → Option SurveyError → Prop}
    {final : Journal} {b : Assembly} {outcome : Option SurveyError}
    (beside : Beside goes final b outcome)
    (leads : ∀ reached v ended, goes reached v ended → others reached v ended) :
    Beside others final b outcome := by
  cases beside with
  | alike v t left forgets lasting same =>
    exact .alike v t left forgets lasting (leads final v outcome same)
  | missed v t object error reached w other left forgets ended lost further begins =>
    exact .missed v t object error reached w other left forgets ended lost
      (leads reached w other further) begins

variable {hints : Hints} {journal final : Journal} {u b : Assembly} {s : Shelf}
  {outcome : Option SurveyError} {objects : List HistoryObject}

theorem Settles.suffix {a : Assembly} (settles : Settles hints journal a final b outcome) :
    journal <:+ final := by
  induction settles with
  | idle => exact List.suffix_refl _
  | halted => exact List.suffix_refl _
  | failed => exact List.suffix_refl _
  | lost => exact List.suffix_cons _ _
  | next journal a object rest m b final c outcome _ _ _ _ _ ih =>
    exact (List.suffix_cons _ _).trans ih

private theorem announced_beside {object : HistoryObject} {rest : List HistoryObject} {m : Measure}
    (forgets : s.Forgets u.shelf) (lasting : u.shelf.Lasting)
    (announced : ({ u.withShelf s with ready := rest }.finalize hints object m).announce object.id =
      (b, outcome)) :
    ∃ v t, b = v.withShelf t ∧ t.Forgets v.shelf ∧ v.shelf.Lasting ∧
      ({ u with ready := rest }.finalize (fun _ => none) object m).announce object.id =
        (v, outcome) := by
  have told := finalize_announce_withShelf hints (fun _ => none) u s object rest m
  obtain ⟨left, ended⟩ := Prod.mk.inj (told.symm.trans announced)
  have shelf := (announce_frame ({ u with ready := rest }.finalize (fun _ => none) object m)
    object.id).1
  have put := lasting.put object.id m
  have stays : ({ u with ready := rest }.finalize (fun _ => none) object m).shelf =
      u.shelf.put object.id m none := put.consumeAll_eq object.dependencies
  rw [stays] at shelf
  refine ⟨_, _, left.symm, ?_, ?_, Prod.ext rfl ended⟩
  · rw [shelf]
    exact (forgets.put object.id m (hints object.id)).consumeAll object.dependencies
  · rw [shelf]
    exact put

theorem Settles.beside (settles : Settles hints journal (u.withShelf s) final b outcome)
    (forgets : s.Forgets u.shelf) (lasting : u.shelf.Lasting) :
    Beside (Settles (fun _ => none) journal u) final b outcome := by
  generalize shelved : u.withShelf s = a at settles
  induction settles generalizing u s with
  | idle journal a nothing =>
    subst shelved
    exact .alike u s rfl forgets lasting (.idle journal u nothing)
  | halted journal a object rest ready cancelled =>
    subst shelved
    exact .alike { u with ready := rest } s rfl forgets lasting
      (.halted journal u object rest ready cancelled)
  | failed journal a object rest error ready running measured =>
    subst shelved
    rcases measure_alike forgets object with same | ⟨missing, failed, lost⟩
    · exact .alike { u with ready := rest } s rfl forgets lasting
        (.failed journal u object rest error ready running (same.symm.trans measured))
    · obtain rfl := Except.error.inj (failed.symm.trans measured)
      obtain ⟨reached, further⟩ := settles_settle (fun _ => none) journal u
      exact .missed { u with ready := rest } s object missing reached _ _ rfl forgets rfl lost
        further further.suffix
  | lost journal a object rest m b error ready running measured announced =>
    subst shelved
    obtain ⟨v, t, left, still, lasts, told⟩ := announced_beside forgets lasting announced
    have same := measure_of_forgets forgets object measured
    exact .alike v t left still lasts
      (.lost journal u object rest m v error ready running same told)
  | next journal a object rest m b final c outcome ready running measured announced _ ih =>
    subst shelved
    obtain ⟨v, t, left, still, lasts, told⟩ := announced_beside forgets lasting announced
    have same := measure_of_forgets forgets object measured
    exact (ih still lasts left.symm).mono fun reached w ended further =>
      .next journal u object rest m v reached w ended ready running same told further

theorem Accepts.beside {object : HistoryObject}
    (accepts : Accepts hints journal (u.withShelf s) object final b outcome)
    (forgets : s.Forgets u.shelf) (lasting : u.shelf.Lasting) :
    Beside (Accepts (fun _ => none) journal u object) final b outcome := by
  have knows : (u.withShelf s).knows object.id = u.knows object.id :=
    congrArg (· || u.parked.contains object.id) (forgets.finalized object.id)
  have misses : unmet s object = unmet u.shelf object :=
    List.filter_congr fun child _ => by rw [forgets.finalized]
  cases accepts with
  | known known =>
    let v := { u with statistics := { u.statistics with duplicates := u.statistics.duplicates + 1 } }
    exact .alike v s rfl forgets lasting (.known journal u object (knows ▸ known))
  | parked new missing =>
    refine .alike (u.park object) s ?_ forgets lasting
      (.parked journal u object (knows ▸ new) (misses ▸ missing))
    simp only [park, withShelf, misses]
  | settled _ _ _ new met settles =>
    have pushed : Beside (Settles (fun _ => none) journal { u with ready := object :: u.ready }) final
      b outcome := Settles.beside settles forgets lasting
    exact pushed.mono fun reached v ended settles =>
      .settled journal u object reached v ended (knows ▸ new) (misses ▸ met) settles

theorem Runs.beside (runs : Runs hints journal (u.withShelf s) objects final b)
    (forgets : s.Forgets u.shelf) (lasting : u.shelf.Lasting) :
    ∃ v t, b = v.withShelf t ∧ t.Forgets v.shelf ∧ v.shelf.Lasting ∧
      Runs (fun _ => none) journal u objects final v := by
  generalize shelved : u.withShelf s = a at runs
  induction runs generalizing u s with
  | nil journal a =>
    exact ⟨u, s, shelved.symm, forgets, lasting, .nil journal u⟩
  | cons journal a object between b rest final c accepts _ ih =>
    subst shelved
    cases accepts.beside forgets lasting with
    | alike v t left still lasts same =>
      obtain ⟨w, r, last, forgot, held, further⟩ := ih still lasts left.symm
      exact ⟨w, r, last, forgot, held, .cons journal u object between v rest final w same further⟩
    | missed _ _ _ _ _ _ _ _ _ ended => contradiction

@[simp] theorem withShelf_shelf (a : Assembly) : a.withShelf a.shelf = a := rfl

theorem lasting_ofReferences (references : List String) : (ofReferences references).shelf.Lasting := by
  intro id place found
  rw [ofReferences_eq] at found
  simp [empty] at found

theorem acceptAll_beside (hints : Hints) (objects : List HistoryObject)
    (forgets : s.Forgets u.shelf) (lasting : u.shelf.Lasting) :
    (∃ t, Survey.acceptAll hints objects (u.withShelf s) =
      ((Survey.acceptAll (fun _ => none) objects u).1.withShelf t,
        (Survey.acceptAll (fun _ => none) objects u).2)) ∨
    ∃ (parent : HistoryObject) (child : ObjectId),
      (Survey.acceptAll hints objects (u.withShelf s)).2 =
        some (.breach (.unmeasured parent.kind parent.id child)) := by
  induction objects generalizing u s with
  | nil => exact .inl ⟨s, rfl⟩
  | cons object rest ih =>
    obtain ⟨final, accepts⟩ := accepts_accept hints [] (u.withShelf s) object
    rw [Survey.acceptAll, Survey.acceptAll]
    cases stepped : (u.withShelf s).accept hints object with
    | mk b outcome =>
      rw [stepped] at accepts
      cases accepts.beside forgets lasting with
      | alike v t left still lasts same =>
        dsimp only at left same
        subst left
        rw [same.accept_eq]
        cases outcome with
        | some error => exact .inl ⟨t, rfl⟩
        | none => exact ih still lasts
      | missed v t parent error reached w other _ _ ended lost =>
        obtain ⟨child, _, _, rfl⟩ := lost
        dsimp only at ended
        subst ended
        exact .inr ⟨parent, child, rfl⟩

/-- A survey with hints ends as without them, unless it misses a measure. -/
theorem run_hinted (stream : ObjectStream) (stopAfter : Option Nat) :
    Survey.run stream stopAfter = Survey.run stream.withoutHints stopAfter ∨
    ∃ (parent : HistoryObject) (child : ObjectId), (Survey.run stream stopAfter).result =
      .error (.breach (.unmeasured parent.kind parent.id child)) := by
  have lasting := lasting_ofReferences stream.references
  have frame : stream.withoutHints.hints = (fun _ => none) ∧
      stream.withoutHints.references = stream.references ∧
      Survey.accepted stream.withoutHints stopAfter = Survey.accepted stream stopAfter ∧
      Survey.interruption stream.withoutHints stopAfter = Survey.interruption stream stopAfter :=
    ⟨rfl, rfl, rfl, rfl⟩
  rw [run_eq, run_eq, frame.1, frame.2.1, frame.2.2.1, frame.2.2.2]
  have start := acceptAll_beside stream.hints (Survey.accepted stream stopAfter)
    (.refl (ofReferences stream.references).shelf) lasting
  rw [withShelf_shelf] at start
  rcases start with ⟨t, same⟩ | ⟨parent, child, missed⟩
  · rw [same]
    left
    cases Survey.acceptAll (fun _ => none) (Survey.accepted stream stopAfter)
      (ofReferences stream.references) with
    | mk b outcome => cases outcome <;> rfl
  · right
    cases accepted : Survey.acceptAll stream.hints (Survey.accepted stream stopAfter)
      (ofReferences stream.references) with
    | mk b outcome =>
      rw [accepted] at missed
      dsimp only at missed
      subst missed
      exact ⟨parent, child, rfl⟩

/-- Whatever a history's source tells about the numbers of links, its objects are measured as they
are without. It can only end earlier, where an object misses a measure that there was. -/
theorem hints_never_falsify (hints : Hints) (references : List String)
    (objects : List HistoryObject) :
    let begun := ofReferences references
    let silent : Hints := fun _ => none
    (∀ before a, before <+: objects → Survey.acceptAll hints before begun = (a, none) →
      ∃ journal b s, Runs hints [] begun before journal a ∧ Runs silent [] begun before journal b ∧
        a = b.withShelf s) ∧
    (∀ before object after a b error, objects = before ++ object :: after →
      Survey.acceptAll hints before begun = (a, none) →
      a.accept hints object = (b, some error) →
      ∃ journal c final, Runs hints [] begun before journal a ∧
        Runs silent [] begun before journal c ∧
        Accepts hints journal a object final b (some error) ∧
        ((∃ d s, b = d.withShelf s ∧ Accepts silent journal c object final d (some error)) ∨
          ∃ (parent : HistoryObject) (child : ObjectId) (reached : Journal) (d : Assembly)
            (outcome : Option SurveyError),
            error = .breach (.unmeasured parent.kind parent.id child) ∧
            b.shelf.isFinalized child = true ∧ b.shelf.get? child = none ∧
            Accepts silent journal c object reached d outcome ∧ final <:+ reached)) ∧
    ∀ a, Survey.acceptAll hints objects begun = (a, none) →
      ∃ b, Survey.acceptAll silent objects begun = (b, none) ∧ a.finish = b.finish ∧
        a.statistics = b.statistics ∧ a.progress = b.progress := by
  intro begun silent
  have lasting : begun.shelf.Lasting := lasting_ofReferences references
  have together : ∀ before a, Survey.acceptAll hints before begun = (a, none) →
      ∃ journal b s, Runs hints [] begun before journal a ∧ Runs silent [] begun before journal b ∧
        a = b.withShelf s ∧ s.Forgets b.shelf ∧ b.shelf.Lasting := by
    intro before a fine
    obtain ⟨journal, runs⟩ := runs_of_acceptAll [] fine
    have start : Runs hints [] (begun.withShelf begun.shelf) before journal a := runs
    obtain ⟨b, s, left, forgets, lasts, alone⟩ := start.beside (.refl _) lasting
    exact ⟨journal, b, s, runs, alone, left, forgets, lasts⟩
  refine ⟨?_, ?_, ?_⟩
  · intro before a _ fine
    obtain ⟨journal, b, s, runs, alone, left, _⟩ := together before a fine
    exact ⟨journal, b, s, runs, alone, left⟩
  · intro before object after a b error _ fine failed
    obtain ⟨journal, c, s, runs, alone, left, forgets, lasts⟩ := together before a fine
    obtain ⟨final, accepts⟩ := accepts_accept hints journal a object
    rw [failed] at accepts
    subst left
    refine ⟨journal, c, final, runs, alone, accepts, ?_⟩
    cases accepts.beside forgets lasts with
    | alike v t same _ _ goes => exact .inl ⟨v, t, same, goes⟩
    | missed v t parent missing reached w other same forgot ended lost further begins =>
      obtain ⟨child, gone, there, rfl⟩ := lost
      subst same
      have finalized : t.isFinalized child = true :=
        (forgot.finalized child).trans (Shelf.isFinalized_of_get? there)
      exact .inr ⟨parent, child, reached, w, other, Option.some.inj ended, finalized, gone,
        further, begins⟩
  · intro a fine
    obtain ⟨journal, b, s, _, alone, left, _⟩ := together objects a fine
    subst left
    exact ⟨b, alone.acceptAll_eq, rfl, rfl, rfl⟩

/-- A blob, and a tree that lists it. -/
def listedHistory : List HistoryObject :=
  [.blob (.ofNat 2) 9, .tree (.ofNat 1) 33 [.toObject (.ofNat 2)]]

/-- No link is said to point at the blob, so the tree finds no measure. -/
theorem hints_never_falsify_spent :
    ∃ a b, Survey.acceptAll (fun _ => some 0) (listedHistory.take 1) (ofReferences []) = (a, none) ∧
      a.accept (fun _ => some 0) listedHistory[1] =
        (b, some (.breach (.unmeasured .tree (.ofNat 1) (.ofNat 2)))) ∧
      (Survey.acceptAll (fun _ => none) listedHistory (ofReferences [])).2 = none ∧
      b.shelf.isFinalized (.ofNat 2) = true ∧ b.shelf.get? (.ofNat 2) = none := by
  let hints : Hints := fun _ => some 0
  let blob : HistoryObject := .blob (.ofNat 2) 9
  let tree : HistoryObject := .tree (.ofNat 1) 33 [.toObject (.ofNat 2)]
  have ids : blob.id = .ofNat 2 ∧ tree.id = .ofNat 1 := ⟨rfl, rfl⟩
  have links : blob.dependencies = [] ∧ tree.dependencies = [.ofNat 2] := by decide
  have apart : ObjectId.ofNat 2 ≠ .ofNat 1 := by decide
  let a := empty.finalize hints blob (.blob 9)
  have first : empty.accept hints blob = (a, none) := by
    refine Accepts.accept_eq (.settled [] empty blob _ a none ?_ rfl
      (.next _ _ blob [] (.blob 9) a _ a none rfl rfl rfl ?_ (.idle _ a rfl)))
    · simp [knows, empty, Shelf.isFinalized, Shelf.empty]
    · simp [announce, finalize, empty, a]
  have gone : a.shelf.get? (.ofNat 2) = none := by
    simp [a, finalize, links, ids, empty, Shelf.empty, Shelf.put, Shelf.accepts, Shelf.isFinalized,
      Shelf.get?, hints]
  have second : a.accept hints tree =
      ({ a with ready := [] }, some (.breach (.unmeasured .tree (.ofNat 1) (.ofNat 2)))) := by
    refine Accepts.accept_eq (.settled [] a tree _ _ _ ?_ ?_ (.failed _ _ tree [] _ rfl rfl ?_))
    · simp [knows, a, finalize, links, ids, empty, Shelf.empty, Shelf.put, Shelf.accepts,
        Shelf.isFinalized, hints, apart]
    · simp [unmet, a, finalize, links, ids, empty, Shelf.empty, Shelf.put, Shelf.accepts,
        Shelf.isFinalized, hints]
    · simp [measure, measureTree, tree, HistoryObject.tree, Link.toObject, addEntry, lookup, gone]
      rfl
  have taken : Survey.acceptAll hints [blob] (ofReferences []) = (a, none) := by
    simp only [Survey.acceptAll, ofReferences, List.foldl_nil, first]
  have fine : (Survey.acceptAll (fun _ => none) listedHistory (ofReferences [])).2 = none :=
    acceptAll_fine [] (truthful_none listedHistory) (by decide) (.of_forall (by decide))
  refine ⟨a, _, taken, second, fine, ?_⟩
  obtain ⟨journal, c, final, _, alone, _, ⟨d, s, _, also⟩ | missed⟩ :=
    (hints_never_falsify hints [] listedHistory).2.1 [blob] tree [] a _ _ rfl taken second
  · have parts : listedHistory = [blob] ++ [tree] := rfl
    rw [parts, acceptAll_append, alone.acceptAll_eq] at fine
    simp [Survey.acceptAll, also.accept_eq] at fine
  · obtain ⟨parent, child, _, _, _, told, finalized, nothing, _⟩ := missed
    obtain ⟨_, _, rfl⟩ := Breach.unmeasured.inj (SurveyError.breach.inj told)
    exact ⟨finalized, nothing⟩

end Assembly

end HistorySurvey
