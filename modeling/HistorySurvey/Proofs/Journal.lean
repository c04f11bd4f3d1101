import HistorySurvey.Proofs.Balance
import HistorySurvey.Proofs.Reference
import HistorySurvey.Survey

/-! A journal of an assembly: every object it measured with its measure, in the order of measuring.
An assembly does not keep one; it is the account of what the steps did. -/
namespace HistorySurvey

/-- The measured objects with their measures, the last one first. -/
abbrev Journal := List (HistoryObject × Measure)

namespace Journal

def objects (journal : Journal) : List HistoryObject := journal.map Prod.fst

def ids (journal : Journal) : List ObjectId := journal.map (·.1.id)

def measure? (journal : Journal) (id : ObjectId) : Option Measure :=
  (journal.find? (·.1.id = id)).map Prod.snd

def figure (journal : Journal) (id : ObjectId) : Measure := (journal.measure? id).getD (.blob 0)

def kindOf (journal : Journal) (id : ObjectId) : Option Kind :=
  (journal.measure? id).map Measure.kind

/-- How often the measure of an object was used. -/
def uses (journal : Journal) (id : ObjectId) : Nat :=
  (journal.flatMap (·.1.dependencies)).count id

/-- Every object was measured once, after all its dependencies, and from their measures. -/
inductive Justified : Journal → Prop
  | nil : Justified []
  | cons (object : HistoryObject) (m : Measure) (earlier : Journal)
      (fresh : object.id ∉ earlier.ids)
      (dependencies : ∀ child ∈ object.dependencies, child ∈ earlier.ids)
      (consulted : ∀ child ∈ object.consulted, child ∈ earlier.ids)
      (fits : object.Fits earlier.kindOf)
      (combined : m = Reference.combine earlier.figure object)
      (rest : Justified earlier) : Justified ((object, m) :: earlier)

@[simp] theorem ids_cons (object : HistoryObject) (m : Measure) (journal : Journal) :
    ids ((object, m) :: journal) = object.id :: journal.ids := rfl

theorem ids_eq_map_objects (journal : Journal) :
    journal.ids = journal.objects.map HistoryObject.id := by
  simp [ids, objects]

theorem mem_ids {journal : Journal} {object : HistoryObject} (inside : object ∈ journal.objects) :
    object.id ∈ journal.ids := by
  rw [ids_eq_map_objects]
  exact List.mem_map_of_mem inside

theorem exists_of_mem_ids {journal : Journal} {id : ObjectId} (measured : id ∈ journal.ids) :
    ∃ object ∈ journal.objects, object.id = id := by
  rw [ids_eq_map_objects] at measured
  exact List.mem_map.mp measured

theorem measure?_cons (object : HistoryObject) (m : Measure) (journal : Journal) (id : ObjectId) :
    measure? ((object, m) :: journal) id =
      if object.id = id then some m else journal.measure? id := by
  simp only [measure?, List.find?_cons]
  by_cases same : object.id = id <;> simp [same]

theorem measure?_isSome_iff (journal : Journal) (id : ObjectId) :
    (journal.measure? id).isSome = true ↔ id ∈ journal.ids := by
  induction journal with
  | nil => simp [measure?, ids]
  | cons entry rest ih =>
    obtain ⟨object, m⟩ := entry
    rw [measure?_cons, ids_cons, List.mem_cons, ← ih]
    by_cases same : object.id = id
    · simp [same]
    · simp [same, Ne.symm same]

theorem uses_cons (object : HistoryObject) (m : Measure) (journal : Journal) (id : ObjectId) :
    uses ((object, m) :: journal) id = object.dependencies.count id + journal.uses id := by
  simp [uses, List.count_append]

theorem Justified.nodup {journal : Journal} (justified : journal.Justified) : journal.ids.Nodup := by
  induction justified with
  | nil => exact List.nodup_nil
  | cons object m earlier fresh _ _ _ _ _ ih => exact List.nodup_cons.mpr ⟨fresh, ih⟩

theorem Justified.uses_eq_zero {journal : Journal} (justified : journal.Justified) {id : ObjectId}
    (absent : id ∉ journal.ids) : journal.uses id = 0 := by
  induction justified with
  | nil => rfl
  | cons object m earlier _ dependencies _ _ _ _ ih =>
    rw [ids_cons, List.mem_cons, not_or] at absent
    rw [uses_cons, ih absent.2, List.count_eq_zero.mpr fun member =>
      absent.2 (dependencies id member)]

theorem Justified.of_suffix {later earlier : Journal}
    (justified : Justified (later ++ earlier)) : earlier.Justified := by
  induction later with
  | nil => exact justified
  | cons entry rest ih =>
    cases justified with
    | cons _ _ _ _ _ _ _ _ rest => exact ih rest

/-- The place of an object in the order of measuring, from one, or zero if it was not measured. -/
def rank : Journal → ObjectId → Nat
  | [], _ => 0
  | (object, _) :: earlier, id => if object.id = id then earlier.length + 1 else rank earlier id

theorem rank_le_length (journal : Journal) (id : ObjectId) : journal.rank id ≤ journal.length := by
  induction journal with
  | nil => exact Nat.le_refl 0
  | cons entry earlier ih =>
    obtain ⟨object, m⟩ := entry
    rw [rank, List.length_cons]
    split
    · exact Nat.le_refl _
    · exact Nat.le_succ_of_le ih

theorem rank_pos {journal : Journal} {id : ObjectId} (measured : id ∈ journal.ids) :
    0 < journal.rank id := by
  induction journal with
  | nil => contradiction
  | cons entry earlier ih =>
    obtain ⟨object, m⟩ := entry
    rw [rank]
    split
    · exact Nat.succ_pos _
    · rename_i apart
      exact ih ((List.mem_cons.mp measured).resolve_left (Ne.symm apart))

/-- What an object depends on or is made of was measured before it. -/
theorem Justified.rank_lt {journal : Journal} (justified : journal.Justified)
    {object : HistoryObject} (member : object ∈ journal.objects) {child : ObjectId}
    (needed : child ∈ object.dependencies ∨ child ∈ object.consulted) :
    child ∈ journal.ids ∧ journal.rank child < journal.rank object.id := by
  induction justified with
  | nil => contradiction
  | cons last m earlier fresh dependencies consulted _ _ _ ih =>
    have apart {id : ObjectId} (known : id ∈ earlier.ids) : last.id ≠ id :=
      fun same => fresh (same ▸ known)
    rcases List.mem_cons.mp member with rfl | before
    · have known : child ∈ earlier.ids := needed.elim (dependencies child) (consulted child)
      refine ⟨List.mem_cons_of_mem _ known, ?_⟩
      rw [rank, rank, if_neg (apart known), if_pos rfl]
      exact Nat.lt_succ_of_le (rank_le_length earlier child)
    · obtain ⟨known, less⟩ := ih before
      have inside := mem_ids before
      refine ⟨List.mem_cons_of_mem _ known, ?_⟩
      rw [rank, rank, if_neg (apart known), if_neg (apart inside)]
      exact less

private theorem measure?_of_earlier {object : HistoryObject} {m : Measure} {earlier : Journal}
    (fresh : object.id ∉ earlier.ids) {id : ObjectId} (known : id ∈ earlier.ids) :
    measure? ((object, m) :: earlier) id = earlier.measure? id := by
  rw [measure?_cons, if_neg]
  rintro rfl
  exact fresh known

theorem Justified.measure?_of_mem {journal : Journal} (justified : journal.Justified)
    {object : HistoryObject} {m : Measure} (member : (object, m) ∈ journal) :
    journal.measure? object.id = some m := by
  induction justified with
  | nil => contradiction
  | cons last n earlier fresh _ _ _ _ _ ih =>
    rcases List.mem_cons.mp member with same | before
    · obtain ⟨rfl, rfl⟩ := Prod.mk.inj same
      rw [measure?_cons, if_pos rfl]
    · rw [measure?_of_earlier fresh (List.mem_map_of_mem before), ih before]

/-- Every measure is made of the others in the journal. -/
theorem Justified.measure?_eq {journal : Journal} (justified : journal.Justified)
    {object : HistoryObject} (member : object ∈ journal.objects) :
    journal.measure? object.id = some (Reference.combine journal.figure object) := by
  induction justified with
  | nil => contradiction
  | cons last m earlier fresh _ consulted _ combined rest ih =>
    have same {part : HistoryObject} (before : ∀ child ∈ part.consulted, child ∈ earlier.ids) :
        Reference.combine (figure ((last, m) :: earlier)) part =
          Reference.combine earlier.figure part := by
      refine Reference.combine_congr fun child needed => ?_
      rw [figure, measure?_of_earlier fresh (before child needed), figure]
    rcases List.mem_cons.mp member with rfl | before
    · rw [measure?_cons, if_pos rfl, same consulted, combined]
    · rw [measure?_of_earlier fresh (mem_ids before), ih before, same]
      exact fun child needed => (rest.rank_lt before (.inr needed)).1

theorem Justified.kindOf_eq {journal : Journal} (justified : journal.Justified)
    {object : HistoryObject} (member : object ∈ journal.objects) :
    journal.kindOf object.id = some object.kind := by
  rw [kindOf, justified.measure?_eq member, Option.map_some, Reference.kind_combine]

theorem Justified.fits {journal : Journal} (justified : journal.Justified)
    {object : HistoryObject} (member : object ∈ journal.objects) : object.Fits journal.kindOf := by
  induction justified with
  | nil => contradiction
  | cons last m earlier fresh _ consulted fits _ rest ih =>
    have keeps {part : HistoryObject} (before : ∀ child ∈ part.consulted, child ∈ earlier.ids)
        (fits : part.Fits earlier.kindOf) : part.Fits (kindOf ((last, m) :: earlier)) := by
      refine fits.mono fun child needed kind known => ?_
      rw [kindOf, measure?_of_earlier fresh (before child needed)]
      exact known
    rcases List.mem_cons.mp member with rfl | before
    · exact keeps consulted fits
    · exact keeps (fun child needed => (rest.rank_lt before (.inr needed)).1) (ih before)

end Journal

namespace Assembly

/-! The steps of `settle` with the journal they write. -/

/-- How a stack of ready objects is worked off. -/
inductive Settles (hints : Hints) :
    Journal → Assembly → Journal → Assembly → Option SurveyError → Prop
  | idle (journal : Journal) (a : Assembly) (nothing : a.ready = []) :
      Settles hints journal a journal a none
  | halted (journal : Journal) (a : Assembly) (object : HistoryObject) (rest : List HistoryObject)
      (ready : a.ready = object :: rest) (cancelled : a.cancelled = true) :
      Settles hints journal a journal { a with ready := rest } (some .cancelled)
  | failed (journal : Journal) (a : Assembly) (object : HistoryObject) (rest : List HistoryObject)
      (error : SurveyError) (ready : a.ready = object :: rest) (running : a.cancelled = false)
      (measured : measure a.shelf object = .error error) :
      Settles hints journal a journal { a with ready := rest } (some error)
  | lost (journal : Journal) (a : Assembly) (object : HistoryObject) (rest : List HistoryObject)
      (m : Measure) (b : Assembly) (error : SurveyError) (ready : a.ready = object :: rest)
      (running : a.cancelled = false) (measured : measure a.shelf object = .ok m)
      (announced : ({ a with ready := rest }.finalize hints object m).announce object.id =
        (b, some error)) :
      Settles hints journal a ((object, m) :: journal) b (some error)
  | next (journal : Journal) (a : Assembly) (object : HistoryObject) (rest : List HistoryObject)
      (m : Measure) (b : Assembly) (final : Journal) (c : Assembly) (outcome : Option SurveyError)
      (ready : a.ready = object :: rest) (running : a.cancelled = false)
      (measured : measure a.shelf object = .ok m)
      (announced : ({ a with ready := rest }.finalize hints object m).announce object.id =
        (b, none))
      (further : Settles hints ((object, m) :: journal) b final c outcome) :
      Settles hints journal a final c outcome

theorem settle_nil {hints : Hints} {a : Assembly} (nothing : a.ready = []) :
    settle hints a = (a, none) := by
  rw [settle.eq_def]
  split
  · rfl
  · simp_all

theorem settle_cons {hints : Hints} {a : Assembly} {object : HistoryObject}
    {rest : List HistoryObject} (ready : a.ready = object :: rest) :
    settle hints a =
      if a.cancelled = true then ({ a with ready := rest }, some .cancelled)
      else match measure a.shelf object with
        | .error error => ({ a with ready := rest }, some error)
        | .ok m =>
          match ({ a with ready := rest }.finalize hints object m).announce object.id with
          | (b, some error) => (b, some error)
          | (b, none) => settle hints b := by
  rw [settle.eq_def]
  split
  · simp_all
  · rename_i first others ready'
    obtain ⟨rfl, rfl⟩ := List.cons.inj (ready.symm.trans ready')
    refine if_congr Iff.rfl rfl ?_
    dsimp only
    cases measure a.shelf object with
    | error error => rfl
    | ok m =>
      dsimp only
      generalize ({ a with ready := rest }.finalize hints object m).announce object.id = announced
      obtain ⟨b, _ | error⟩ := announced <;> rfl

/-- Whatever settling does is written in a journal. -/
theorem settles_settle (hints : Hints) (journal : Journal) (a : Assembly) :
    ∃ final, Settles hints journal a final (settle hints a).1 (settle hints a).2 := by
  induction a using settle.induct hints generalizing journal with
  | case1 a nothing =>
    rw [settle_nil nothing]
    exact ⟨journal, .idle journal a nothing⟩
  | case2 a object rest ready popped cancelled =>
    rw [settle_cons ready, if_pos cancelled]
    exact ⟨journal, .halted journal a object rest ready cancelled⟩
  | case3 a object rest ready popped running error measured =>
    rw [settle_cons ready, if_neg running]
    simp only [popped] at measured
    simp only [measured]
    exact ⟨journal, .failed journal a object rest error ready (Bool.eq_false_iff.mpr running)
      measured⟩
  | case4 a object rest ready popped running m measured announced fewer error lost =>
    rw [settle_cons ready, if_neg running]
    simp only [popped] at measured
    simp only [measured]
    have told : ({ a with ready := rest }.finalize hints object m).announce object.id =
        (announced.1, some error) := Prod.ext rfl lost
    simp only [told]
    exact ⟨_, .lost journal a object rest m announced.1 error ready (Bool.eq_false_iff.mpr running)
      measured told⟩
  | case5 a object rest ready popped running m measured announced fewer none ih =>
    rw [settle_cons ready, if_neg running]
    simp only [popped] at measured
    simp only [measured]
    have told : ({ a with ready := rest }.finalize hints object m).announce object.id =
        (announced.1, Option.none) := Prod.ext rfl none
    simp only [told]
    obtain ⟨final, further⟩ := ih ((object, m) :: journal)
    exact ⟨final, .next journal a object rest m announced.1 final _ _ ready
      (Bool.eq_false_iff.mpr running) measured told further⟩

theorem Settles.settle_eq {hints : Hints} {journal final : Journal} {a b : Assembly}
    {outcome : Option SurveyError} (settles : Settles hints journal a final b outcome) :
    settle hints a = (b, outcome) := by
  induction settles with
  | idle journal a nothing => exact settle_nil nothing
  | halted journal a object rest ready cancelled => rw [settle_cons ready, if_pos cancelled]
  | failed journal a object rest error ready running measured =>
    rw [settle_cons ready, if_neg (Bool.eq_false_iff.mp running)]
    simp only [measured]
  | lost journal a object rest m b error ready running measured announced =>
    rw [settle_cons ready, if_neg (Bool.eq_false_iff.mp running)]
    simp only [measured, announced]
  | next journal a object rest m b final c outcome ready running measured announced _ ih =>
    rw [settle_cons ready, if_neg (Bool.eq_false_iff.mp running)]
    simp only [measured, announced, ih]

/-! Accepting objects with the journal that it writes. -/

inductive Accepts (hints : Hints) :
    Journal → Assembly → HistoryObject → Journal → Assembly → Option SurveyError → Prop
  | known (journal : Journal) (a : Assembly) (object : HistoryObject)
      (known : a.knows object.id = true) :
      Accepts hints journal a object journal
        { a with statistics :=
          { a.statistics with duplicates := a.statistics.duplicates + 1 } } none
  | parked (journal : Journal) (a : Assembly) (object : HistoryObject)
      (new : a.knows object.id = false) (missing : unmet a.shelf object ≠ []) :
      Accepts hints journal a object journal (a.park object) none
  | settled (journal : Journal) (a : Assembly) (object : HistoryObject) (final : Journal)
      (b : Assembly) (outcome : Option SurveyError) (new : a.knows object.id = false)
      (met : unmet a.shelf object = [])
      (settles : Settles hints journal { a with ready := object :: a.ready } final b outcome) :
      Accepts hints journal a object final b outcome

theorem accepts_accept (hints : Hints) (journal : Journal) (a : Assembly) (object : HistoryObject) :
    ∃ final, Accepts hints journal a object final (a.accept hints object).1
      (a.accept hints object).2 := by
  unfold accept
  cases known : a.knows object.id with
  | true => exact ⟨journal, .known journal a object known⟩
  | false =>
    by_cases met : unmet a.shelf object = []
    · have nothing : object.dependencies.filter (!a.shelf.isFinalized ·) = [] := met
      obtain ⟨final, settles⟩ := settles_settle hints journal { a with ready := object :: a.ready }
      simp only [nothing]
      exact ⟨final, .settled journal a object final _ _ known met settles⟩
    · have some : (object.dependencies.filter (!a.shelf.isFinalized ·)).isEmpty = false := by
        simpa [unmet] using met
      simp only [some]
      exact ⟨journal, .parked journal a object known met⟩

theorem Accepts.accept_eq {hints : Hints} {journal final : Journal} {a b : Assembly}
    {object : HistoryObject} {outcome : Option SurveyError}
    (accepts : Accepts hints journal a object final b outcome) :
    a.accept hints object = (b, outcome) := by
  unfold accept
  cases accepts with
  | known known => simp only [known, if_true]
  | parked new missing =>
    have some : (object.dependencies.filter (!a.shelf.isFinalized ·)).isEmpty = false := by
      simpa [unmet] using missing
    simp only [new, some]
    rfl
  | settled _ _ _ new met settles =>
    have nothing : object.dependencies.filter (!a.shelf.isFinalized ·) = [] := met
    simp only [new, nothing]
    exact settles.settle_eq

theorem acceptAll_append (hints : Hints) (first rest : List HistoryObject) (a : Assembly) :
    Survey.acceptAll hints (first ++ rest) a =
      match Survey.acceptAll hints first a with
      | (b, some error) => (b, some error)
      | (b, none) => Survey.acceptAll hints rest b := by
  induction first generalizing a with
  | nil => rfl
  | cons object others ih =>
    rw [List.cons_append, Survey.acceptAll, Survey.acceptAll]
    obtain ⟨b, _ | error⟩ := a.accept hints object
    · exact ih b
    · rfl

theorem acceptAll_left {hints : Hints} {first rest : List HistoryObject} {a : Assembly}
    (fine : (Survey.acceptAll hints (first ++ rest) a).2 = none) :
    (Survey.acceptAll hints first a).2 = none := by
  rw [acceptAll_append] at fine
  cases accepted : Survey.acceptAll hints first a with
  | mk b outcome =>
    cases outcome with
    | none => rfl
    | some error =>
      rw [accepted] at fine
      exact fine

/-- Objects that are accepted one after the other without a failure. -/
inductive Runs (hints : Hints) : Journal → Assembly → List HistoryObject → Journal → Assembly → Prop
  | nil (journal : Journal) (a : Assembly) : Runs hints journal a [] journal a
  | cons (journal : Journal) (a : Assembly) (object : HistoryObject) (between : Journal)
      (b : Assembly) (rest : List HistoryObject) (final : Journal) (c : Assembly)
      (accepts : Accepts hints journal a object between b none)
      (further : Runs hints between b rest final c) :
      Runs hints journal a (object :: rest) final c

theorem runs_of_acceptAll {hints : Hints} {objects : List HistoryObject} {a b : Assembly}
    (journal : Journal) (accepted : Survey.acceptAll hints objects a = (b, none)) :
    ∃ final, Runs hints journal a objects final b := by
  induction objects generalizing journal a with
  | nil =>
    obtain ⟨rfl, _⟩ := Prod.mk.inj accepted
    exact ⟨journal, .nil journal a⟩
  | cons object rest ih =>
    obtain ⟨between, accepts⟩ := accepts_accept hints journal a object
    rw [Survey.acceptAll] at accepted
    cases stepped : a.accept hints object with
    | mk c outcome =>
      rw [stepped] at accepted accepts
      cases outcome with
      | some error => simp at accepted
      | none =>
        obtain ⟨final, further⟩ := ih between accepted
        exact ⟨final, .cons journal a object between c rest final b accepts further⟩

theorem Runs.acceptAll_eq {hints : Hints} {journal final : Journal} {a b : Assembly}
    {objects : List HistoryObject} (runs : Runs hints journal a objects final b) :
    Survey.acceptAll hints objects a = (b, none) := by
  induction runs with
  | nil journal a => rfl
  | cons journal a object between b rest final c accepts _ ih =>
    rw [Survey.acceptAll, accepts.accept_eq]
    exact ih

end Assembly

end HistorySurvey
