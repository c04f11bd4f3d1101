import HistorySurvey.Proofs.Standings

/-! What a board shows after a row of offers. Whatever is offered, it shows few contenders, each id
once, the largest first. If each id comes with one value, it shows the beginning of the list of all
first offers, put in order by a stable sort. -/
namespace HistorySurvey.Ranking

def ofOffers (offers : List Contender) : Ranking := offers.foldl offer empty

theorem ofOffers_concat (offers : List Contender) (c : Contender) :
    ofOffers (offers ++ [c]) = (ofOffers offers).offer c := by
  rw [ofOffers, List.foldl_append]
  rfl

/-! Any offers. -/

def Distinct (r : Ranking) : Prop := (r.contenders.map Contender.id).Nodup

theorem mem_of_mem_offer {r : Ranking} {c d : Contender} (member : d ∈ (r.offer c).contenders) :
    d = c ∨ d ∈ r.contenders := by
  rw [contenders_offer] at member
  split at member
  · exact (List.mem_cons.mp ((place_perm c _).subset member)).imp_right List.mem_of_mem_take
  · exact .inr member

theorem mem_offer_of_admits {r : Ranking} {c : Contender} (admitted : r.admits c = true) :
    c ∈ (r.offer c).contenders := by
  rw [contenders_offer, if_pos admitted]
  exact (place_perm c _).symm.subset List.mem_cons_self

/-- An offer changes the board exactly if it is admitted. -/
theorem offer_eq_self_iff (r : Ranking) (c : Contender) : r.offer c = r ↔ r.admits c = false := by
  constructor
  · intro same
    by_contra admitted
    rw [Bool.not_eq_false] at admitted
    have inside := mem_offer_of_admits admitted
    rw [same] at inside
    have shown := (contains_iff r c.id).mpr (List.mem_map_of_mem inside)
    rw [admits, shown] at admitted
    contradiction
  · intro refused
    rw [offer, refused, if_neg Bool.false_ne_true]

theorem Distinct.offer {r : Ranking} (distinct : r.Distinct) (c : Contender) :
    (r.offer c).Distinct := by
  rw [Distinct, contenders_offer]
  split
  · rename_i admitted
    have off : c.id ∉ r.contenders.map Contender.id := by
      rw [← contains_iff]
      intro shown
      rw [admits, shown] at admitted
      contradiction
    have kept : ((r.contenders.take (places - 1)).map Contender.id).Sublist
        (r.contenders.map Contender.id) := (List.take_sublist _ _).map _
    refine ((place_perm c _).map Contender.id).nodup_iff.mpr ?_
    exact List.nodup_cons.mpr ⟨fun inside => off (kept.subset inside), distinct.sublist kept⟩
  · exact distinct

theorem descending_offer {r : Ranking} (descending : Descending r.contenders) (c : Contender) :
    Descending (r.offer c).contenders := by
  rw [contenders_offer]
  split
  · exact Descending.place (descending.sublist (List.take_sublist _ _)) c
  · exact descending

theorem distinct_ofOffers (offers : List Contender) : (ofOffers offers).Distinct := by
  induction offers using List.reverseRecOn with
  | nil => exact List.nodup_nil
  | append_singleton offers c ih =>
    rw [ofOffers_concat]
    exact ih.offer c

theorem descending_ofOffers (offers : List Contender) :
    Descending (ofOffers offers).contenders := by
  induction offers using List.reverseRecOn with
  | nil => exact List.Pairwise.nil
  | append_singleton offers c ih =>
    rw [ofOffers_concat]
    exact descending_offer ih c

/-! The standings are sorted stably. -/

def largerFirst (c d : Contender) : Bool := d.value ≤ c.value

/-- Those with the same value, in their order. -/
def level (value : Nat) (contenders : List Contender) : List Contender :=
  contenders.filter (·.value = value)

/-- A descending list is told by its levels. -/
theorem Descending.eq_of_levels {first second : List Contender} (left : Descending first)
    (right : Descending second) (levels : ∀ value, level value first = level value second) :
    first = second := by
  induction first generalizing second with
  | nil =>
    cases second with
    | nil => rfl
    | cons d rest =>
      have none := levels d.value
      simp [level] at none
  | cons c others ih =>
    cases second with
    | nil =>
      have none := levels c.value
      simp [level] at none
    | cons d rest =>
      obtain ⟨aboveLeft, leftRest⟩ := List.pairwise_cons.mp left
      obtain ⟨aboveRight, rightRest⟩ := List.pairwise_cons.mp right
      -- Each head is on the other list as well, so neither is larger.
      have small : c.value ≤ d.value := by
        have member : c ∈ level c.value (d :: rest) := by
          rw [← levels]
          simp [level]
        rcases List.mem_cons.mp (List.mem_filter.mp member).1 with rfl | inside
        · exact Nat.le_refl _
        · exact aboveRight c inside
      have large : d.value ≤ c.value := by
        have member : d ∈ level d.value (c :: others) := by
          rw [levels]
          simp [level]
        rcases List.mem_cons.mp (List.mem_filter.mp member).1 with rfl | inside
        · exact Nat.le_refl _
        · exact aboveLeft d inside
      have same : c.value = d.value := Nat.le_antisymm small large
      have heads := levels c.value
      simp only [level, List.filter_cons, decide_true, if_true, same] at heads
      obtain ⟨rfl, _⟩ := List.cons.inj heads
      refine congrArg (c :: ·) (ih leftRest rightRest fun value => ?_)
      have tails := levels value
      simp only [level, List.filter_cons] at tails ⊢
      split at tails
      · exact (List.cons.inj tails).2
      · exact tails

private theorem level_cons_eq_concat {value : Nat} {c : Contender} {board : List Contender}
    (alone : c.value = value → level value board = []) :
    level value (c :: board) = level value (board ++ [c]) := by
  simp only [level, List.filter_append, List.filter_cons, List.filter_nil] at alone ⊢
  by_cases equal : c.value = value
  · rw [alone equal, List.nil_append]
  · simp [equal]

/-- A contender is placed behind its equals. -/
theorem level_place (value : Nat) (c : Contender) {board : List Contender}
    (descending : Descending board) :
    level value (place c board) = level value (board ++ [c]) := by
  induction board with
  | nil => rfl
  | cons first rest ih =>
    obtain ⟨above, below⟩ := List.pairwise_cons.mp descending
    rw [place]
    split
    · have tail := ih below
      simp only [level, List.cons_append, List.filter_cons] at tail ⊢
      rw [tail]
    · rename_i large
      -- Nobody on the board is as large as the contender.
      refine level_cons_eq_concat fun equal => List.filter_eq_nil_iff.mpr fun d member => ?_
      have small : d.value ≤ first.value := by
        rcases List.mem_cons.mp member with rfl | inside
        · exact Nat.le_refl _
        · exact above d inside
      simp only [decide_eq_true_eq]
      omega

theorem level_standings (value : Nat) (offers : List Contender) :
    level value (standings offers) = level value (firstOffers offers) := by
  induction offers using List.reverseRecOn with
  | nil => rfl
  | append_singleton offers c ih =>
    rw [standings_concat, firstOffers_concat]
    split
    · exact ih
    · rw [level_place value c (descending_standings offers)]
      simp only [level, List.filter_append] at ih ⊢
      rw [ih]

theorem largerFirst_trans (a b c : Contender) (first : largerFirst a b = true)
    (second : largerFirst b c = true) : largerFirst a c = true := by
  simp only [largerFirst, decide_eq_true_eq] at *
  omega

theorem largerFirst_total (a b : Contender) :
    (largerFirst a b || largerFirst b a) = true := by
  simp only [largerFirst, Bool.or_eq_true, decide_eq_true_eq]
  omega

theorem level_mergeSort (value : Nat) (contenders : List Contender) :
    level value (contenders.mergeSort largerFirst) = level value contenders := by
  -- Equals are a sorted part of the list, which a stable sort keeps.
  have equals : (level value contenders).Pairwise fun c d => largerFirst c d = true := by
    refine List.pairwise_of_forall_mem_list fun c inside d also => ?_
    have first := of_decide_eq_true (List.mem_filter.mp inside).2
    have second := of_decide_eq_true (List.mem_filter.mp also).2
    exact decide_eq_true (by omega)
  have kept := List.sublist_mergeSort largerFirst_trans largerFirst_total equals
    List.filter_sublist
  have again := kept.filter (·.value = value)
  rw [level, List.filter_filter] at again
  simp only [Bool.and_self] at again
  have long := ((List.mergeSort_perm contenders largerFirst).filter (·.value = value)).length_eq
  exact (again.eq_of_length long.symm).symm

theorem standings_eq_mergeSort (offers : List Contender) :
    standings offers = (firstOffers offers).mergeSort largerFirst := by
  have sorted : Descending ((firstOffers offers).mergeSort largerFirst) :=
    (List.pairwise_mergeSort largerFirst_trans largerFirst_total _).imp of_decide_eq_true
  refine (descending_standings offers).eq_of_levels sorted fun value => ?_
  rw [level_standings, level_mergeSort]

/-- The first offer of an id is the first one found with it. -/
theorem mem_firstOffers_iff (offers : List Contender) (c : Contender) :
    c ∈ firstOffers offers ↔ offers.find? (·.id = c.id) = some c := by
  induction offers using List.reverseRecOn with
  | nil => simp [firstOffers]
  | append_singleton offers d ih =>
    rw [firstOffers_concat, List.find?_append]
    by_cases seen : d.id ∈ offers.map Contender.id
    · rw [if_pos seen, ih]
      cases found : offers.find? (·.id = c.id) with
      | some e => simp
      | none =>
        have apart : d.id ≠ c.id := fun same => by
          obtain ⟨e, inside, named⟩ := List.mem_map.mp seen
          exact List.find?_eq_none.mp found e inside (by simp [named, same])
        simp [apart]
    · rw [if_neg seen, List.mem_append, List.mem_singleton, ih]
      cases found : offers.find? (·.id = c.id) with
      | some e =>
        have named : e.id = c.id := by simpa using List.find?_some found
        have apart : c ≠ d := fun same => seen (by
          rw [← same, ← named]
          exact List.mem_map_of_mem (List.mem_of_find?_eq_some found))
        simp [apart]
      | none =>
        simp only [reduceCtorEq, false_or, Option.none_or, List.find?_singleton, decide_eq_true_eq]
        constructor
        · rintro rfl
          simp
        · intro same
          split at same
          · exact (Option.some.inj same).symm
          · contradiction

/-- Whoever was offered and is not on the board does not come back with the next offer. -/
theorem contains_concat {offers : List Contender} {c d : Contender}
    (consistent : Consistent (offers ++ [d])) (offered : c ∈ offers)
    (off : (ofOffers offers).contains c.id = false) :
    (ofOffers (offers ++ [d])).contains c.id = false := by
  rw [Bool.eq_false_iff, ne_eq, contains_iff] at off ⊢
  intro shown
  obtain ⟨e, inside, named⟩ := List.mem_map.mp shown
  by_cases same : d.id = c.id
  · -- The standings do not change, so neither does the board.
    have seen : d.id ∈ offers.map Contender.id := same ▸ List.mem_map_of_mem offered
    rw [ofOffers, contenders_offerAll consistent, standings_concat, if_pos seen,
      ← contenders_offerAll consistent.of_append] at shown
    exact off shown
  · rw [ofOffers_concat] at inside
    rcases mem_of_mem_offer inside with rfl | before
    · exact same named
    · exact off (named ▸ List.mem_map_of_mem before)

theorem contains_append {offers later : List Contender} {c : Contender}
    (consistent : Consistent (offers ++ later)) (offered : c ∈ offers)
    (off : (ofOffers offers).contains c.id = false) :
    (ofOffers (offers ++ later)).contains c.id = false := by
  induction later using List.reverseRecOn with
  | nil => rwa [List.append_nil]
  | append_singleton later d ih =>
    rw [← List.append_assoc] at consistent ⊢
    exact contains_concat consistent (List.mem_append_left _ offered) (ih consistent.of_append)

/-- A board shows at most five contenders, each id once and the largest first, and changes exactly
with those it admits. As long as each id is offered with one value, it shows the first five of all
first offers by a stable sort, under the names they had in them, and nobody who is not on the board
after an offer comes back with a later one. -/
theorem ofOffers_eq_stable_top (offers : List Contender) :
    (ofOffers offers).contenders.length ≤ 5 ∧
    ((ofOffers offers).contenders.map Contender.id).Nodup ∧
    (ofOffers offers).contenders.Pairwise (fun c d => d.value ≤ c.value) ∧
    (∀ c, (ofOffers offers).offer c = ofOffers offers ↔ (ofOffers offers).admits c = false) ∧
    (∀ c, c ∈ firstOffers offers ↔ offers.find? (·.id = c.id) = some c) ∧
    (Consistent offers →
      (ofOffers offers).contenders =
        ((firstOffers offers).mergeSort fun c d => d.value ≤ c.value).take 5 ∧
      ∀ earlier later, offers = earlier ++ later → ∀ c ∈ earlier,
        (ofOffers earlier).contains c.id = false → (ofOffers offers).contains c.id = false) := by
  refine ⟨(ofOffers offers).length_le, distinct_ofOffers offers, descending_ofOffers offers,
    offer_eq_self_iff _, mem_firstOffers_iff offers, fun consistent => ⟨?_, ?_⟩⟩
  · rw [ofOffers, contenders_offerAll consistent, standings_eq_mergeSort]
    rfl
  · rintro earlier later rfl c offered off
    exact contains_append consistent offered off

/-- Five of six ids are offered with equal values, and the last of these loses its place to a larger
one. It is offered again, and so is the first, under another name. -/
def crowdedOffers : List Contender :=
  [⟨.ofNat 1, 50, some "first"⟩, ⟨.ofNat 2, 50, none⟩, ⟨.ofNat 3, 50, none⟩, ⟨.ofNat 4, 50, none⟩,
    ⟨.ofNat 5, 50, none⟩, ⟨.ofNat 6, 80, none⟩, ⟨.ofNat 5, 50, none⟩,
    ⟨.ofNat 1, 50, some "second"⟩]

theorem ofOffers_eq_stable_top_crowded :
    Consistent crowdedOffers ∧
    (ofOffers crowdedOffers).contenders =
      ((firstOffers crowdedOffers).mergeSort fun c d => d.value ≤ c.value).take 5 ∧
    (ofOffers crowdedOffers).contains (.ofNat 5) = false := by
  have consistent : Consistent crowdedOffers := by
    unfold Consistent
    decide
  have top := (ofOffers_eq_stable_top crowdedOffers).2.2.2.2.2 consistent
  exact ⟨consistent, top.1, top.2 (crowdedOffers.take 6) (crowdedOffers.drop 6) rfl
    ⟨.ofNat 5, 50, none⟩ (by decide) (by decide)⟩

end HistorySurvey.Ranking
