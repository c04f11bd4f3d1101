import Mathlib.Data.List.Induction
import Mathlib.Data.List.Nodup
import Mathlib.Data.List.Pairwise
import HistorySurvey.Ranking

/-! A board with few places against the standings of everyone. As long as an id comes with one value,
the board holds the beginning of the standings: who was turned away or lost its place is never
missed later on. -/
namespace HistorySurvey.Ranking

def Apart (c d : Contender) : Prop := c.id ≠ d.id

instance : DecidableRel Apart := fun c d => inferInstanceAs (Decidable (c.id ≠ d.id))

/-- The first offer of each id, in the order of the offers. -/
def firstOffers (offers : List Contender) : List Contender :=
  (offers.reverse.pwFilter Apart).reverse

/-- Everyone that was offered once, the largest first, in order of arrival among equals. -/
def standings (offers : List Contender) : List Contender :=
  (firstOffers offers).foldl (fun board candidate => place candidate board) []

/-- Each id is always offered with the same value. -/
def Consistent (offers : List Contender) : Prop :=
  ∀ c ∈ offers, ∀ d ∈ offers, c.id = d.id → c.value = d.value

def Descending (board : List Contender) : Prop := board.Pairwise fun c d => d.value ≤ c.value

theorem mem_of_mem_firstOffers {offers : List Contender} {c : Contender}
    (member : c ∈ firstOffers offers) : c ∈ offers :=
  List.mem_reverse.mp ((List.pwFilter_sublist _).subset (List.mem_reverse.mp member))

private theorem new_iff (offers : List Contender) (c : Contender) :
    (∀ d ∈ offers.reverse.pwFilter Apart, Apart c d) ↔ c.id ∉ offers.map Contender.id := by
  have apart : ∀ {x y z : Contender}, Apart x z → Apart x y ∨ Apart y z := by
    intro x y z distinct
    by_cases same : x.id = y.id
    · exact .inr fun equal => distinct (same.trans equal)
    · exact .inl same
  rw [List.forall_mem_pwFilter @apart c offers.reverse, List.mem_map]
  simp only [List.mem_reverse]
  exact ⟨fun new ⟨d, member, same⟩ => new d member same.symm,
    fun new d member same => new ⟨d, member, same.symm⟩⟩

theorem ids_firstOffers (offers : List Contender) (id : ObjectId) :
    id ∈ (firstOffers offers).map Contender.id ↔ id ∈ offers.map Contender.id := by
  refine not_iff_not.mp (Iff.trans ?_ (new_iff offers ⟨id, 0, none⟩))
  rw [firstOffers, List.map_reverse, List.mem_reverse, List.mem_map]
  exact ⟨fun new d member same => new ⟨d, member, same.symm⟩,
    fun new ⟨d, member, same⟩ => new d member same.symm⟩

theorem nodup_firstOffers (offers : List Contender) :
    ((firstOffers offers).map Contender.id).Nodup := by
  rw [firstOffers, List.Nodup, List.pairwise_map, List.pairwise_reverse]
  exact (List.pairwise_pwFilter _).imp fun distinct => Ne.symm distinct

theorem firstOffers_concat (offers : List Contender) (c : Contender) :
    firstOffers (offers ++ [c]) =
      if c.id ∈ offers.map Contender.id then firstOffers offers else firstOffers offers ++ [c] := by
  have new := new_iff offers c
  rw [firstOffers, List.reverse_append, List.reverse_singleton, List.singleton_append]
  split
  · rename_i seen
    rw [List.pwFilter_cons_of_neg fun all => new.mp all seen]
    rfl
  · rename_i fresh
    rw [List.pwFilter_cons_of_pos (new.mpr fresh), List.reverse_cons]
    rfl

/-! Placing a contender. -/

theorem place_perm (c : Contender) (board : List Contender) : (place c board).Perm (c :: board) := by
  induction board with
  | nil => exact List.Perm.refl _
  | cons first rest ih =>
    rw [place]
    split
    · exact (ih.cons first).trans (List.Perm.swap c first rest)
    · exact List.Perm.refl _

theorem Descending.place {board : List Contender} (descending : Descending board) (c : Contender) :
    Descending (place c board) := by
  induction board with
  | nil => exact List.pairwise_singleton _ c
  | cons first rest ih =>
    obtain ⟨above, below⟩ := List.pairwise_cons.mp descending
    rw [Ranking.place]
    split
    · rename_i small
      refine List.pairwise_cons.mpr ⟨fun d member => ?_, ih below⟩
      rcases List.mem_cons.mp ((place_perm c rest).subset member) with rfl | inside
      · exact small
      · exact above d inside
    · rename_i large
      refine List.pairwise_cons.mpr ⟨fun d member => ?_, descending⟩
      rcases List.mem_cons.mp member with rfl | inside
      · omega
      · exact Nat.le_trans (above d inside) (by omega)

/-- A contender larger than whoever loses a place is placed among the others. -/
theorem take_place_of_lt (c : Contender) (board : List Contender) (n : Nat)
    (room : ∀ d, board[n]? = some d → d.value < c.value) :
    (place c board).take (n + 1) = place c (board.take n) := by
  induction board generalizing n with
  | nil => simp [place]
  | cons first rest ih =>
    rw [place]
    cases n with
    | zero =>
      have less := room first rfl
      rw [if_neg (by omega)]
      rfl
    | succ n =>
      rw [List.take_succ_cons, place]
      split
      · rw [List.take_succ_cons, ih n room]
      · rw [List.take_succ_cons, List.take_succ_cons]

/-- A contender not larger than the last one with a place changes nothing. -/
theorem take_place_of_le {board : List Contender} (descending : Descending board) (c : Contender)
    (n : Nat) {last : Contender} (full : board[n]? = some last) (small : c.value ≤ last.value) :
    (place c board).take (n + 1) = board.take (n + 1) := by
  induction board generalizing n with
  | nil => simp at full
  | cons first rest ih =>
    obtain ⟨above, below⟩ := List.pairwise_cons.mp descending
    cases n with
    | zero =>
      rw [List.getElem?_cons_zero, Option.some.injEq] at full
      rw [place, if_pos (full ▸ small)]
      rfl
    | succ n =>
      have inside : last ∈ rest := List.mem_of_getElem? full
      rw [place, if_pos (Nat.le_trans small (above last inside)), List.take_succ_cons,
        List.take_succ_cons, ih below n full]

/-! The standings. -/

theorem standings_concat (offers : List Contender) (c : Contender) :
    standings (offers ++ [c]) =
      if c.id ∈ offers.map Contender.id then standings offers
      else place c (standings offers) := by
  rw [standings, firstOffers_concat]
  split
  · rfl
  · rw [List.foldl_append]
    rfl

theorem standings_perm (offers : List Contender) : (standings offers).Perm (firstOffers offers) := by
  induction offers using List.reverseRecOn with
  | nil => exact List.Perm.refl _
  | append_singleton offers c ih =>
    rw [standings_concat, firstOffers_concat]
    split
    · exact ih
    · exact (place_perm c _).trans ((ih.cons c).trans (List.perm_append_singleton c _).symm)

theorem descending_standings (offers : List Contender) : Descending (standings offers) := by
  induction offers using List.reverseRecOn with
  | nil => exact List.Pairwise.nil
  | append_singleton offers c ih =>
    rw [standings_concat]
    split
    · exact ih
    · exact ih.place c

theorem Consistent.of_append {first rest : List Contender}
    (consistent : Consistent (first ++ rest)) : Consistent first :=
  fun c inside d member =>
    consistent c (List.mem_append_left _ inside) d (List.mem_append_left _ member)

theorem Consistent.standing {offers : List Contender} (consistent : Consistent offers)
    {c : Contender} (offered : c ∈ offers) :
    ∃ d ∈ standings offers, d.id = c.id ∧ d.value = c.value := by
  obtain ⟨d, first, same⟩ := List.mem_map.mp
    ((ids_firstOffers offers c.id).mpr (List.mem_map_of_mem offered))
  exact ⟨d, (standings_perm offers).symm.subset first, same,
    consistent d (mem_of_mem_firstOffers first) c offered same⟩

theorem le_of_mem_drop {board : List Contender} (descending : Descending board) {n : Nat}
    {c d : Contender} (inside : c ∈ board.take n) (outside : d ∈ board.drop n) :
    d.value ≤ c.value := by
  rw [Descending, ← List.take_append_drop n board] at descending
  exact (List.pairwise_append.mp descending).2.2 c inside d outside

theorem contenders_offer (r : Ranking) (c : Contender) :
    (r.offer c).contenders =
      if r.admits c = true then place c (r.contenders.take (places - 1)) else r.contenders := by
  unfold offer
  split <;> rfl

theorem contains_iff (r : Ranking) (id : ObjectId) :
    r.contains id = true ↔ id ∈ r.contenders.map Contender.id := by
  simp [contains, List.any_eq_true]

/-- A board admits who is not on it and larger than the last one with a place, if all are taken. -/
private theorem admits_iff {r : Ranking} {board : List Contender}
    (beginning : r.contenders = board.take places) (c : Contender) :
    r.admits c = true ↔
      r.contains c.id = false ∧ ∀ d, board[places - 1]? = some d → d.value < c.value := by
  rw [admits, Bool.and_eq_true, Bool.not_eq_true', beginning]
  refine and_congr_right fun _ => ?_
  rw [Bool.or_eq_true, decide_eq_true_iff, List.length_take, List.getLast?_take]
  cases found : board[places - 1]? with
  | none =>
    have short := List.getElem?_eq_none_iff.mp found
    simp only [reduceCtorEq, false_implies, implies_true, iff_true]
    exact .inl (by unfold places at *; omega)
  | some d =>
    obtain ⟨long, _⟩ := List.getElem?_eq_some_iff.mp found
    have full : ¬ min places board.length < places := by unfold places at *; omega
    have some : places ≠ 0 := by decide
    simp [full, some]

private theorem off_board_of_seen {offers : List Contender} {c : Contender} {r : Ranking}
    (consistent : Consistent (offers ++ [c]))
    (beginning : r.contenders = (standings offers).take places)
    (seen : c.id ∈ offers.map Contender.id) (off : r.contains c.id = false)
    (room : ∀ d, (standings offers)[places - 1]? = some d → d.value < c.value) : False := by
  obtain ⟨other, offered, same⟩ := List.mem_map.mp seen
  obtain ⟨d, standing, named, valued⟩ := consistent.of_append.standing offered
  have equal := consistent other (List.mem_append_left _ offered) c
    (List.mem_append_right _ (List.mem_singleton.mpr rfl)) same
  rw [← List.take_append_drop places (standings offers), ← beginning] at standing
  rcases List.mem_append.mp standing with inside | outside
  · have shown : r.contains c.id = true :=
      (contains_iff r c.id).mpr (List.mem_map.mpr ⟨d, inside, named.trans same⟩)
    rw [off] at shown
    contradiction
  · have long : places - 1 < (standings offers).length := by
      have some := List.length_pos_of_mem outside
      rw [List.length_drop] at some
      omega
    have last := List.getElem?_eq_getElem long
    have above := le_of_mem_drop (descending_standings offers)
      (List.mem_take_iff_getElem.mpr ⟨places - 1, by rw [Nat.lt_min]; exact ⟨by decide, long⟩, rfl⟩)
      outside
    have below := room _ last
    omega

/-- A board shows the beginning of the standings. -/
theorem contenders_offerAll {offers : List Contender} (consistent : Consistent offers) :
    (offers.foldl Ranking.offer Ranking.empty).contenders = (standings offers).take places := by
  induction offers using List.reverseRecOn with
  | nil => rfl
  | append_singleton offers c ih =>
    have beginning := ih consistent.of_append
    have admits := admits_iff beginning c
    rw [List.foldl_append, List.foldl_cons, List.foldl_nil, standings_concat,
      contenders_offer]
    generalize offers.foldl Ranking.offer Ranking.empty = r at beginning admits ⊢
    -- An id seen before leaves the standings alone, so the board has to turn it away.
    by_cases seen : c.id ∈ offers.map Contender.id
    · rw [if_pos seen, if_neg, beginning]
      rw [admits]
      rintro ⟨off, room⟩
      exact off_board_of_seen consistent beginning seen off room
    · rw [if_neg seen]
      have off : r.contains c.id = false := by
        rw [Bool.eq_false_iff, ne_eq, contains_iff, beginning]
        intro shown
        obtain ⟨d, inside, same⟩ := List.mem_map.mp shown
        have first := (standings_perm offers).subset (List.mem_of_mem_take inside)
        exact seen (List.mem_map.mpr ⟨d, mem_of_mem_firstOffers first, same⟩)
      by_cases room : ∀ d, (standings offers)[places - 1]? = some d → d.value < c.value
      · rw [if_pos (admits.mpr ⟨off, room⟩), beginning, List.take_take]
        exact (take_place_of_lt c (standings offers) (places - 1) room).symm
      · rw [if_neg fun admitted => room (admits.mp admitted).2, beginning]
        simp only [not_forall, Nat.not_lt] at room
        obtain ⟨last, full, small⟩ := room
        exact (take_place_of_le (descending_standings offers) c (places - 1) full small).symm

/-! What the order of the offers decides: nothing but the order among equals. -/

private theorem mem_ratings_iff {offers : List Contender} (consistent : Consistent offers)
    (rating : ObjectId × Nat) :
    rating ∈ (firstOffers offers).map (fun c => (c.id, c.value)) ↔
      rating ∈ offers.map fun c => (c.id, c.value) := by
  simp only [List.mem_map]
  constructor
  · rintro ⟨c, first, rfl⟩
    exact ⟨c, mem_of_mem_firstOffers first, rfl⟩
  · rintro ⟨c, offered, rfl⟩
    obtain ⟨d, standing, named, valued⟩ := consistent.standing offered
    exact ⟨d, (standings_perm offers).subset standing, Prod.ext named valued⟩

theorem Consistent.perm {offers others : List Contender} (consistent : Consistent offers)
    (permuted : offers.Perm others) : Consistent others :=
  fun c inside d member =>
    consistent c (permuted.symm.subset inside) d (permuted.symm.subset member)

/-- The values in the standings do not depend on the order of the offers. -/
theorem values_standings_of_perm {offers others : List Contender} (consistent : Consistent offers)
    (permuted : offers.Perm others) :
    (standings offers).map Contender.value = (standings others).map Contender.value := by
  have distinct (offers : List Contender) :
      ((firstOffers offers).map fun c => (c.id, c.value)).Nodup := by
    have ids := nodup_firstOffers offers
    refine List.Nodup.of_map Prod.fst ?_
    rwa [List.map_map]
  have ratings : ((firstOffers offers).map fun c => (c.id, c.value)).Perm
      ((firstOffers others).map fun c => (c.id, c.value)) := by
    refine (List.perm_ext_iff_of_nodup (distinct offers) (distinct others)).mpr fun rating => ?_
    rw [mem_ratings_iff consistent, mem_ratings_iff (consistent.perm permuted),
      (permuted.map _).mem_iff]
  have values : ((standings offers).map Contender.value).Perm
      ((standings others).map Contender.value) := by
    have first := ratings.map Prod.snd
    rw [List.map_map, List.map_map] at first
    exact ((standings_perm offers).map _).trans (first.trans ((standings_perm others).map _).symm)
  refine values.eq_of_pairwise (fun a b _ _ above below => Nat.le_antisymm below above)
    (List.pairwise_map.mpr (descending_standings offers))
    (List.pairwise_map.mpr (descending_standings others))

theorem values_board_of_perm {offers others : List Contender} (consistent : Consistent offers)
    (permuted : offers.Perm others) :
    (offers.foldl Ranking.offer Ranking.empty).contenders.map Contender.value =
      (others.foldl Ranking.offer Ranking.empty).contenders.map Contender.value := by
  rw [contenders_offerAll consistent, contenders_offerAll (consistent.perm permuted), List.map_take,
    List.map_take, values_standings_of_perm consistent permuted]

/-- Whoever is larger than someone on the board is on the board. -/
theorem on_board_of_lt {offers : List Contender} (consistent : Consistent offers)
    {c last : Contender} (offered : c ∈ offers)
    (shown : last ∈ (offers.foldl Ranking.offer Ranking.empty).contenders)
    (larger : last.value < c.value) :
    (offers.foldl Ranking.offer Ranking.empty).contains c.id = true := by
  rw [contains_iff]
  rw [contenders_offerAll consistent] at shown ⊢
  obtain ⟨d, standing, named, valued⟩ := consistent.standing offered
  rw [← List.take_append_drop places (standings offers)] at standing
  rcases List.mem_append.mp standing with inside | outside
  · exact List.mem_map.mpr ⟨d, inside, named⟩
  · -- Nobody below the board is larger than someone on it.
    have small := le_of_mem_drop (descending_standings offers) shown outside
    omega

end HistorySurvey.Ranking

namespace HistorySurvey.Rankings

/-- The offers that count in one category. -/
def offersIn (category : Category) (offers : List (Category × Contender)) : List Contender :=
  (offers.filter fun offer => offer.1 = category ∧ offer.2.value ≠ 0).map Prod.snd

theorem offersIn_cons (category : Category) (offer : Category × Contender)
    (rest : List (Category × Contender)) :
    offersIn category (offer :: rest) =
      if offer.1 = category ∧ offer.2.value ≠ 0 then offer.2 :: offersIn category rest
      else offersIn category rest := by
  unfold offersIn
  rw [List.filter_cons]
  by_cases counts : offer.1 = category ∧ offer.2.value ≠ 0
  · rw [if_pos counts, if_pos (decide_eq_true counts)]
    rfl
  · rw [if_neg counts, if_neg (by simpa using counts)]

theorem board_offer (r : Rankings) (category other : Category) (c : Contender) :
    (r.offer category c).board other =
      if category = other ∧ c.value ≠ 0 then (r.board other).offer c else r.board other := by
  unfold offer board
  by_cases nothing : c.value = 0
  · simp [nothing]
  · by_cases same : category = other
    · subst same
      simp [nothing]
    · have apart : category.index.val ≠ other.index.val := fun equal =>
        same (Category.index_injective (Fin.ext equal))
      simp [nothing, same, apart]

theorem board_empty (category : Category) : empty.board category = Ranking.empty := by
  simp [empty, board]

theorem board_offerAll (offers : List (Category × Contender)) (category : Category) :
    (offers.foldl (fun r offer => r.offer offer.1 offer.2) empty).board category =
      (offersIn category offers).foldl Ranking.offer Ranking.empty := by
  have all (r : Rankings) :
      (offers.foldl (fun r offer => r.offer offer.1 offer.2) r).board category =
        (offersIn category offers).foldl Ranking.offer (r.board category) := by
    induction offers generalizing r with
    | nil => rfl
    | cons offer rest ih =>
      rw [List.foldl_cons, ih, board_offer, offersIn_cons]
      split <;> rfl
  rw [all, board_empty]

end HistorySurvey.Rankings
