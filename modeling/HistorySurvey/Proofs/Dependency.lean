import Mathlib.Data.Fintype.Card
import Mathlib.Data.Set.Finite.List
import Mathlib.Logic.Relation
import HistorySurvey.Proofs.Occurrences

/-! The dependencies among the objects of a list. An id stands for the first object that has it. -/
namespace HistorySurvey.Dependency
open ObjectStream

/-- The object that an id stands for depends directly on another id. -/
def Depends (objects : List HistoryObject) (parent child : ObjectId) : Prop :=
  ∃ object, objects.find? (·.id = parent) = some object ∧ child ∈ object.dependencies

/-- A whole way of dependencies, which may be empty. -/
def Reaches (objects : List HistoryObject) : ObjectId → ObjectId → Prop :=
  Relation.ReflTransGen (Depends objects)

/-- An id depends on itself. -/
def OnCycle (objects : List HistoryObject) (id : ObjectId) : Prop :=
  Relation.TransGen (Depends objects) id id

/-- Everything that an object depends on is there, the object included, and free of cycles. -/
def Complete (objects : List HistoryObject) (id : ObjectId) : Prop :=
  ∀ other, Reaches objects id other →
    other ∈ objects.map HistoryObject.id ∧ ¬ OnCycle objects other

/-- All dependencies of the distinct objects are there. -/
def Closed (objects : List HistoryObject) : Prop :=
  ∀ object ∈ firstOccurrences objects, ∀ child ∈ object.dependencies,
    child ∈ objects.map HistoryObject.id

def Acyclic (objects : List HistoryObject) : Prop := ∀ id, ¬ OnCycle objects id

theorem depends_iff (objects : List HistoryObject) (parent child : ObjectId) :
    Depends objects parent child ↔
      ∃ object ∈ firstOccurrences objects, object.id = parent ∧ child ∈ object.dependencies := by
  simp only [Depends, find?_eq_some_iff, and_assoc]

/-- Without a cycle, the dependencies of an id can be followed only finitely far. -/
theorem complete_induction {objects : List HistoryObject} {motive : ObjectId → Prop}
    (step : ∀ id, Complete objects id → (∀ child, Depends objects id child → motive child) →
      motive id)
    (id : ObjectId) (complete : Complete objects id) : motive id := by
  -- Only ids of the list are reached, so the strict order of ways is one of finitely many ids.
  let below (a b : {other // Reaches objects id other}) : Prop :=
    Relation.TransGen (Depends objects) b.1 a.1
  have finite : Finite {other // Reaches objects id other} :=
    Set.Finite.to_subtype ((objects.map HistoryObject.id).finite_toSet.subset
      fun other reached => (complete other reached).1)
  have : IsTrans _ below := ⟨fun _ _ _ first second => second.trans first⟩
  have : Std.Irrefl below := ⟨fun a cycle => (complete a.1 a.2).2 cycle⟩
  have founded : WellFounded below := Finite.wellFounded_of_trans_of_irrefl below
  suffices all : ∀ other : {other // Reaches objects id other}, motive other.1 from
    all ⟨id, .refl⟩
  intro other
  induction other using founded.induction with
  | _ other ih =>
    refine step other.1 (fun far reached => complete far (other.2.trans reached)) ?_
    intro child depends
    exact ih ⟨child, other.2.tail depends⟩ (.single depends)

theorem Acyclic.of_falling {objects : List HistoryObject} (rank : ObjectId → Nat)
    (falls : ∀ object ∈ objects, ∀ child ∈ object.dependencies, rank child < rank object.id) :
    Acyclic objects := by
  have less {first last : ObjectId} (way : Relation.TransGen (Depends objects) first last) :
      rank last < rank first := by
    have step {parent child : ObjectId} (depends : Depends objects parent child) :
        rank child < rank parent := by
      obtain ⟨object, member, rfl, needed⟩ := (depends_iff objects parent child).mp depends
      exact falls object (mem_of_mem_firstOccurrences member) child needed
    induction way with
    | single depends => exact step depends
    | tail _ depends ih => exact (step depends).trans ih
  exact fun id cycle => Nat.lt_irrefl _ (less cycle)

theorem Closed.of_listed {objects : List HistoryObject}
    (all : ∀ object ∈ objects, ∀ child ∈ object.dependencies,
      child ∈ objects.map HistoryObject.id) : Closed objects :=
  fun object member => all object (mem_of_mem_firstOccurrences member)

/-- In a closed history without cycles everything is complete. -/
theorem Closed.complete {objects : List HistoryObject} (closed : Closed objects)
    (acyclic : Acyclic objects) {id : ObjectId} (known : id ∈ objects.map HistoryObject.id) :
    Complete objects id := by
  intro other reached
  refine ⟨?_, acyclic other⟩
  induction reached with
  | refl => exact known
  | tail _ depends _ =>
    obtain ⟨object, member, _, child⟩ := (depends_iff objects _ _).mp depends
    exact closed object member _ child

end HistorySurvey.Dependency
