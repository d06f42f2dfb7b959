import ArgosCore.Correlator
import ArgosCore.Foundations.Fallible

/-! What sorting by timestamps asks of them. The correlator and the backtest both read all
timestamps of a list and then compare datetimes, which must be all aware or all naive. -/

namespace ArgosCore.Proofs
open IsoTime

def isAware (stamp : String) : Bool := (fromisoformat stamp).any (·.offset.isSome)

/-- The position of a timestamp among those that it can be compared with. -/
def timeOf (stamp : String) : Int := (fromisoformat stamp).elim 0 point

structure ComparableStamps (stamps : List String) : Prop where
  readable : ∀ stamp ∈ stamps, (fromisoformat stamp).isSome
  oneKind : (∀ stamp ∈ stamps, isAware stamp = true) ∨ ∀ stamp ∈ stamps, isAware stamp = false

theorem ComparableStamps.subset {stamps others : List String} (comparable : ComparableStamps stamps)
    (subset : others ⊆ stamps) : ComparableStamps others where
  readable stamp inside := comparable.readable stamp (subset inside)
  oneKind := comparable.oneKind.imp (fun all stamp inside => all stamp (subset inside))
    fun all stamp inside => all stamp (subset inside)

def ReadStamps (stamps : List String) (times : List DateTime) : Prop :=
  List.Forall₂ (fun stamp time => fromisoformat stamp = some time) stamps times

theorem exists_readStamps {stamps : List String} (readable : ∀ stamp ∈ stamps, (fromisoformat stamp).isSome) :
    ∃ times, ReadStamps stamps times := by
  induction stamps with
  | nil => exact ⟨[], .nil⟩
  | cons stamp stamps ih =>
    obtain ⟨first, rest⟩ := List.forall_mem_cons.mp readable
    obtain ⟨time, same⟩ := Option.isSome_iff_exists.mp first
    obtain ⟨times, read⟩ := ih rest
    exact ⟨time :: times, .cons same read⟩

namespace ReadStamps
variable {stamps : List String} {times : List DateTime}

theorem readable (read : ReadStamps stamps times) : ∀ stamp ∈ stamps, (fromisoformat stamp).isSome := by
  induction read with
  | nil => simp
  | cons same _ ih => exact List.forall_mem_cons.mpr ⟨Option.isSome_of_eq_some same, ih⟩

theorem kinds (read : ReadStamps stamps times) :
    times.all (·.offset.isSome) = stamps.all isAware ∧ times.all (·.offset.isNone) = stamps.all fun stamp => !isAware stamp := by
  induction read with
  | nil => exact ⟨rfl, rfl⟩
  | @cons stamp time stamps times same _ ih =>
    have kind : isAware stamp = time.offset.isSome := by rw [isAware, same, Option.any_some]
    simp only [List.all_cons, ih.1, ih.2, kind, Option.not_isSome, and_self]

theorem comparable_iff (read : ReadStamps stamps times) :
    ComparableStamps stamps ↔ (times.all (·.offset.isSome) || times.all (·.offset.isNone)) = true := by
  rw [Bool.or_eq_true, read.kinds.1, read.kinds.2, List.all_eq_true, List.all_eq_true]
  simp only [Bool.not_eq_true']
  exact ⟨ComparableStamps.oneKind, fun oneKind => ⟨read.readable, oneKind⟩⟩

theorem sortedOn_points {α : Type} {stampOf : α → String} {events : List α} (read : ReadStamps (events.map stampOf) times) :
    ByKey.sortedOn Prod.fst ((times.map point).zip events) =
      (ByKey.sortedOn (fun event => timeOf (stampOf event)) events).map fun event => (timeOf (stampOf event), event) := by
  have points : (times.map point).zip events = events.map fun event => (timeOf (stampOf event), event) := by
    rw [ReadStamps, List.forall₂_map_left_iff] at read
    induction read with
    | nil => rfl
    | @cons event time events times same _ ih =>
      have here : timeOf (stampOf event) = point time := by rw [timeOf, same, Option.elim_some]
      rw [List.map_cons, List.zip_cons_cons, ih, List.map_cons, here]
  rw [points]
  exact ByKey.sortedOn_map Prod.fst (fun event => (timeOf (stampOf event), event)) events

end ReadStamps

end ArgosCore.Proofs
