import Mathlib.Data.List.Forall2

/-! Verdicts over facts that may be missing. Learning a missing fact refines a verdict; a list of
verdicts that is refused stays refused as its members are refined. -/

namespace Informed

variable {α β : Type}

def Refines (known learnt : Option α) : Prop := ∀ value, known = some value → learnt = some value

theorem Refines.refl (known : Option α) : Refines known known := fun _ here => here

theorem refines_none (learnt : Option α) : Refines none learnt := nofun

theorem refines_some_iff {value : α} {learnt : Option α} : Refines (some value) learnt ↔ learnt = some value := by
  simp [Refines]

theorem refines_getD (known : Option α) (value : α) : Refines known (some (known.getD value)) := by
  cases known with
  | none => exact refines_none _
  | some known => exact refines_some_iff.mpr rfl

theorem Refines.map {known learnt : Option α} (refines : Refines known learnt) (f : α → β) :
    Refines (known.map f) (learnt.map f) := by
  cases known with
  | none => exact refines_none _
  | some value => rw [refines value rfl]; exact .refl _

def Refused (verdicts : List (Option Bool)) : Prop := some false ∈ verdicts

def KeepsRefusal (known learnt : Option Bool) : Prop := known = some false → learnt = some false

theorem Refines.keepsRefusal {known learnt : Option Bool} (refines : Refines known learnt) : KeepsRefusal known learnt :=
  refines false

theorem keepsRefusal_getD (accepts : α → Bool) {value : α} (accepted : accepts value = true) (known : Option α) :
    KeepsRefusal ((some (known.getD value)).map accepts) (known.map accepts) := by
  cases known with
  | none => simp [KeepsRefusal, accepted]
  | some known => exact id

theorem Refused.learn {known learnt : List (Option Bool)} (kept : List.Forall₂ KeepsRefusal known learnt)
    (refused : Refused known) : Refused learnt := by
  induction kept with
  | nil => cases refused
  | cons kept _ ih =>
    rcases List.mem_cons.mp refused with here | later
    · exact List.mem_cons.mpr (.inl (kept here.symm).symm)
    · exact List.mem_cons_of_mem _ (ih later)

theorem all_accepted {verdicts : List (Option Bool)} (given : ∀ verdict ∈ verdicts, verdict.isSome)
    (unrefused : ¬ Refused verdicts) : ∀ verdict ∈ verdicts, verdict = some true := by
  intro verdict inside
  obtain ⟨value, rfl⟩ := Option.isSome_iff_exists.mp (given verdict inside)
  cases value with
  | false => exact absurd inside unrefused
  | true => rfl

end Informed
