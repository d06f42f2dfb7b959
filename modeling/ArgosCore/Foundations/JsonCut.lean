import ArgosCore.Foundations.JsonLines

/-! A file of JSON lines of which a crash left the beginning. The lines that are whole come back;
an object that was cut inside decodes to nothing. -/

namespace Json
open TextLines

/-- The text ends inside an object: after its first character and before its last one. -/
def Torn (objects : List Object) (count : Nat) : Prop :=
  ∃ position object, objects[position]? = some object ∧ (linesText (objects.take position)).length < count ∧
    count < (linesText (objects.take position)).length + (dumpValue false (.obj object)).length

theorem torn_nil (count : Nat) : ¬ Torn [] count := by
  rintro ⟨position, object, found, _⟩
  simp at found

theorem linesText_cons (object : Object) (objects : List Object) :
    linesText (object :: objects) = dumpValue false (.obj object) ++ '\n' :: linesText objects := by
  simp [linesText]

theorem torn_cons_iff {object : Object} {objects : List Object} {count : Nat} :
    Torn (object :: objects) count ↔
      (0 < count ∧ count < (dumpValue false (.obj object)).length) ∨
        (dumpValue false (.obj object)).length < count ∧
          Torn objects (count - ((dumpValue false (.obj object)).length + 1)) := by
  constructor
  · rintro ⟨position, torn, found, after, before⟩
    cases position with
    | zero =>
      cases found
      exact .inl (by simpa [linesText] using And.intro after before)
    | succ position =>
      rw [List.take_succ_cons, linesText_cons, List.length_append, List.length_cons] at after before
      exact .inr ⟨by omega, position, torn, found, by omega, by omega⟩
  · rintro (⟨after, before⟩ | ⟨behind, position, torn, found, after, before⟩)
    · exact ⟨0, object, rfl, by simpa [linesText] using after, by simpa [linesText] using before⟩
    · refine ⟨position + 1, torn, found, ?_, ?_⟩
      all_goals
        rw [List.take_succ_cons, linesText_cons, List.length_append, List.length_cons]
        omega

theorem not_torn_between (objects : List Object) (whole : Nat) : ¬ Torn objects (linesText (objects.take whole)).length := by
  induction objects generalizing whole with
  | nil => exact torn_nil _
  | cons object objects ih =>
    cases whole with
    | zero => simp [torn_cons_iff, linesText]
    | succ whole =>
      rw [List.take_succ_cons, linesText_cons, List.length_append, List.length_cons, torn_cons_iff]
      rintro (⟨_, early⟩ | ⟨_, torn⟩)
      · omega
      · refine ih whole ?_
        rwa [show (dumpValue false (.obj object)).length + ((linesText (objects.take whole)).length + 1) -
          ((dumpValue false (.obj object)).length + 1) = (linesText (objects.take whole)).length by omega] at torn

instance decidableTorn : (objects : List Object) → (count : Nat) → Decidable (Torn objects count)
  | [], count => isFalse (torn_nil count)
  | _ :: objects, _ =>
    have := decidableTorn objects
    decidable_of_iff _ torn_cons_iff.symm

-- Two lines of two characters each.
example : Torn [[], []] 1 ∧ ¬ Torn [[], []] 2 ∧ ¬ Torn [[], []] 3 ∧ Torn [[], []] 4 := by decide

private theorem linesOf_take (objects : List Object) (count : Nat) :
    linesOf ((linesText objects).take count) = (splitlines ((linesText objects).take count)).filter (!blank ·) := by
  rw [linesOf, universalNewlines_eq fun inside => linesText_clean objects (List.mem_of_mem_take inside)]

theorem splitlines_line {line : List Char} (nonempty : line ≠ []) (inside : ∀ c ∈ line, isBoundary c = false) :
    splitlines line = [line] := by
  induction line with
  | nil => exact absurd rfl nonempty
  | cons c line ih =>
    rw [splitlines]
    · cases line with
      | nil => simp [inside c List.mem_cons_self, splitlines]
      | cons d line =>
        rw [ih (List.cons_ne_nil d line) fun letter member => inside letter (List.mem_cons_of_mem _ member)]
        simp [inside c List.mem_cons_self]
    · rintro rest rfl
      exact absurd (inside '\r' List.mem_cons_self) (by decide)

theorem dumpValue_ne_nil (object : Object) : dumpValue false (.obj object) ≠ [] := by
  obtain ⟨others, opened⟩ := dumpValue_obj false object
  rw [opened]
  exact List.cons_ne_nil _ _

/-- The lines of what is left: those of some of the first objects, or one that does not decode.
No object is missing whose whole line was kept. -/
theorem linesOf_cut (objects : List Object) (distinct : ∀ object ∈ objects, (obj object).Distinct)
    (unseparated : ∀ object ∈ objects, ∀ text ∈ (obj object).strings, Unseparated text) (count : Nat) :
    (Torn objects count ∧ ∃ line ∈ linesOf ((linesText objects).take count), loads line = none) ∨
      (¬ Torn objects count ∧ ∃ whole ≤ objects.length,
        linesOf ((linesText objects).take count) = (objects.take whole).map (fun object => dumpValue false (.obj object)) ∧
        ∀ other ≤ objects.length, (linesText (objects.take other)).length ≤ count → other ≤ whole) := by
  rw [linesOf_take]
  induction objects generalizing count with
  | nil => exact .inr ⟨torn_nil count, 0, le_rfl, by simp [linesText, splitlines], by simp⟩
  | cons object objects ih =>
    have unbroken := dumpValue_unbroken_iff.mpr (unseparated object List.mem_cons_self)
    have visible : blank (dumpValue false (.obj object)) = false :=
      not_blank (List.append_nil _).symm (dumpValue_ne_nil object)
    rw [torn_cons_iff, linesText_cons]
    set written := dumpValue false (.obj object) with writtenEq
    rcases Nat.lt_trichotomy count written.length with before | here | behind
    · have kept : (written ++ '\n' :: linesText objects).take count = written.take count :=
        List.take_append_of_le_length before.le
      rw [kept]
      rcases Nat.eq_zero_or_pos count with rfl | some
      · refine .inr ⟨by omega, 0, Nat.zero_le _, by simp [splitlines], ?_⟩
        rintro (_ | other) _ short
        · exact le_rfl
        · rw [List.take_succ_cons, linesText_cons, List.length_append, List.length_cons] at short
          omega
      · have part : written.take count ≠ [] := by
          rw [ne_eq, List.take_eq_nil_iff, not_or]
          exact ⟨by omega, dumpValue_ne_nil object⟩
        have split := (List.take_append_drop count written).symm
        have dropped : written.drop count ≠ [] := by
          rw [ne_eq, List.drop_eq_nil_iff]
          omega
        refine .inl ⟨.inl ⟨some, before⟩, written.take count, ?_,
          loads_torn false (distinct object List.mem_cons_self) split dropped⟩
        rw [splitlines_line part fun c inside => unbroken c (List.mem_of_mem_take inside)]
        simp [not_blank split part]
    · have kept : (written ++ '\n' :: linesText objects).take count = written := by
        rw [here, List.take_left]
      refine .inr ⟨by omega, 1, by simp, ?_, ?_⟩
      · rw [kept, splitlines_line (dumpValue_ne_nil object) unbroken]
        simp [visible, ← writtenEq]
      · rintro (_ | other) _ short
        · omega
        · rw [List.take_succ_cons, linesText_cons, ← writtenEq, List.length_append, List.length_cons] at short
          omega
    · obtain ⟨rest, rfl⟩ : ∃ rest, count = written.length + 1 + rest := ⟨_, (Nat.add_sub_of_le behind).symm⟩
      have kept : (written ++ '\n' :: linesText objects).take (written.length + 1 + rest) =
          written ++ '\n' :: (linesText objects).take rest := by
        rw [Nat.add_assoc, List.take_length_add_append, Nat.add_comm 1 rest, List.take_succ_cons]
      have later := ih (fun other inside => distinct other (List.mem_cons_of_mem _ inside))
        (fun other inside => unseparated other (List.mem_cons_of_mem _ inside)) rest
      rw [kept, splitlines_append unbroken (by decide) (by decide), List.filter_cons_of_pos (by simp [visible]),
        Nat.add_sub_cancel_left]
      rcases later with ⟨torn, line, inside, fails⟩ | ⟨untorn, whole, within, lines, durable⟩
      · exact .inl ⟨.inr ⟨behind, torn⟩, line, List.mem_cons_of_mem _ inside, fails⟩
      · refine .inr ⟨?_, whole + 1, by simpa using within, by rw [lines, List.take_succ_cons, List.map_cons], ?_⟩
        · rintro (⟨_, early⟩ | ⟨_, torn⟩)
          · omega
          · exact untorn torn
        · rintro (_ | other) bound short
          · exact Nat.zero_le _
          · rw [List.take_succ_cons, linesText_cons, ← writtenEq, List.length_append, List.length_cons] at short
            exact Nat.succ_le_succ (durable other (by simpa using bound) (by omega))

end Json
