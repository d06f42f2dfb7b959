import ArgosCore.Investigator

/-! How an investigation takes in more context: level by level while its hypothesis is open,
up to the last one. -/

namespace ArgosCore.Proofs
variable [Runtime]

/-- The levels an investigation has taken in, oldest first. Whether its hypothesis is still
open depends on what they brought. -/
inductive Expanded (stillOpen : List String → Bool) : List String → Prop
  | start : Expanded stillOpen []
  | next {levels : List String} {level : String} (reached : Expanded stillOpen levels)
      (planned : planNextContextLevel levels.getLast? (stillOpen levels) = .ok (some level)) :
      Expanded stillOpen (levels ++ [level])

def Concluded (stillOpen : List String → Bool) (levels : List String) : Prop :=
  planNextContextLevel levels.getLast? (stillOpen levels) = .ok none

theorem planNextContextLevel_last {levels later : List String} (whole : levels ++ later = contextLevels) (isOpen : Bool) :
    planNextContextLevel levels.getLast? isOpen = .ok (if levels = [] ∨ isOpen = true then later.head? else none) := by
  rcases List.eq_nil_or_concat' levels with rfl | ⟨earlier, level, rfl⟩
  · rw [List.nil_append] at whole
    subst later
    rfl
  · have distinct : contextLevels.Nodup := by decide
    rw [← whole, List.append_assoc, List.singleton_append] at distinct
    have fresh : level ∉ earlier := by
      intro inside
      exact (List.nodup_append.mp distinct).2.2 level inside level List.mem_cons_self rfl
    have place : contextLevels.idxOf level = earlier.length := by
      rw [← whole, List.append_assoc, List.idxOf_append_of_notMem fresh]
      simp
    have known : level ∈ contextLevels := by simp [← whole]
    rw [List.getLast?_concat, planNextContextLevel, if_neg (not_not.mpr known), place]
    cases isOpen with
    | false => simp
    | true => cases later <;> simp [← whole]

variable {stillOpen : List String → Bool} {levels : List String}

theorem Expanded.begun (reached : Expanded stillOpen levels) : levels <+: contextLevels := by
  induction reached with
  | start => exact List.nil_prefix
  | next _ planned begun =>
    obtain ⟨later, whole⟩ := begun
    rw [planNextContextLevel_last whole] at planned
    split_ifs at planned with goesOn
    · cases later with
      | nil => cases planned
      | cons next later =>
        cases planned
        exact ⟨later, by rw [List.append_assoc, List.singleton_append, whole]⟩
    · cases planned

theorem Expanded.isOpen (reached : Expanded stillOpen levels) {earlier : List String} {level : String}
    (before : earlier ++ [level] <+: levels) (nonempty : earlier ≠ []) : stillOpen earlier = true := by
  induction reached with
  | start => simp at before
  | @next levels _ reached planned ih =>
    rcases List.prefix_concat_iff.mp before with same | inside
    · obtain ⟨rfl, _⟩ := List.append_inj' same rfl
      obtain ⟨later, whole⟩ := reached.begun
      rw [planNextContextLevel_last whole] at planned
      split_ifs at planned with goesOn
      · exact goesOn.resolve_left nonempty
      · cases planned
    · exact ih inside

theorem expanded_iff : Expanded stillOpen levels ↔
    levels <+: contextLevels ∧ ∀ earlier level, earlier ++ [level] <+: levels → earlier ≠ [] → stillOpen earlier = true := by
  constructor
  · exact fun reached => ⟨reached.begun, fun _ _ => reached.isOpen⟩
  · rintro ⟨begun, isOpen⟩
    induction levels using List.reverseRecOn with
    | nil => exact .start
    | append_singleton levels level ih =>
      have shorter : levels <+: contextLevels := (List.prefix_append ..).trans begun
      have reached := ih shorter fun earlier other before => isOpen earlier other (before.trans (List.prefix_append ..))
      refine .next reached ?_
      obtain ⟨later, whole⟩ := begun
      rw [List.append_assoc, List.singleton_append] at whole
      rw [planNextContextLevel_last whole, if_pos]
      · rfl
      · by_cases first : levels = []
        · exact .inl first
        · exact .inr (isOpen levels level List.prefix_rfl first)

theorem concluded_iff (begun : levels <+: contextLevels) :
    Concluded stillOpen levels ↔ levels ≠ [] ∧ (stillOpen levels = false ∨ levels = contextLevels) := by
  obtain ⟨later, whole⟩ := begun
  rw [Concluded, planNextContextLevel_last whole, ← whole]
  have started : levels = [] → later ≠ [] := by
    rintro rfl rfl
    cases whole
  clear whole
  by_cases first : levels = []
  · simp [first, started first]
  · cases stillOpen levels <;> simp [first]

/-- An investigation goes on to one end, whatever its levels bring. -/
theorem exists_concluded (reached : Expanded stillOpen levels) :
    ∃ concluded, levels <+: concluded ∧ Expanded stillOpen concluded ∧ Concluded stillOpen concluded := by
  obtain ⟨later, whole⟩ := reached.begun
  induction later generalizing levels with
  | nil =>
    refine ⟨levels, List.prefix_rfl, reached, ?_⟩
    rw [Concluded, planNextContextLevel_last whole]
    simp
  | cons level later ih =>
    by_cases goesOn : levels = [] ∨ stillOpen levels = true
    · have next : Expanded stillOpen (levels ++ [level]) := by
        refine .next reached ?_
        rw [planNextContextLevel_last whole, if_pos goesOn]
        rfl
      obtain ⟨concluded, further, expanded, done⟩ := ih next (by rw [List.append_assoc, List.singleton_append, whole])
      exact ⟨concluded, (List.prefix_append ..).trans further, expanded, done⟩
    · refine ⟨levels, List.prefix_rfl, reached, ?_⟩
      rw [Concluded, planNextContextLevel_last whole, if_neg goesOn]

theorem prefix_of_concluded {concluded : List String} (reached : Expanded stillOpen levels)
    (expanded : Expanded stillOpen concluded) (done : Concluded stillOpen concluded) : levels <+: concluded := by
  rcases List.prefix_or_prefix_of_prefix reached.begun expanded.begun with before | ⟨later, rfl⟩
  · exact before
  · cases later with
    | nil => rw [List.append_nil]
    | cons level later =>
      obtain ⟨nonempty, closed | all⟩ := (concluded_iff expanded.begun).mp done
      · have isOpen := reached.isOpen ⟨later, (List.append_cons ..).symm⟩ nonempty
        rw [closed] at isOpen
        cases isOpen
      · have length := reached.begun.length_le
        rw [← all, List.length_append, List.length_cons] at length
        omega

structure Expansion (stillOpen : List String → Bool) (concluded : List String) : Prop where
  begun : concluded ≠ []
  inOrder : concluded <+: contextLevels
  reached levels : Expanded stillOpen levels ↔ levels <+: concluded
  returns levels : levels <+: concluded → ∃ planned, planNextContextLevel levels.getLast? (stillOpen levels) = .ok planned
  ends levels : levels <+: concluded → (Concluded stillOpen levels ↔ levels = concluded)
  wasOpen levels : levels <+: concluded → levels ≠ [] → levels ≠ concluded → stillOpen levels = true
  closed : stillOpen concluded = false ∨ concluded = contextLevels

/-- Whatever the levels bring, an investigation takes them in from the first on, one after the
other, and ends where the hypothesis is no longer open or no level is left. -/
theorem context_expansion (stillOpen : List String → Bool) : ∃! concluded, Expansion stillOpen concluded := by
  obtain ⟨concluded, _, expanded, done⟩ := exists_concluded (.start : Expanded stillOpen [])
  obtain ⟨nonempty, closed⟩ := (concluded_iff expanded.begun).mp done
  have reached (levels : List String) : Expanded stillOpen levels ↔ levels <+: concluded := by
    constructor
    · exact fun reached => prefix_of_concluded reached expanded done
    · intro before
      refine expanded_iff.mpr ⟨before.trans expanded.begun, ?_⟩
      exact fun earlier level inside => expanded.isOpen (inside.trans before)
  refine ⟨concluded, ⟨nonempty, expanded.begun, reached, ?_, ?_, ?_, closed⟩, ?_⟩
  · intro levels before
    obtain ⟨later, whole⟩ := before.trans expanded.begun
    exact ⟨_, planNextContextLevel_last whole _⟩
  · intro levels before
    constructor
    · intro ended
      exact before.eq_of_length_le (prefix_of_concluded expanded ((reached levels).mpr before) ended).length_le
    · rintro rfl
      exact done
  · rintro levels ⟨later, rfl⟩ taken unequal
    cases later with
    | nil => exact absurd (List.append_nil levels).symm unequal
    | cons level later => exact expanded.isOpen ⟨later, (List.append_cons ..).symm⟩ taken
  · intro other expansion
    have before := (reached other).mp ((expansion.reached other).mpr List.prefix_rfl)
    exact before.eq_of_length_le ((expansion.reached concluded).mp expanded).length_le

end ArgosCore.Proofs
