import Mathlib.Data.List.Forall2

/-! Computations that can fail: what a success says about the steps, the results of
running a function over a list, and a search that ends at the first hit. -/

namespace Fallible

variable {α β ε : Type} {f : α → Except ε β}

theorem bind_ok_iff {action : Except ε α} {result : β} :
    action >>= f = .ok result ↔ ∃ value, action = .ok value ∧ f value = .ok result := by
  cases action <;> simp [bind, Except.bind]

theorem bind_error_iff {action : Except ε α} {next : α → Except ε β} {error : ε} :
    action >>= next = .error error ↔ action = .error error ∨ ∃ value, action = .ok value ∧ next value = .error error := by
  cases action <;> simp [bind, Except.bind]

/-- `if refused: raise error` before a value is returned. -/
theorem guarded_ok_iff {refused : Prop} [Decidable refused] {error : ε} {value result : α} :
    (if refused then (do throw error; pure value) else pure value : Except ε α) = .ok result ↔
      ¬ refused ∧ value = result := by
  by_cases holds : refused <;> simp [holds, throw, throwThe, MonadExceptOf.throw, bind, Except.bind, pure, Except.pure]

theorem mapM_cons_ok {item : α} {items : List α} {results : List β} :
    (item :: items).mapM f = .ok results ↔
      ∃ result others, f item = .ok result ∧ items.mapM f = .ok others ∧ results = result :: others := by
  rw [List.mapM_cons]
  simp only [bind_ok_iff, pure, Except.pure, Except.ok.injEq, eq_comm (a := results), exists_and_left]

theorem mapM_ok_iff {items : List α} {results : List β} :
    items.mapM f = .ok results ↔ List.Forall₂ (fun item result => f item = .ok result) items results := by
  induction items generalizing results with
  | nil => simp [pure, Except.pure, eq_comm]
  | cons item items ih => simp only [mapM_cons_ok, List.forall₂_cons_left_iff, ih, exists_and_left]

theorem mem_of_mapM_ok {items : List α} {results : List β} (done : items.mapM f = .ok results) :
    ∀ result ∈ results, ∃ item ∈ items, f item = .ok result := by
  induction mapM_ok_iff.mp done with
  | nil => simp
  | @cons item result items results same rest ih =>
    intro other member
    rcases List.mem_cons.mp member with rfl | later
    · exact ⟨item, List.mem_cons_self, same⟩
    · obtain ⟨source, inside, found⟩ := ih (mapM_ok_iff.mpr rest) other later
      exact ⟨source, List.mem_cons_of_mem _ inside, found⟩

theorem mapM_eq_self {step : α → Except ε α} {items : List α} (fixed : ∀ item ∈ items, step item = .ok item) :
    items.mapM step = .ok items := by
  rw [mapM_ok_iff, List.forall₂_same]
  exact fixed

section
variable {check : α → Except ε Bool} {items : List α}

theorem anyM_cons_ok {item : α} {answer : Bool} : (item :: items).anyM check = .ok answer ↔
    check item = .ok true ∧ answer = true ∨ check item = .ok false ∧ items.anyM check = .ok answer := by
  rw [List.anyM_cons, bind_ok_iff]
  simp [Bool.exists_bool, pure, Except.pure, or_comm, eq_comm]

theorem anyM_answer {answer : Bool} (done : items.anyM check = .ok answer) :
    answer = true ↔ ∃ item ∈ items, check item = .ok true := by
  induction items with
  | nil =>
    cases done
    simp
  | cons item items ih =>
    rcases anyM_cons_ok.mp done with ⟨hit, rfl⟩ | ⟨miss, later⟩
    · simp [hit]
    · rw [ih later]
      simp [miss]

/-- A search returns when every item that fails comes after a hit. -/
theorem anyM_returns_iff : (∃ answer, items.anyM check = .ok answer) ↔
    ∀ before item after, items = before ++ item :: after → (∀ answer, check item ≠ .ok answer) →
      ∃ earlier ∈ before, check earlier = .ok true := by
  induction items with
  | nil => simp [pure, Except.pure]
  | cons item items ih =>
    simp only [anyM_cons_ok]
    constructor
    · rintro ⟨answer, ⟨hit, _⟩ | ⟨miss, later⟩⟩ before failing after split fails
      · cases before with
        | nil =>
          cases split
          exact absurd hit (fails true)
        | cons first before =>
          cases split
          exact ⟨item, List.mem_cons_self, hit⟩
      · cases before with
        | nil =>
          cases split
          exact absurd miss (fails false)
        | cons first before =>
          cases split
          obtain ⟨earlier, inside, hit⟩ := ih.mp ⟨answer, later⟩ before failing after rfl fails
          exact ⟨earlier, List.mem_cons_of_mem _ inside, hit⟩
    · intro guarded
      rcases here : check item with error | answer
      · obtain ⟨_, inside, _⟩ := guarded [] item items rfl (by simp [here])
        cases inside
      · cases answer with
        | true => exact ⟨true, .inl ⟨rfl, rfl⟩⟩
        | false =>
          have rest := ih.mpr fun before failing after split fails => by
            obtain ⟨earlier, inside, hit⟩ := guarded (item :: before) failing after (by rw [split, List.cons_append]) fails
            rcases List.mem_cons.mp inside with rfl | later
            · rw [here] at hit
              cases hit
            · exact ⟨earlier, later, hit⟩
          obtain ⟨answer, later⟩ := rest
          exact ⟨answer, .inr ⟨rfl, later⟩⟩

end

end Fallible
