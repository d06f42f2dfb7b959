import ArgosCore.Proofs.AssetMerge

/-! Reconciling the same fragments in another order. Only the last word of every source is
heard, so an order is a hearing of what the fragments say, and every hearing is the one of
some order. -/

namespace ArgosCore.Proofs
open Testimony

/-- Equal dictionaries and the same fields in conflict, or the same error. -/
def SameResult : (one other : Except ReconcileError (Dict Scalar × List FieldConflict)) → Prop
  | .ok (merged, conflicts), .ok (merged', conflicts') =>
    (∀ field, (merged.lookup field).map Scalar.number = (merged'.lookup field).map Scalar.number) ∧
      ∀ field, field ∈ conflicts.map FieldConflict.field ↔ field ∈ conflicts'.map FieldConflict.field
  | .error error, .error error' => error = error'
  | _, _ => False

structure OrderIndependent (ranking : Dict Int) (fragments : List AssetFragment) : Prop where
  same : ∀ arrived, arrived.Perm fragments → ∀ draws draws',
    SameResult (reconcile fragments (some ranking) draws) (reconcile arrived (some ranking) draws')
  unhidden : ∀ draws merged conflicts, reconcile fragments (some ranking) draws = .ok (merged, conflicts) →
    ∀ field ∈ mergeableFields, ∀ one ∈ fragments, ∀ other ∈ fragments, ∀ value value',
      one.fields.lookup field = some value → other.fields.lookup field = some value' →
      value.number ≠ value'.number → field ∈ conflicts.map FieldConflict.field

theorem mem_statements {field : String} {fragments : List AssetFragment} {statement : String × Scalar} :
    statement ∈ statements field fragments ↔ ∃ fragment ∈ fragments, ∃ value,
      fragment.fields.lookup field = some value ∧ (fragment.source, value.number) = statement := by
  simp only [statements, ballot, List.mem_map, mem_said]
  constructor
  · rintro ⟨item, ⟨fragment, member, source, found⟩, rfl⟩
    exact ⟨fragment, member, item.2, found, by rw [source]⟩
  · rintro ⟨fragment, member, value, found, rfl⟩
    exact ⟨(fragment.source, value), ⟨fragment, member, rfl, found⟩, rfl⟩

theorem disputed_statements_iff (field : String) (fragments : List AssetFragment) :
    Disputed (statements field fragments) ↔ ∃ one ∈ fragments, ∃ other ∈ fragments, ∃ value value',
      one.fields.lookup field = some value ∧ other.fields.lookup field = some value' ∧ value.number ≠ value'.number := by
  constructor
  · intro ⟨_, first, _, second, differ⟩
    obtain ⟨one, member, value, found, rfl⟩ := mem_statements.mp first
    obtain ⟨other, inside, value', known, rfl⟩ := mem_statements.mp second
    exact ⟨one, member, other, inside, value, value', found, known, differ⟩
  · intro ⟨one, member, other, inside, value, value', found, known, differ⟩
    have first := mem_statements.mpr ⟨one, member, value, found, rfl⟩
    have second := mem_statements.mpr ⟨other, inside, value', known, rfl⟩
    exact ⟨_, first, _, second, differ⟩

theorem mem_statements_perm {field : String} {arrived fragments : List AssetFragment} (perm : arrived.Perm fragments)
    (statement : String × Scalar) : statement ∈ statements field arrived ↔ statement ∈ statements field fragments := by
  simp only [mem_statements, perm.mem_iff]

theorem votes_append_subset {field : String} {earlier later : List AssetFragment} {heard : List (String × Scalar)}
    (sources : ∀ fragment ∈ earlier, ∀ value, fragment.fields.lookup field = some value →
      ∃ spoken, (fragment.source, spoken) ∈ said field later)
    (inside : statements field later ⊆ heard) : votes field (earlier ++ later) ⊆ heard := by
  intro vote member
  obtain ⟨⟨source, value⟩, known, rfl⟩ := List.mem_map.mp member
  have found := (Dict.lookup_eq_some_iff (latest_nodup field _)).mpr known
  rw [latest, Dict.lookup_setAll, said_append, List.reverse_append, List.lookup_append, List.lookup_nil,
    Option.or_none] at found
  have spoken : (source, value) ∈ said field later := by
    cases late : (said field later).reverse.lookup source with
    | some last =>
      rw [late, Option.some_or, Option.some.injEq] at found
      exact found ▸ List.mem_reverse.mp (Dict.mem_of_lookup late)
    | none =>
      rw [late, Option.none_or] at found
      obtain ⟨fragment, early, rfl, claims⟩ := mem_said.mp (List.mem_reverse.mp (Dict.mem_of_lookup found))
      obtain ⟨spoken, again⟩ := sources fragment early value claims
      have silent := List.lookup_eq_none_iff.mp late _ (List.mem_reverse.mpr again)
      simp at silent
  exact inside (List.mem_map.mpr ⟨_, spoken, rfl⟩)

/-- Every hearing is the one of some order: the fragments that it goes by arrive last. -/
theorem exists_arrival (field : String) (fragments : List AssetFragment) {heard : List (String × Scalar)}
    (hearing : Hearing (statements field fragments) heard) :
    ∃ arrived, arrived.Perm fragments ∧ ∀ vote, vote ∈ votes field arrived ↔ vote ∈ heard := by
  classical
  let goesBy (fragment : AssetFragment) : Bool :=
    decide (∃ value, fragment.fields.lookup field = some value ∧ (fragment.source, value.number) ∈ heard)
  have perm : (fragments.filter (fun fragment => !goesBy fragment) ++ fragments.filter goesBy).Perm fragments :=
    List.perm_append_comm.trans (List.filter_append_perm goesBy fragments)
  refine ⟨_, perm, ?_⟩
  apply ((hearing_votes field _).congr (mem_statements_perm perm)).mem_iff_of_subset hearing
  apply votes_append_subset
  · intro fragment early value claims
    have spoke : fragment.source ∈ (statements field fragments).map Prod.fst :=
      List.mem_map_of_mem (mem_statements.mpr ⟨fragment, List.mem_of_mem_filter early, value, claims, rfl⟩)
    obtain ⟨voted, vote⟩ := hearing.exists_vote spoke
    obtain ⟨trusted, member, spoken, found, same⟩ := mem_statements.mp (hearing.spoken vote)
    obtain ⟨source, rfl⟩ := Prod.mk.inj same
    refine ⟨spoken, mem_said.mpr ⟨trusted, List.mem_filter.mpr ⟨member, ?_⟩, source, found⟩⟩
    exact decide_eq_true ⟨spoken, found, source ▸ vote⟩
  · intro statement member
    obtain ⟨fragment, chosen, value, claims, rfl⟩ := mem_statements.mp member
    obtain ⟨spoken, found, vote⟩ := of_decide_eq_true (List.mem_filter.mp chosen).2
    obtain rfl := Option.some.inj (claims.symm.trans found)
    exact vote

theorem reconcile_total {fragments : List AssetFragment} (nonempty : fragments ≠ []) {assetId : String}
    (oneAsset : ∀ fragment ∈ fragments, fragment.assetId = assetId) (authorityRanking : Option (Dict Int))
    (draws : String → FieldDraws) :
    ∃ merged conflicts, reconcile fragments authorityRanking draws = .ok (merged, conflicts) := by
  obtain ⟨first, others, rfl⟩ := List.exists_cons_of_ne_nil nonempty
  have agreed : ¬ (others.any fun fragment => fragment.assetId ≠ first.assetId) = true := by
    simp only [ne_eq, List.any_eq_true, decide_eq_true_eq, not_exists, not_and, not_not]
    intro fragment member
    rw [oneAsset fragment (List.mem_cons_of_mem _ member), oneAsset first List.mem_cons_self]
  exact ⟨_, _, if_neg agreed⟩

section
variable {ranking : Dict Int} {fragments arrived : List AssetFragment} {assetId assetId' : String}
  {draws draws' : String → FieldDraws} {merged merged' : Dict Scalar} {conflicts conflicts' : List FieldConflict}

theorem sameResult_iff (first : Reconciled assetId fragments (some ranking) draws merged conflicts)
    (second : Reconciled assetId' arrived (some ranking) draws' merged' conflicts') :
    SameResult (.ok (merged, conflicts)) (.ok (merged', conflicts')) ↔ ∀ field ∈ mergeableFields,
      (Disputed (votes field fragments) ↔ Disputed (votes field arrived)) ∧ ∀ value,
        Decides (authority ranking) (votes field fragments) value ↔
          Decides (authority ranking) (votes field arrived) value := by
  simp only [SameResult, first.listed_iff, second.listed_iff]
  constructor
  · intro ⟨fields, listed⟩ field mergeable
    refine ⟨by simpa [mergeable] using listed field, ?_⟩
    intro value
    rw [← first.decides_iff mergeable, ← second.decides_iff mergeable, fields field]
  · intro alike
    constructor
    · intro field
      by_cases mergeable : field ∈ mergeableFields
      · apply Option.ext
        intro value
        rw [first.decides_iff mergeable, second.decides_iff mergeable, (alike field mergeable).2]
      · rw [first.unmergeable mergeable, second.unmergeable mergeable]
    · intro field
      exact and_congr_right fun mergeable => (alike field mergeable).1

end

section
variable {ranking : Dict Int} {fragments : List AssetFragment}

private theorem settled_of_independent {assetId : String} (nonempty : fragments ≠ [])
    (oneAsset : ∀ fragment ∈ fragments, fragment.assetId = assetId) (independent : OrderIndependent ranking fragments)
    {field : String} (mergeable : field ∈ mergeableFields) : Settled (authority ranking) (statements field fragments) := by
  let draws (_ : String) : FieldDraws := ⟨⟨0, 0⟩, ⟨0, 0⟩⟩
  obtain ⟨merged, conflicts, done⟩ := reconcile_total nonempty oneAsset (some ranking) draws
  obtain ⟨_, reconciled⟩ := reconcile_ok done
  -- Every hearing is compared with the one of the order given.
  have alike (heard : List (String × Scalar)) (hearing : Hearing (statements field fragments) heard) :
      (Disputed (votes field fragments) ↔ Disputed heard) ∧ ∀ value,
        Decides (authority ranking) (votes field fragments) value ↔ Decides (authority ranking) heard value := by
    obtain ⟨arrived, perm, same⟩ := exists_arrival field fragments hearing
    have filled : arrived ≠ [] := fun empty => nonempty (List.nil_perm.mp (empty ▸ perm))
    obtain ⟨merged', conflicts', again⟩ :=
      reconcile_total filled (fun fragment member => oneAsset fragment (perm.mem_iff.mp member)) (some ranking) draws
    obtain ⟨_, reconciled'⟩ := reconcile_ok again
    have results := independent.same arrived perm draws draws
    rw [done, again, sameResult_iff reconciled reconciled'] at results
    simp only [← disputed_congr same, ← decides_congr same]
    exact results field mergeable
  rw [← settled_iff]
  constructor
  · intro one other first second
    refine ⟨(alike one first).1.symm.trans (alike other second).1, ?_⟩
    intro value
    exact ((alike one first).2 value).symm.trans ((alike other second).2 value)
  · intro disputed heard hearing
    obtain ⟨one, member, other, inside, value, value', found, known, differ⟩ :=
      (disputed_statements_iff field fragments).mp disputed
    have listed := independent.unhidden draws merged conflicts done field mergeable one member other inside value value'
      found known differ
    exact (alike heard hearing).1.mp ((reconciled.listed_iff field).mp listed).2

private theorem independent_of_settled {assetId : String} (nonempty : fragments ≠ [])
    (oneAsset : ∀ fragment ∈ fragments, fragment.assetId = assetId)
    (settled : ∀ field ∈ mergeableFields, Settled (authority ranking) (statements field fragments)) :
    OrderIndependent ranking fragments where
  same := by
    intro arrived perm draws draws'
    have filled : arrived ≠ [] := fun empty => nonempty (List.nil_perm.mp (empty ▸ perm))
    obtain ⟨_, _, done⟩ := reconcile_total nonempty oneAsset (some ranking) draws
    obtain ⟨_, _, again⟩ :=
      reconcile_total filled (fun fragment member => oneAsset fragment (perm.mem_iff.mp member)) (some ranking) draws'
    obtain ⟨_, reconciled⟩ := reconcile_ok done
    obtain ⟨_, reconciled'⟩ := reconcile_ok again
    rw [done, again, sameResult_iff reconciled reconciled']
    intro field mergeable
    have first := hearing_votes field fragments
    have second := (hearing_votes field arrived).congr (mem_statements_perm perm)
    have all := settled field mergeable
    refine ⟨(first.disputed_iff_of_settled all).trans (second.disputed_iff_of_settled all).symm, ?_⟩
    intro value
    exact (first.decides_iff_of_settled all value).trans (second.decides_iff_of_settled all value).symm
  unhidden := by
    intro draws merged conflicts done field mergeable one member other inside value value' found known differ
    obtain ⟨_, reconciled⟩ := reconcile_ok done
    have disputed : Disputed (statements field fragments) :=
      (disputed_statements_iff field fragments).mpr ⟨one, member, other, inside, value, value', found, known, differ⟩
    exact (reconciled.listed_iff field).mpr
      ⟨mergeable, (hearing_votes field fragments).disputed_of_settled (settled field mergeable) disputed⟩

end

/-- The order is irrelevant exactly when what the fragments say about every field is settled. -/
theorem arrival_order_irrelevant_iff (ranking : Dict Int) (fragments : List AssetFragment)
    (oneAsset : ∀ one ∈ fragments, ∀ other ∈ fragments, one.assetId = other.assetId) :
    OrderIndependent ranking fragments ↔
      ∀ field ∈ mergeableFields, Settled (authority ranking) (statements field fragments) := by
  rcases fragments with _ | ⟨first, others⟩
  · constructor
    · intro _ field _
      left
      intro source _ one other spoken
      cases spoken
    · intro _
      refine ⟨?_, ?_⟩
      · intro arrived perm draws draws'
        rw [List.perm_nil.mp perm]
        rfl
      · intro draws merged conflicts done
        cases done
  · have same (fragment : AssetFragment) (member : fragment ∈ first :: others) : fragment.assetId = first.assetId :=
      oneAsset fragment member first List.mem_cons_self
    constructor
    · intro independent field mergeable
      exact settled_of_independent (List.cons_ne_nil _ _) same independent mergeable
    · exact independent_of_settled (List.cons_ne_nil _ _) same

private def netbox (space : String) : AssetFragment where
  source := "netbox"
  assetId := "a1"
  fields := [("namespace", .str space)]

private def cmam (space : String) : AssetFragment where
  source := "cmam"
  assetId := "a1"
  fields := [("namespace", .str space)]

theorem arrival_order_irrelevant_two_sources :
    OrderIndependent [("cmam", 10), ("netbox", 1)] [netbox "argos-cyber-range", cmam "default"] ↔
      ∀ field ∈ mergeableFields, Settled (authority [("cmam", 10), ("netbox", 1)])
        (statements field [netbox "argos-cyber-range", cmam "default"]) := by
  apply arrival_order_irrelevant_iff
  decide

/-- A source that corrects itself: what the other one says is a conflict or not by the order. -/
theorem arrival_order_decides :
    ¬ OrderIndependent [("cmam", 1), ("netbox", 10)] [netbox "default", netbox "argos-cyber-range", cmam "default"] := by
  intro independent
  have results := independent.same [netbox "argos-cyber-range", netbox "default", cmam "default"] (.swap ..)
    (fun _ => ⟨⟨0, 0⟩, ⟨0, 0⟩⟩) (fun _ => ⟨⟨0, 0⟩, ⟨0, 0⟩⟩)
  have spaces := results.1 "namespace"
  revert spaces
  decide

end ArgosCore.Proofs
