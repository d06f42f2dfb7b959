import ArgosCore.AssetReconciler
import ArgosCore.Proofs.ConflictResolution

/-! The merge, one field at a time: what the fragments say about a field, one after the
other, is all that its two entries depend on, and each conflict is settled from the last
word of every source. -/

namespace ArgosCore.Proofs
open Testimony

def said (field : String) (fragments : List AssetFragment) : List (String × Scalar) :=
  fragments.filterMap fun fragment => (fragment.fields.lookup field).map fun value => (fragment.source, value)

def latest (field : String) (fragments : List AssetFragment) : Dict Scalar := Dict.setAll [] (said field fragments)

def cell (merge : Merge) (field : String) : Option Scalar × Option (Dict Scalar) :=
  (merge.merged.lookup field, merge.seenByField.lookup field)

def speak (held : Option Scalar × Option (Dict Scalar)) (statement : String × Scalar) :
    Option Scalar × Option (Dict Scalar) :=
  (some statement.2, some ((held.2.getD []).set statement.1 statement.2))

theorem said_append (field : String) (left right : List AssetFragment) :
    said field (left ++ right) = said field left ++ said field right := List.filterMap_append ..

theorem mem_said {field : String} {fragments : List AssetFragment} {statement : String × Scalar} :
    statement ∈ said field fragments ↔
      ∃ fragment ∈ fragments, fragment.source = statement.1 ∧ fragment.fields.lookup field = some statement.2 := by
  obtain ⟨source, value⟩ := statement
  simp [said, and_comm]

theorem mergeableFields_nodup : mergeableFields.Nodup := by decide

private theorem cell_readField (fragment : AssetFragment) (merge : Merge) (other field : String) :
    cell (merge.readField fragment other) field =
      if other = field then (said field [fragment]).foldl speak (cell merge field) else cell merge field := by
  by_cases same : other = field
  · subst same
    cases found : fragment.fields.lookup other <;> simp [Merge.readField, Merge.see, cell, said, speak, found]
  · cases found : fragment.fields.lookup other <;>
      simp [Merge.readField, Merge.see, cell, found, same, Ne.symm same]

private theorem cell_readFields (fragment : AssetFragment) {fields : List String} (distinct : fields.Nodup) (merge : Merge)
    (field : String) :
    cell (fields.foldl (Merge.readField fragment) merge) field =
      if field ∈ fields then (said field [fragment]).foldl speak (cell merge field) else cell merge field := by
  induction fields generalizing merge with
  | nil => simp
  | cons other fields ih =>
    obtain ⟨absent, rest⟩ := List.nodup_cons.mp distinct
    rw [List.foldl_cons, ih rest, cell_readField]
    by_cases same : other = field
    · subst same
      simp [absent]
    · simp [same, Ne.symm same]

private theorem mergeFragments_append_singleton (fragments : List AssetFragment) (fragment : AssetFragment) :
    mergeFragments (fragments ++ [fragment]) =
      mergeableFields.foldl (Merge.readField fragment) (mergeFragments fragments) := by
  rw [mergeFragments, List.foldl_append]
  rfl

theorem cell_mergeFragments (fragments : List AssetFragment) (field : String) :
    cell (mergeFragments fragments) field =
      if field ∈ mergeableFields then (said field fragments).foldl speak (none, none) else (none, none) := by
  induction fragments using List.reverseRecOn with
  | nil => simp [mergeFragments, cell, said]
  | append_singleton fragments fragment ih =>
    rw [mergeFragments_append_singleton, cell_readFields _ mergeableFields_nodup, ih, said_append, List.foldl_append]
    split <;> rfl

private theorem foldl_speak (statements : List (String × Scalar)) :
    statements.foldl speak (none, none) =
      (statements.getLast?.map Prod.snd, if statements = [] then none else some (Dict.setAll [] statements)) := by
  induction statements using List.reverseRecOn with
  | nil => rfl
  | append_singleton statements statement ih =>
    rw [List.foldl_append, ih]
    by_cases empty : statements = []
    · simp [empty, speak, Dict.setAll]
    · simp [empty, speak, Dict.setAll]

theorem lookup_merged (fragments : List AssetFragment) (field : String) :
    (mergeFragments fragments).merged.lookup field =
      if field ∈ mergeableFields then (said field fragments).getLast?.map Prod.snd else none := by
  have entries := cell_mergeFragments fragments field
  rw [foldl_speak] at entries
  apply (congrArg Prod.fst entries).trans
  split <;> rfl

theorem lookup_seenByField (fragments : List AssetFragment) (field : String) :
    (mergeFragments fragments).seenByField.lookup field =
      if field ∈ mergeableFields ∧ said field fragments ≠ [] then some (latest field fragments) else none := by
  have entries := cell_mergeFragments fragments field
  rw [foldl_speak] at entries
  apply (congrArg Prod.snd entries).trans
  by_cases mergeable : field ∈ mergeableFields
  · by_cases silent : said field fragments = [] <;> simp [mergeable, silent, latest]
  · simp [mergeable]

theorem latest_nodup (field : String) (fragments : List AssetFragment) : ((latest field fragments).map Prod.fst).Nodup :=
  Dict.nodup_setAll (by simp) _

private theorem readFields_nodup (fragment : AssetFragment) {fields : List String} {merge : Merge}
    (distinct : (merge.merged.map Prod.fst).Nodup ∧ (merge.seenByField.map Prod.fst).Nodup) :
    let after := fields.foldl (Merge.readField fragment) merge
    (after.merged.map Prod.fst).Nodup ∧ (after.seenByField.map Prod.fst).Nodup := by
  induction fields generalizing merge with
  | nil => exact distinct
  | cons field fields ih =>
    apply ih
    cases found : fragment.fields.lookup field with
    | none => simpa only [Merge.readField, found] using distinct
    | some value =>
      simp only [Merge.readField, found, Merge.see]
      exact ⟨Dict.nodup_set distinct.1 _ _, Dict.nodup_set distinct.2 _ _⟩

theorem mergeFragments_nodup (fragments : List AssetFragment) :
    ((mergeFragments fragments).merged.map Prod.fst).Nodup ∧
      ((mergeFragments fragments).seenByField.map Prod.fst).Nodup := by
  induction fragments using List.reverseRecOn with
  | nil => exact ⟨List.nodup_nil, List.nodup_nil⟩
  | append_singleton fragments fragment ih =>
    rw [mergeFragments_append_singleton]
    exact readFields_nodup fragment ih

theorem mem_seenByField {fragments : List AssetFragment} {field : String} {values : Dict Scalar} :
    (field, values) ∈ (mergeFragments fragments).seenByField ↔
      field ∈ mergeableFields ∧ said field fragments ≠ [] ∧ values = latest field fragments := by
  rw [← Dict.lookup_eq_some_iff (mergeFragments_nodup fragments).2, lookup_seenByField]
  split
  next both => simp [both, eq_comm]
  next neither =>
    simp only [reduceCtorEq, false_iff]
    intro ⟨mergeable, spoken, _⟩
    exact neither ⟨mergeable, spoken⟩

/-- Equal values are one vote. -/
def ballot (items : List (String × Scalar)) : List (String × Scalar) := items.map fun item => (item.1, item.2.number)

def votes (field : String) (fragments : List AssetFragment) : List (String × Scalar) := ballot (latest field fragments)

def statements (field : String) (fragments : List AssetFragment) : List (String × Scalar) := ballot (said field fragments)

def Contested (values : Dict Scalar) : Prop := ¬ (Scalar.setOf (values.map Prod.snd)).card ≤ 1

instance (values : Dict Scalar) : Decidable (Contested values) := inferInstanceAs (Decidable (¬ _))

theorem contested_iff (values : Dict Scalar) :
    Contested values ↔ Disputed (ballot values) := by
  simp only [ballot, Contested, Scalar.card_setOf_le_one_iff, Disputed, List.mem_map, not_forall,
    exists_exists_and_eq_and, exists_prop, ne_eq]

theorem hearing_votes (field : String) (fragments : List AssetFragment) :
    Hearing (statements field fragments) (votes field fragments) where
  once := by
    rw [votes, ballot, List.map_map]
    exact latest_nodup field fragments
  heard := by
    intro source spoke
    rw [statements, ballot, List.map_map] at spoke
    rw [votes, ballot, List.map_map]
    exact (Dict.mem_keys_setAll [] _ source).mpr (.inl spoke)
  spoken := by
    apply List.map_subset
    intro item member
    rcases Dict.mem_of_mem_setAll member with spoken | nothing
    · exact spoken
    · cases nothing

def settledValue (assetId field : String) (authorityRanking : Option (Dict Int)) (draws : FieldDraws) (values : Dict Scalar)
    (held : Option Scalar) : Option Scalar :=
  match authorityRanking with
  | none => held
  | some ranking => (resolveField assetId field values ranking draws).winningSource.bind fun source => values.lookup source

def conflictOf (assetId : String) (authorityRanking : Option (Dict Int)) (draws : String → FieldDraws)
    (seen : String × Dict Scalar) : FieldConflict where
  field := seen.1
  values := seen.2
  resolution := authorityRanking.map fun ranking =>
    let resolution := resolveField assetId seen.1 seen.2 ranking (draws seen.1)
    { state := resolution.state
      winningSource := resolution.winningSource
      rejectedSources := resolution.rejectedSources
      rule := resolution.rule
      reasonCode := resolution.reasonCode }

section
variable {assetId : String} {authorityRanking : Option (Dict Int)} {draws : String → FieldDraws}
  {state : Dict Scalar × List FieldConflict}

private theorem settleField_calm (name : String) {values : Dict Scalar} (calm : ¬ Contested values) :
    settleField assetId authorityRanking draws state (name, values) = state := if_pos (not_not.mp calm)

private theorem lookup_settleField (name : String) {values : Dict Scalar} (contested : Contested values) (field : String) :
    (settleField assetId authorityRanking draws state (name, values)).1.lookup field =
      if field = name then settledValue assetId field authorityRanking (draws field) values (state.1.lookup field)
      else state.1.lookup field := by
  have split : ¬ (Scalar.setOf (values.map Prod.snd)).card ≤ 1 := contested
  cases authorityRanking with
  | none => simp [settleField, settledValue, split]
  | some ranking =>
    by_cases same : field = name
    · subst same
      simp [settleField, settledValue, split]
    · simp [settleField, split, same]

private theorem conflicts_settleField {seen : String × Dict Scalar} (contested : Contested seen.2) :
    (settleField assetId authorityRanking draws state seen).2 =
      state.2 ++ [conflictOf assetId authorityRanking draws seen] := by
  obtain ⟨name, values⟩ := seen
  have split : ¬ (Scalar.setOf (values.map Prod.snd)).card ≤ 1 := contested
  cases authorityRanking <;> simp [settleField, conflictOf, split]

theorem lookup_settleFields {seen : Dict (Dict Scalar)} (distinct : (seen.map Prod.fst).Nodup) (field : String) :
    (seen.foldl (settleField assetId authorityRanking draws) state).1.lookup field =
      match seen.lookup field with
      | none => state.1.lookup field
      | some values =>
        if Contested values then settledValue assetId field authorityRanking (draws field) values (state.1.lookup field)
        else state.1.lookup field := by
  induction seen generalizing state with
  | nil => rfl
  | cons item seen ih =>
    obtain ⟨absent, rest⟩ := List.nodup_cons.mp distinct
    obtain ⟨name, values⟩ := item
    rw [List.foldl_cons, ih rest]
    by_cases same : field = name
    · subst same
      have unseen : seen.lookup field = none := by
        rw [List.lookup_eq_none_iff]
        intro other member
        exact bne_iff_ne.mpr fun equal => absent (List.mem_map.mpr ⟨other, member, equal.symm⟩)
      by_cases contested : Contested values
      · simp [unseen, lookup_settleField field contested, contested]
      · simp [unseen, settleField_calm field contested, contested]
    · by_cases contested : Contested values
      · simp [List.lookup_cons, beq_false_of_ne same, lookup_settleField name contested, same]
      · simp [List.lookup_cons, beq_false_of_ne same, settleField_calm name contested]

theorem settleFields_nodup (distinct : (state.1.map Prod.fst).Nodup) (seen : Dict (Dict Scalar)) :
    ((seen.foldl (settleField assetId authorityRanking draws) state).1.map Prod.fst).Nodup := by
  induction seen generalizing state with
  | nil => exact distinct
  | cons item seen ih =>
    apply ih
    simp only [settleField]
    split
    · exact distinct
    · cases authorityRanking with
      | none => exact distinct
      | some ranking => exact Dict.nodup_put distinct _ _

theorem conflicts_settleFields (seen : Dict (Dict Scalar)) :
    (seen.foldl (settleField assetId authorityRanking draws) state).2 =
      state.2 ++ (seen.filter fun item => Contested item.2).map (conflictOf assetId authorityRanking draws) := by
  induction seen generalizing state with
  | nil => simp
  | cons item seen ih =>
    rw [List.foldl_cons, ih]
    by_cases contested : Contested item.2
    · simp [conflicts_settleField contested, contested]
    · simp [settleField_calm _ contested, contested]

end

theorem ne_nil_of_contested {values : Dict Scalar} (contested : Contested values) : values ≠ [] := by
  rintro rfl
  exact contested (by decide)

theorem resolveField_outcome (assetId field : String) {values : Dict Scalar} (ranking : Dict Int) (draws : FieldDraws)
    (distinct : (values.map Prod.fst).Nodup) (nonempty : values ≠ []) :
    let resolution := resolveField assetId field values ranking draws
    (∃ source value, values.lookup source = some value ∧ resolution.winningSource = some source ∧
        resolution.state ≠ .requiresAuthority ∧
        Decides (authority ranking) (ballot values) value.number) ∨
      (resolution.winningSource = none ∧ resolution.state = .requiresAuthority ∧
        ∀ value, ¬ Decides (authority ranking) (ballot values) value) := by
  let claims := values.map fun item =>
    { sourceId := item.1, value := item.2, observedAt := draws.claimed.utcNowIso : SourceClaim }
  have shape : claims.map vote = ballot values := by
    rw [List.map_map]
    rfl
  have fresh : ∀ claim ∈ claims, claim.observedAt = draws.claimed.utcNowIso := by
    intro claim member
    obtain ⟨item, _, rfl⟩ := List.mem_map.mp member
    rfl
  have outcome := resolveConflict_outcome assetId field .classification ranking draws.resolved
    (by simpa [claims] using nonempty : claims ≠ []) fresh
  intro resolution
  rw [← shape]
  rcases outcome with ⟨winner, member, wins, governed, decides⟩ | ⟨lost, pending, divided⟩
  · obtain ⟨item, inside, rfl⟩ := List.mem_map.mp member
    exact .inl ⟨item.1, item.2, (Dict.lookup_eq_some_iff distinct).mpr inside, wins, governed, decides⟩
  · exact .inr ⟨lost, pending, divided⟩

structure Reconciled (assetId : String) (fragments : List AssetFragment) (authorityRanking : Option (Dict Int))
    (draws : String → FieldDraws) (merged : Dict Scalar) (conflicts : List FieldConflict) : Prop where
  oneAsset : ∀ fragment ∈ fragments, fragment.assetId = assetId
  distinct : (merged.map Prod.fst).Nodup
  lookup_merged : ∀ field, merged.lookup field =
    if field ∈ mergeableFields then
      if Contested (latest field fragments) then
        settledValue assetId field authorityRanking (draws field) (latest field fragments)
          ((said field fragments).getLast?.map Prod.snd)
      else (said field fragments).getLast?.map Prod.snd
    else none
  mem_conflicts : ∀ conflict, conflict ∈ conflicts ↔ ∃ field ∈ mergeableFields, Contested (latest field fragments) ∧
    conflictOf assetId authorityRanking draws (field, latest field fragments) = conflict

theorem latest_eq_nil_iff {field : String} {fragments : List AssetFragment} :
    latest field fragments = [] ↔ said field fragments = [] := by
  have keys := Dict.mem_keys_setAll [] (said field fragments)
  rw [← List.map_eq_nil_iff (f := Prod.fst), ← List.map_eq_nil_iff (l := said field fragments) (f := Prod.fst),
    List.eq_nil_iff_forall_not_mem, List.eq_nil_iff_forall_not_mem]
  refine forall_congr' fun source => not_congr ?_
  simpa [latest] using keys source

section
variable {fragments : List AssetFragment} {authorityRanking : Option (Dict Int)} {draws : String → FieldDraws}
  {merged : Dict Scalar} {conflicts : List FieldConflict}

private theorem settleFields_reconciled {assetId : String} (oneAsset : ∀ fragment ∈ fragments, fragment.assetId = assetId)
    (result : (mergeFragments fragments).seenByField.foldl (settleField assetId authorityRanking draws)
      ((mergeFragments fragments).merged, []) = (merged, conflicts)) :
    Reconciled assetId fragments authorityRanking draws merged conflicts where
  oneAsset := oneAsset
  distinct := by
    rw [← show _ = merged from congrArg Prod.fst result]
    exact settleFields_nodup (mergeFragments_nodup fragments).1 _
  lookup_merged field := by
    rw [← show _ = merged from congrArg Prod.fst result, lookup_settleFields (mergeFragments_nodup fragments).2,
      lookup_seenByField, ArgosCore.Proofs.lookup_merged]
    by_cases mergeable : field ∈ mergeableFields
    · by_cases silent : said field fragments = []
      · have calm : ¬ Contested (latest field fragments) := fun contested =>
          ne_nil_of_contested contested (latest_eq_nil_iff.mpr silent)
        simp [mergeable, silent, calm]
      · simp [mergeable, silent]
    · simp [mergeable]
  mem_conflicts conflict := by
    rw [← show _ = conflicts from congrArg Prod.snd result, conflicts_settleFields]
    simp only [List.nil_append, List.mem_map, List.mem_filter, decide_eq_true_eq, Prod.exists, mem_seenByField]
    constructor
    · rintro ⟨field, values, ⟨⟨mergeable, _, same⟩, contested⟩, made⟩
      subst same
      exact ⟨field, mergeable, contested, made⟩
    · rintro ⟨field, mergeable, contested, made⟩
      have spoken : said field fragments ≠ [] := fun silent =>
        ne_nil_of_contested contested (latest_eq_nil_iff.mpr silent)
      exact ⟨field, _, ⟨⟨mergeable, spoken, rfl⟩, contested⟩, made⟩

theorem reconcile_ok (done : reconcile fragments authorityRanking draws = .ok (merged, conflicts)) :
    ∃ assetId, Reconciled assetId fragments authorityRanking draws merged conflicts := by
  cases fragments with
  | nil => cases done
  | cons first others =>
    rw [reconcile] at done
    split at done
    next => cases done
    next one => exact ⟨first.assetId, settleFields_reconciled (by simpa using one) (Except.ok.inj done)⟩

theorem Reconciled.listed_iff {assetId : String}
    (reconciled : Reconciled assetId fragments authorityRanking draws merged conflicts) (field : String) :
    field ∈ conflicts.map FieldConflict.field ↔ field ∈ mergeableFields ∧ Disputed (votes field fragments) := by
  rw [List.mem_map, votes, ← contested_iff]
  constructor
  · intro ⟨conflict, member, same⟩
    obtain ⟨name, mergeable, contested, rfl⟩ := (reconciled.mem_conflicts conflict).mp member
    exact same ▸ ⟨mergeable, contested⟩
  · intro ⟨mergeable, contested⟩
    exact ⟨_, (reconciled.mem_conflicts _).mpr ⟨field, mergeable, contested, rfl⟩, rfl⟩

theorem Reconciled.unmergeable {assetId : String}
    (reconciled : Reconciled assetId fragments authorityRanking draws merged conflicts) {field : String}
    (unmergeable : field ∉ mergeableFields) : merged.lookup field = none := by
  rw [reconciled.lookup_merged, if_neg unmergeable]

theorem Reconciled.decides_iff {assetId : String} {ranking : Dict Int}
    (reconciled : Reconciled assetId fragments (some ranking) draws merged conflicts) {field : String}
    (mergeable : field ∈ mergeableFields) (value : Scalar) :
    (merged.lookup field).map Scalar.number = some value ↔ Decides (authority ranking) (votes field fragments) value := by
  rw [reconciled.lookup_merged, if_pos mergeable]
  by_cases contested : Contested (latest field fragments)
  · rw [if_pos contested, settledValue]
    rcases resolveField_outcome assetId field ranking (draws field) (latest_nodup field fragments)
      (ne_nil_of_contested contested) with ⟨source, winner, found, wins, _, decides⟩ | ⟨lost, _, divided⟩
    · simp only [wins, Option.bind_some, found, Option.map_some, Option.some.injEq]
      constructor
      · intro same
        exact same ▸ decides
      · intro decided
        exact decides.unique decided
    · simpa [lost, votes] using divided value
  · rw [if_neg contested]
    rcases List.eq_nil_or_concat (said field fragments) with silent | ⟨earlier, ⟨source, last⟩, spoken⟩
    · have empty : votes field fragments = [] := by
        rw [votes, latest_eq_nil_iff.mpr silent]
        rfl
      simp [silent, Decides, empty]
    · have known : (source, last) ∈ latest field fragments := by
        rw [← Dict.lookup_eq_some_iff (latest_nodup field fragments), latest, spoken, Dict.lookup_setAll]
        simp
      have heard : (source, last.number) ∈ votes field fragments := List.mem_map.mpr ⟨_, known, rfl⟩
      have decides : Decides (authority ranking) (votes field fragments) last.number := by
        rw [contested_iff] at contested
        exact ⟨List.ne_nil_of_mem heard, .inl (agreed_of_not_disputed contested heard)⟩
      simp only [spoken, List.concat_eq_append, List.getLast?_concat, Option.map_some, Option.some.injEq]
      constructor
      · intro same
        exact same ▸ decides
      · intro decided
        exact decides.unique decided

end

end ArgosCore.Proofs
