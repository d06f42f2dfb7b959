import ArgosCore.Foundations.Admission
import ArgosCore.Foundations.Fallible
import ArgosCore.VulnerabilityAdapter

/-! The deduplication of vulnerabilities as a point of admission. A key is remembered with the
finding that is returned, after everything that can raise, so nothing else is remembered. -/

namespace ArgosCore.Proofs

theorem required_ok_iff {members : Json.Object} {key : String} {value : Json} :
    required members key = .ok value ↔ members.lookup key = some value := by
  rw [required, Json.item]
  cases members.lookup key <;> simp

theorem checkCveId_ok_iff {value : Json} {cveId : String} :
    checkCveId value = .ok cveId ↔ value = .str cveId ∧ cvePattern.matchesText cveId = true := by
  cases value with
  | str text =>
    rw [checkCveId]
    split_ifs with formed
    · constructor
      · rintro ⟨⟩
        exact ⟨rfl, formed⟩
      · rintro ⟨⟨⟩, _⟩
        rfl
    · simp only [false_iff, not_and, Json.str.injEq]
      rintro rfl
      exact formed
  | _ => simp [checkCveId]

theorem hashed_ok_iff {value : Json} {scalar : Scalar} :
    hashed value = .ok scalar ↔ ∃ member, Scalar.ofJson? value = some member ∧ member.number = scalar := by
  rw [hashed]
  cases Scalar.ofJson? value <;> simp

private theorem known_iff {seen : Finset DedupKey} {identified : Except FindingError DedupKey} :
    identified.toOption ∈ some '' (seen : Set DedupKey) ↔ ∃ key ∈ seen, identified = .ok key := by
  cases identified <;> simp [Except.toOption]

section
variable [Floats]

/-- `(asset_id, cve_id, package)` of a finding. -/
def findingKey (finding : VulnerabilityFinding) : Option DedupKey := do
  let .str cveId ← finding.members.lookup "cve_id" | none
  let assetId ← Scalar.ofJson? (← finding.members.lookup "asset_id")
  let package ← Scalar.ofJson? (← finding.members.lookup "package")
  return ⟨assetId.number, cveId, package.number⟩

theorem dedupKey_ok {raw : RawFinding} {key : DedupKey} (identified : raw.dedupKey = .ok key) :
    ∃ assetId package, raw.members.lookup "VulnerabilityID" = some (.str key.cveId) ∧
      raw.members.lookup "asset_id" = some assetId ∧ raw.members.lookup "PkgName" = some package ∧
      hashed assetId = .ok key.assetId ∧ hashed package = .ok key.package := by
  rw [RawFinding.dedupKey] at identified
  simp only [Fallible.bind_ok_iff, required_ok_iff, checkCveId_ok_iff] at identified
  obtain ⟨_, found, cveId, ⟨rfl, _⟩, assetId, asset, package, named, _, first, _, second, returned⟩ := identified
  cases returned
  exact ⟨assetId, package, found, asset, named, first, second⟩

theorem lookup_payload (raw : RawFinding) (findingId : String) :
    (raw.payload findingId).reverse.lookup "asset_id" = some (Json.get raw.members "asset_id") ∧
      (raw.payload findingId).reverse.lookup "cve_id" = some (Json.get raw.members "VulnerabilityID") ∧
      (raw.payload findingId).reverse.lookup "package" = some (Json.get raw.members "PkgName") := by
  rw [RawFinding.payload]
  split_ifs <;> cases raw.members.lookup "kev" <;> exact ⟨rfl, rfl, rfl⟩

variable [Runtime]

theorem findingKey_finding {raw : RawFinding} {context : EnvelopeContext} {draw : Draw} {finding : VulnerabilityFinding}
    {key : DedupKey} (identified : raw.dedupKey = .ok key) (built : raw.finding context draw = .ok finding) :
    findingKey finding = some key := by
  obtain ⟨assetId, package, cve, asset, named, first, second⟩ := dedupKey_ok identified
  obtain ⟨assetScalar, assetKnown, assetSame⟩ := hashed_ok_iff.mp first
  obtain ⟨packageScalar, packageKnown, packageSame⟩ := hashed_ok_iff.mp second
  rw [RawFinding.finding, Fallible.bind_ok_iff] at built
  obtain ⟨epss, _, returned⟩ := built
  obtain ⟨assetKept, cveKept, packageKept⟩ := lookup_payload raw (newIdPrefixed "vf" draw.uuid)
  cases returned
  simp only [findingKey, Dict.lookup_setAll, assetKept, cveKept, packageKept, Option.some_or, Json.get, Json.getOr, cve, asset,
    named, Option.getD_some, Option.bind_eq_bind, Option.bind_some, assetKnown, packageKnown, assetSame, packageSame]
  rfl

inductive Normalized (adapter : VulnerabilityAdapter) (call : FindingCall) :
    Except FindingError (Option VulnerabilityFinding) × VulnerabilityAdapter → Prop where
  | duplicate (key : DedupKey) (identified : call.raw.dedupKey = .ok key) (taken : key ∈ adapter.seen) :
      Normalized adapter call (.ok none, adapter)
  | returned (key : DedupKey) (identified : call.raw.dedupKey = .ok key) (free : key ∉ adapter.seen)
      (finding : VulnerabilityFinding) (own : findingKey finding = some key) :
      Normalized adapter call (.ok (some finding), { adapter with seen := insert key adapter.seen })
  | raised (free : ∀ key, call.raw.dedupKey = .ok key → key ∉ adapter.seen) (error : FindingError) :
      Normalized adapter call (.error error, adapter)

theorem normalize_spec (adapter : VulnerabilityAdapter) (call : FindingCall) :
    Normalized adapter call (adapter.normalizeTrivyFinding call) := by
  rw [VulnerabilityAdapter.normalizeTrivyFinding]
  split
  next error unidentified =>
    refine .raised (fun key identified => ?_) error
    rw [unidentified] at identified
    cases identified
  next key identified =>
    by_cases taken : key ∈ adapter.seen
    · rw [if_pos taken]
      exact .duplicate key identified taken
    · have free (other : DedupKey) (same : call.raw.dedupKey = .ok other) : other ∉ adapter.seen := by
        rw [identified] at same
        cases same
        exact taken
      rw [if_neg taken]
      split
      next error _ => exact .raised free error
      next finding built =>
        split
        next message _ => exact .raised free _
        next errors _ =>
          split_ifs
          · exact .raised free _
          · exact .returned key identified taken finding (findingKey_finding identified built)

theorem normalize_of_free {adapter : VulnerabilityAdapter} {call : FindingCall}
    (free : ∀ key, call.raw.dedupKey = .ok key → key ∉ adapter.seen) :
    (adapter.normalizeTrivyFinding call).1 =
      (VulnerabilityAdapter.normalizeTrivyFinding { context := adapter.context } call).1 := by
  rw [VulnerabilityAdapter.normalizeTrivyFinding, VulnerabilityAdapter.normalizeTrivyFinding]
  cases identified : call.raw.dedupKey with
  | error => rfl
  | ok key =>
    simp only [free key identified, if_false, Finset.notMem_empty]
    cases call.raw.finding adapter.context call.draw with
    | error => rfl
    | ok finding =>
      simp only
      cases call.validatePayload finding with
      | error => rfl
      | ok errors =>
        simp only
        split_ifs <;> rfl

theorem normalize_returns_iff {adapter : VulnerabilityAdapter} {call : FindingCall} {finding : VulnerabilityFinding} :
    (adapter.normalizeTrivyFinding call).1 = .ok (some finding) ↔
      (∃ key, call.raw.dedupKey = .ok key ∧ key ∉ adapter.seen) ∧
        call.raw.finding adapter.context call.draw = .ok finding ∧ call.validatePayload finding = .ok [] := by
  rw [VulnerabilityAdapter.normalizeTrivyFinding]
  cases identified : call.raw.dedupKey with
  | error => simp
  | ok key =>
    by_cases taken : key ∈ adapter.seen
    · simp [taken]
    · simp only [taken, if_false, Except.ok.injEq, exists_eq_left', not_false_eq_true, true_and]
      cases built : call.raw.finding adapter.context call.draw with
      | error => simp
      | ok document =>
        simp only [Except.ok.injEq]
        cases validated : call.validatePayload document with
        | error =>
          simp only [reduceCtorEq, false_iff, not_and]
          rintro rfl
          simp [validated]
        | ok errors =>
          by_cases accepted : errors = []
          · simp only [accepted, ne_eq, not_true_eq_false, if_false, Except.ok.injEq, Option.some.injEq]
            constructor
            · rintro rfl
              exact ⟨rfl, accepted ▸ validated⟩
            · exact And.left
          · simp only [ne_eq, accepted, not_false_eq_true, if_true, reduceCtorEq, false_iff, not_and]
            rintro rfl
            simp [validated, accepted]

theorem normalize_context (adapter : VulnerabilityAdapter) (call : FindingCall) :
    (adapter.normalizeTrivyFinding call).2.context = adapter.context := by
  have cases := normalize_spec adapter call
  generalize adapter.normalizeTrivyFinding call = outcome at cases
  cases cases <;> rfl

/-- A finding is let in when it is returned, and refused when nothing is. A call that does not
name a finding has no key. -/
def findings : Admission VulnerabilityAdapter FindingCall (Except FindingError (Option VulnerabilityFinding))
    (Option DedupKey) where
  step := VulnerabilityAdapter.normalizeTrivyFinding
  key call := call.raw.dedupKey.toOption
  remembered adapter := some '' adapter.seen
  admits outcome := ∃ finding, outcome = .ok (some finding)
  refuses outcome := outcome = .ok none

theorem findings_lawful : findings.Lawful := by
  constructor
  · intro adapter call
    have cases := normalize_spec adapter call
    simp only [Admission.answer, findings, known_iff]
    generalize adapter.normalizeTrivyFinding call = outcome at cases
    cases cases with
    | duplicate key identified taken => exact iff_of_true rfl ⟨key, taken, identified⟩
    | returned key identified free =>
      refine iff_of_false (by simp) ?_
      rintro ⟨other, taken, same⟩
      rw [identified] at same
      cases same
      exact free taken
    | raised free =>
      refine iff_of_false (by simp) ?_
      rintro ⟨key, taken, identified⟩
      exact free key identified taken
  · intro adapter call
    have cases := normalize_spec adapter call
    simp only [Admission.answer, findings, known_iff]
    generalize adapter.normalizeTrivyFinding call = outcome at cases
    cases cases with
    | duplicate => simp
    | returned key identified free => simp [identified, free]
    | raised => simp

theorem findings_remember (adapter : VulnerabilityAdapter) (call : FindingCall) : findings.Remembers adapter call := by
  have cases := normalize_spec adapter call
  simp only [Admission.Remembers, Admission.next, Admission.answer, findings]
  generalize adapter.normalizeTrivyFinding call = outcome at cases
  cases cases with
  | duplicate => simp
  | returned key identified =>
    intro other
    simp [identified, Except.toOption, or_comm, eq_comm]
  | raised => simp

def adapterAfter (context : EnvelopeContext) (calls : List FindingCall) : VulnerabilityAdapter :=
  findings.final { context } calls

theorem adapterAfter_context (context : EnvelopeContext) (calls : List FindingCall) :
    (adapterAfter context calls).context = context := by
  induction calls using List.reverseRecOn with
  | nil => rfl
  | append_singleton calls call ih =>
    rw [adapterAfter, Admission.final_concat]
    exact (normalize_context _ call).trans ih

def returned (context : EnvelopeContext) (calls : List FindingCall) : List VulnerabilityFinding :=
  (findings.history { context } calls).filterMap fun entry => entry.2.toOption.join

theorem findingKey_of_returned {adapter : VulnerabilityAdapter} {call : FindingCall} {finding : VulnerabilityFinding}
    (done : findings.answer adapter call = .ok (some finding)) :
    ∃ key, findingKey finding = some key ∧ call.raw.dedupKey = .ok key := by
  have cases := normalize_spec adapter call
  simp only [Admission.answer, findings] at done
  generalize adapter.normalizeTrivyFinding call = outcome at cases done
  cases cases with
  | duplicate => cases done
  | returned key identified free finding own =>
    cases done
    exact ⟨key, own, identified⟩
  | raised => cases done

theorem mem_returned {context : EnvelopeContext} {calls : List FindingCall} {finding : VulnerabilityFinding} :
    finding ∈ returned context calls ↔ ∃ entry ∈ findings.history { context } calls, entry.2 = .ok (some finding) := by
  rw [returned, List.mem_filterMap]
  refine exists_congr fun entry => and_congr_right fun _ => ?_
  cases entry.2 <;> simp [Except.toOption]

theorem admitted_iff_returned {context : EnvelopeContext} {calls : List FindingCall} {key : Option DedupKey} :
    findings.Admitted (findings.history { context } calls) key ↔
      ∃ finding ∈ returned context calls, findingKey finding = key := by
  have own (entry : FindingCall × Except FindingError (Option VulnerabilityFinding))
      (inside : entry ∈ findings.history { context } calls) (finding : VulnerabilityFinding)
      (done : entry.2 = .ok (some finding)) : findings.key entry.1 = findingKey finding := by
    obtain ⟨earlier, same⟩ := Admission.answer_of_mem_history findings inside
    obtain ⟨key, known, identified⟩ := findingKey_of_returned (same.symm.trans done)
    rw [known]
    exact congrArg Except.toOption identified
  constructor
  · rintro ⟨entry, inside, rfl, finding, done⟩
    exact ⟨finding, mem_returned.mpr ⟨entry, inside, done⟩, (own entry inside finding done).symm⟩
  · rintro ⟨finding, found, rfl⟩
    obtain ⟨entry, inside, done⟩ := mem_returned.mp found
    exact ⟨entry, inside, own entry inside finding done, finding, done⟩

theorem returned_concat (context : EnvelopeContext) (calls : List FindingCall) (call : FindingCall) :
    returned context (calls ++ [call]) =
      returned context calls ++ (findings.answer (adapterAfter context calls) call).toOption.join.toList := by
  rw [returned, Admission.history_concat, List.filterMap_append, returned, adapterAfter]
  congr 1

theorem remembered_iff_returned {context : EnvelopeContext} {calls : List FindingCall} {key : Option DedupKey} :
    key ∈ findings.remembered (adapterAfter context calls) ↔ ∃ finding ∈ returned context calls, findingKey finding = key := by
  rw [← admitted_iff_returned]
  exact Admission.remembered_of_remembers (by simp [findings]) (fun _ _ _ _ => findings_remember _ _) key

theorem nodup_returned (context : EnvelopeContext) (calls : List FindingCall) :
    ((returned context calls).map findingKey).Nodup := by
  induction calls using List.reverseRecOn with
  | nil => exact List.nodup_nil
  | append_singleton calls call ih =>
    rw [returned_concat, List.map_append]
    rcases done : (findings.answer (adapterAfter context calls) call).toOption.join with _ | finding
    · simpa using ih
    · have answered : findings.answer (adapterAfter context calls) call = .ok (some finding) := by
        cases outcome : findings.answer (adapterAfter context calls) call <;> simp_all [Except.toOption]
      obtain ⟨key, known, identified⟩ := findingKey_of_returned answered
      have fresh := findings_lawful.fresh _ call ⟨finding, answered⟩
      have same : findings.key call = findingKey finding := by
        rw [known]
        exact congrArg Except.toOption identified
      rw [same, remembered_iff_returned] at fresh
      refine List.nodup_append.mpr ⟨ih, List.nodup_singleton _, ?_⟩
      intro one inside other also
      obtain ⟨earlier, found, rfl⟩ := List.mem_map.mp inside
      rw [List.mem_singleton.mp also]
      exact fun repeated => fresh ⟨earlier, found, repeated⟩

structure DedupExact (context : EnvelopeContext) (calls : List FindingCall) : Prop where
  seen : ∀ key, key ∈ (adapterAfter context calls).seen ↔ ∃ finding ∈ returned context calls, findingKey finding = some key
  keyed : ∀ finding ∈ returned context calls, (findingKey finding).isSome
  once : ((returned context calls).map findingKey).Nodup
  duplicate : ∀ call, ((adapterAfter context calls).normalizeTrivyFinding call).1 = .ok none ↔
    ∃ finding ∈ returned context calls, findingKey finding = call.raw.dedupKey.toOption
  unaffected : ∀ call, (¬ ∃ finding ∈ returned context calls, findingKey finding = call.raw.dedupKey.toOption) →
    ((adapterAfter context calls).normalizeTrivyFinding call).1 =
      (VulnerabilityAdapter.normalizeTrivyFinding { context } call).1
  returns : ∀ call finding, ((adapterAfter context calls).normalizeTrivyFinding call).1 = .ok (some finding) ↔
    (∃ key, call.raw.dedupKey = .ok key ∧ ¬ ∃ earlier ∈ returned context calls, findingKey earlier = some key) ∧
      call.raw.finding context call.draw = .ok finding ∧ call.validatePayload finding = .ok []

theorem seen_iff_returned {context : EnvelopeContext} {calls : List FindingCall} {key : DedupKey} :
    key ∈ (adapterAfter context calls).seen ↔ ∃ finding ∈ returned context calls, findingKey finding = some key := by
  rw [← remembered_iff_returned]
  simp [findings]

theorem vulnerability_dedup_exact (context : EnvelopeContext) (calls : List FindingCall) : DedupExact context calls := by
  constructor
  · exact fun key => seen_iff_returned
  · intro finding found
    obtain ⟨entry, inside, done⟩ := mem_returned.mp found
    obtain ⟨earlier, same⟩ := Admission.answer_of_mem_history findings inside
    obtain ⟨key, known, _⟩ := findingKey_of_returned (same.symm.trans done)
    rw [known, Option.isSome_some]
  · exact nodup_returned context calls
  · intro call
    rw [← remembered_iff_returned]
    exact findings_lawful.refuses_iff (adapterAfter context calls) call
  · intro call unreturned
    rw [normalize_of_free, adapterAfter_context]
    intro key identified taken
    rw [identified] at unreturned
    exact unreturned (seen_iff_returned.mp taken)
  · intro call finding
    rw [normalize_returns_iff, adapterAfter_context]
    simp only [seen_iff_returned]

end

end ArgosCore.Proofs
