import Mathlib.Data.List.Sort
import Mathlib.Tactic.NormNum
import ArgosCore.Foundations.Fallible
import ArgosCore.RiskEngine

/-! The ranking against the facts that explain it. What is at least as bad in every fact never
scores lower, and comes first if it came first. -/

namespace ArgosCore.Proofs

theorem pairwise_insertionSort_of_mem {α : Type} {r : α → α → Prop} [DecidableRel r] {p : α → Prop} {items : List α}
    (total : ∀ left right, p left → p right → r left right ∨ r right left)
    (trans : ∀ one two three, p one → p two → p three → r one two → r two three → r one three)
    (all : ∀ item ∈ items, p item) : (items.insertionSort r).Pairwise r := by
  let among (left right : { item // p item }) : Prop := r left.1 right.1
  have _ : DecidableRel among := fun left right => inferInstanceAs (Decidable (r left.1 right.1))
  have _ : Std.Total among := ⟨fun left right => total left.1 right.1 left.2 right.2⟩
  have _ : IsTrans _ among := ⟨fun one two three => trans one.1 two.1 three.1 one.2 two.2 three.2⟩
  have same : items.insertionSort r = ((items.attachWith p all).insertionSort among).map Subtype.val := by
    have seen := List.map_insertionSort among r Subtype.val (items.attachWith p all) fun _ _ _ _ => Iff.rfl
    rw [seen, List.attachWith_map_subtype_val]
  rw [same, List.pairwise_map]
  exact List.pairwise_insertionSort among _

section
variable [RiskFloats]

def NotAbove (first second : Floats.Float) : Prop := RiskFloats.lt second first = false

instance (first second : Floats.Float) : Decidable (NotAbove first second) := inferInstanceAs (Decidable (_ = _))

def riskFactors : List Rat := [1 / 2, 1, 2, 3, 4]

/-- `_KEV_MULTIPLIER if kev else 1.0` -/
def kevFactor (kev : Bool) : Rat := if kev then kevMultiplier else 1

/-- `_FIX_AVAILABLE_DISCOUNT if fix_available else 1.0` -/
def fixFactor (fixAvailable : Bool) : Rat := if fixAvailable then fixAvailableDiscount else 1

/-- What the engine relies on among numbers that are none of those without an order: they are
compared as numbers, and a product with a literal does not turn their order round. -/
structure RiskArithmetic (Amount : Floats.Float → Prop) : Prop where
  zero : Amount (RiskFloats.literal 0)
  total : ∀ first second, Amount first → Amount second → NotAbove first second ∨ NotAbove second first
  trans : ∀ first second third, Amount first → Amount second → Amount third →
    NotAbove first second → NotAbove second third → NotAbove first third
  product : ∀ amount, Amount amount → ∀ factor ∈ riskFactors, Amount (RiskFloats.mul amount (RiskFloats.literal factor))
  monotone : ∀ first second, Amount first → Amount second → NotAbove first second →
    ∀ lower ∈ riskFactors, ∀ higher ∈ riskFactors, lower ≤ higher →
      NotAbove (RiskFloats.mul first (RiskFloats.literal lower)) (RiskFloats.mul second (RiskFloats.literal higher))

/-- `finding.get("epss", 0.0)` -/
def epssOf (finding : VulnerabilityFinding) : Floats.Float := finding.epss.getD (RiskFloats.literal 0)

def criticalityIn (assetsById : Dict Json.Object) (finding : VulnerabilityFinding) : Json :=
  match assetOfFinding assetsById finding with
  | .ok asset => (assetCriticality asset).1
  | .error _ => .null

structure AtLeastAsBad (assetsById : Dict Json.Object) (one other : VulnerabilityFinding) : Prop where
  epss : NotAbove (epssOf other) (epssOf one)
  kev : (Json.get other.members "kev").truthy = true → (Json.get one.members "kev").truthy = true
  criticality : criticalityWeight (criticalityIn assetsById other) ≤ criticalityWeight (criticalityIn assetsById one)
  fixAvailable : (Json.get one.members "fix_available").truthy = true → (Json.get other.members "fix_available").truthy = true

structure Explained (assetsById : Dict Json.Object) (finding : VulnerabilityFinding) (score : RiskScore) : Prop where
  epss : score.explanation.epss = epssOf finding
  kev : score.explanation.kev = (Json.get finding.members "kev").truthy
  criticality : score.explanation.assetCriticality = criticalityIn assetsById finding
  fixAvailable : score.explanation.fixAvailable = (Json.get finding.members "fix_available").truthy
  multiplier : score.explanation.kevMultiplier = RiskFloats.literal (kevFactor score.explanation.kev)
  weight : score.explanation.criticalityWeight = RiskFloats.literal (criticalityWeight score.explanation.assetCriticality)
  fix : score.explanation.fixFactor = RiskFloats.literal (fixFactor score.explanation.fixAvailable)
  product : score.score = RiskFloats.mul (RiskFloats.mul (RiskFloats.mul score.explanation.epss
    score.explanation.kevMultiplier) score.explanation.criticalityWeight) score.explanation.fixFactor

theorem scoreIn_ok {assetsById : Dict Json.Object} {finding : VulnerabilityFinding} {score : RiskScore}
    (returned : scoreIn assetsById finding = .ok score) : Explained assetsById finding score := by
  obtain ⟨asset, found, scored⟩ := Fallible.bind_ok_iff.mp returned
  have read : criticalityIn assetsById finding = (assetCriticality asset).1 := by rw [criticalityIn, found]
  cases unhashable : (Scalar.ofJson? (assetCriticality asset).1).isNone with
  | true => simp [scoreFinding, unhashable] at scored
  | false =>
    simp only [scoreFinding, unhashable, Bool.false_eq_true, if_false, Except.ok.injEq] at scored
    subst scored
    exact ⟨rfl, rfl, read.symm, rfl, rfl, rfl, rfl, rfl⟩

theorem Explained.score_eq {assetsById : Dict Json.Object} {finding : VulnerabilityFinding} {score : RiskScore}
    (explained : Explained assetsById finding score) :
    score.score = RiskFloats.mul (RiskFloats.mul (RiskFloats.mul (epssOf finding)
      (RiskFloats.literal (kevFactor (Json.get finding.members "kev").truthy)))
      (RiskFloats.literal (criticalityWeight (criticalityIn assetsById finding))))
      (RiskFloats.literal (fixFactor (Json.get finding.members "fix_available").truthy)) := by
  rw [explained.product, explained.multiplier, explained.weight, explained.fix, explained.epss, explained.kev,
    explained.criticality, explained.fixAvailable]

omit [RiskFloats] in
theorem criticalityWeight_mem (criticality : Json) : criticalityWeight criticality ∈ riskFactors := by
  cases criticality with
  | str level =>
    rw [criticalityWeight]
    cases found : criticalityWeights.lookup level with
    | none => simp [unknownCriticalityWeight, riskFactors]
    | some weight =>
      have among := Dict.mem_of_lookup found
      simp only [criticalityWeights, List.mem_cons, Prod.mk.injEq, List.not_mem_nil, or_false] at among
      rcases among with ⟨_, rfl⟩ | ⟨_, rfl⟩ | ⟨_, rfl⟩ | ⟨_, rfl⟩ <;> simp [riskFactors]
  | _ => simp [criticalityWeight, unknownCriticalityWeight, riskFactors]

omit [RiskFloats] in
theorem kevFactor_mem (kev : Bool) : kevFactor kev ∈ riskFactors := by
  cases kev <;> simp [kevFactor, kevMultiplier, riskFactors]

omit [RiskFloats] in
theorem fixFactor_mem (fixAvailable : Bool) : fixFactor fixAvailable ∈ riskFactors := by
  cases fixAvailable <;> simp [fixFactor, fixAvailableDiscount, riskFactors]

section
variable {Amount : Floats.Float → Prop}

theorem RiskArithmetic.score_amount (arithmetic : RiskArithmetic Amount) {assetsById : Dict Json.Object}
    {finding : VulnerabilityFinding} {score : RiskScore} (explained : Explained assetsById finding score)
    (amount : Amount (epssOf finding)) : Amount score.score := by
  rw [explained.score_eq]
  apply arithmetic.product _ _ _ (fixFactor_mem _)
  apply arithmetic.product _ _ _ (criticalityWeight_mem _)
  exact arithmetic.product _ amount _ (kevFactor_mem _)

omit [RiskFloats] in
theorem kevFactor_le {kev other : Bool} (implied : other = true → kev = true) : kevFactor other ≤ kevFactor kev := by
  cases other with
  | true => rw [implied rfl]
  | false => cases kev <;> norm_num [kevFactor, kevMultiplier]

omit [RiskFloats] in
theorem fixFactor_le {fixAvailable other : Bool} (implied : fixAvailable = true → other = true) :
    fixFactor other ≤ fixFactor fixAvailable := by
  cases fixAvailable with
  | true => rw [implied rfl]
  | false => cases other <;> norm_num [fixFactor, fixAvailableDiscount]

theorem RiskArithmetic.score_notAbove (arithmetic : RiskArithmetic Amount) {assetsById : Dict Json.Object}
    {finding finding' : VulnerabilityFinding} {one other : RiskScore} (explained : Explained assetsById finding one)
    (explained' : Explained assetsById finding' other) (amount : Amount (epssOf finding))
    (amount' : Amount (epssOf finding')) (worse : AtLeastAsBad assetsById finding finding') :
    NotAbove other.score one.score := by
  have kevs := arithmetic.product _ amount _ (kevFactor_mem (Json.get finding.members "kev").truthy)
  have kevs' := arithmetic.product _ amount' _ (kevFactor_mem (Json.get finding'.members "kev").truthy)
  have weights := arithmetic.product _ kevs _ (criticalityWeight_mem (criticalityIn assetsById finding))
  have weights' := arithmetic.product _ kevs' _ (criticalityWeight_mem (criticalityIn assetsById finding'))
  rw [explained.score_eq, explained'.score_eq]
  apply arithmetic.monotone _ _ weights' weights _ _ (fixFactor_mem _) _ (fixFactor_mem _) (fixFactor_le worse.fixAvailable)
  apply arithmetic.monotone _ _ kevs' kevs _ _ (criticalityWeight_mem _) _ (criticalityWeight_mem _) worse.criticality
  exact arithmetic.monotone _ _ amount' amount worse.epss _ (kevFactor_mem _) _ (kevFactor_mem _) (kevFactor_le worse.kev)

structure FairRanking (assetsById : Dict Json.Object) (findings : List VulnerabilityFinding) (scored ranked : List RiskScore) :
    Prop where
  everyone : ranked.Perm scored
  explained : List.Forall₂ (Explained assetsById) findings scored
  descending : ranked.Pairwise fun earlier later => NotAbove later.score earlier.score
  dominant : ∀ one ∈ findings.zip scored, ∀ other ∈ findings.zip scored, AtLeastAsBad assetsById one.1 other.1 →
    NotAbove other.2.score one.2.score
  /-- What came first and is at least as bad stays in front. -/
  stable : ∀ one other, [one, other].Sublist (findings.zip scored) → AtLeastAsBad assetsById one.1 other.1 →
    [one.2, other.2].Sublist ranked

theorem risk_ranking (arithmetic : RiskArithmetic Amount) {findings : List VulnerabilityFinding}
    {assetsById : Dict Json.Object} {ranked : List RiskScore} (returned : rankFindings findings assetsById = .ok ranked)
    (amounts : ∀ finding ∈ findings, ∀ epss ∈ finding.epss, Amount epss) :
    ∃ scored, List.Forall₂ (fun finding score => scoreIn assetsById finding = .ok score) findings scored ∧
      FairRanking assetsById findings scored ranked := by
  obtain ⟨scored, done, sorted⟩ := Fallible.bind_ok_iff.mp returned
  obtain rfl := Except.ok.inj sorted
  rw [Fallible.mapM_ok_iff] at done
  have explained : List.Forall₂ (Explained assetsById) findings scored := done.imp fun _ _ => scoreIn_ok
  have amount : ∀ finding ∈ findings, Amount (epssOf finding) := by
    intro finding member
    rw [epssOf]
    cases given : finding.epss with
    | none => exact arithmetic.zero
    | some value => exact amounts finding member value given
  have scores : (findings.zip scored).map Prod.snd = scored := List.map_snd_zip explained.length_eq.ge
  have dominant : ∀ one ∈ findings.zip scored, ∀ other ∈ findings.zip scored, AtLeastAsBad assetsById one.1 other.1 →
      NotAbove other.2.score one.2.score := by
    intro one inside other also
    exact arithmetic.score_notAbove (List.forall₂_zip explained inside) (List.forall₂_zip explained also)
      (amount _ (List.of_mem_zip inside).1) (amount _ (List.of_mem_zip also).1)
  refine ⟨scored, done, ⟨List.perm_insertionSort _ _, explained, ?_, dominant, ?_⟩⟩
  · apply pairwise_insertionSort_of_mem (p := fun score : RiskScore => Amount score.score)
    · intro one two amount amount'
      exact arithmetic.total _ _ amount' amount
    · intro one two three first second third before after
      exact arithmetic.trans _ _ _ third second first after before
    · intro score inside
      rw [← scores] at inside
      obtain ⟨pair, member, rfl⟩ := List.mem_map.mp inside
      exact arithmetic.score_amount (List.forall₂_zip explained member) (amount _ (List.of_mem_zip member).1)
  · intro one other pair worse
    have inOrder := pair.map Prod.snd
    rw [scores] at inOrder
    apply List.pair_sublist_insertionSort _ inOrder
    exact dominant one (pair.subset List.mem_cons_self) other (pair.subset (List.mem_cons_of_mem _ List.mem_cons_self)) worse

end

end

/-- Fractions, for scores that are exact. -/
@[reducible] def exactFloats : RiskFloats where
  Float := Rat
  ofInt value := some value
  ofText text := (PyText.int? text).map fun value => (value : Rat)
  dumps value := toString value
  literal := id
  mul := (· * ·)
  lt left right := left < right

theorem exactFloats_arithmetic : @RiskArithmetic exactFloats fun amount : Rat => 0 ≤ amount := by
  let _ := exactFloats
  have positive : ∀ factor ∈ riskFactors, (0 : Rat) ≤ factor := by norm_num [riskFactors]
  have notAbove (first second : Rat) : @NotAbove exactFloats first second ↔ first ≤ second := by
    change decide (second < first) = false ↔ _
    rw [decide_eq_false_iff_not, not_lt]
  constructor
  · exact le_refl (0 : Rat)
  · intro first second _ _
    rw [notAbove, notAbove]
    exact le_total ..
  · intro first second third _ _ _
    rw [notAbove, notAbove, notAbove]
    exact le_trans
  · intro amount nonneg factor known
    exact mul_nonneg nonneg (positive factor known)
  · intro first second _ nonneg below lower known higher known' less
    rw [notAbove] at below ⊢
    exact mul_le_mul below less (positive lower known) nonneg

private def patched [RiskFloats] : VulnerabilityFinding where
  members := [("finding_id", .str "f2"), ("asset_id", .str "a1"), ("kev", .bool false), ("fix_available", .bool true)]
  epss := some (RiskFloats.literal (9 / 10))

private def exploited [RiskFloats] : VulnerabilityFinding where
  members := [("finding_id", .str "f1"), ("asset_id", .str "a1"), ("kev", .bool true), ("fix_available", .bool false)]
  epss := some (RiskFloats.literal (9 / 10))

/-- The one that is exploited goes in front of the one that is patched. -/
theorem risk_ranking_exploited :
    letI := exactFloats
    let assets : Dict Json.Object := [("a1", [("asset_id", .str "a1"), ("criticality_esp", .str "critical")])]
    ∃ ranked, rankFindings [patched, exploited] assets = .ok ranked ∧
      ranked.map (fun score => score.explanation.kev) = [true, false] ∧
      ∃ scored, List.Forall₂ (fun finding score => scoreIn assets finding = .ok score) [patched, exploited] scored ∧
        FairRanking assets [patched, exploited] scored ranked := by
  let _ := exactFloats
  intro assets
  have likely : (0 : Rat) ≤ 9 / 10 := by norm_num
  have amounts : ∀ finding ∈ [patched, exploited], ∀ epss ∈ finding.epss, (0 : Rat) ≤ epss := by
    intro finding inside epss given
    rcases List.mem_pair.mp inside with rfl | rfl <;> exact Option.some.inj given ▸ likely
  refine ⟨_, rfl, by decide +kernel, risk_ranking exactFloats_arithmetic rfl amounts⟩

end ArgosCore.Proofs
