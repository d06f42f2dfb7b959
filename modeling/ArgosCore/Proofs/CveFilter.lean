import ArgosCore.Proofs.VulnerabilityDedup

/-! Which identifiers pass the filter. The pattern reads the decimal digits of every script, and
lets a newline follow, so one vulnerability has identifiers besides its own. -/

namespace ArgosCore.Proofs

/-- The text is `CVE-`, a year of four characters, a hyphen, a number of at least four, and a rest. -/
structure Spells (text : String) (year number rest : List Char) : Prop where
  parts : text.toList = "CVE-".toList ++ (year ++ '-' :: (number ++ rest))
  fourDigits : year.length = 4
  fourOrMore : 4 ≤ number.length

/-- The grammar of CVE identifiers, with the digits of ASCII and nothing behind them. -/
def CveGrammar (text : String) : Prop :=
  ∃ year number, Spells text year number [] ∧ ∀ c ∈ year ++ number, Char.isDigit c = true

structure PatternReads (text : String) (year number rest : List Char) : Prop where
  spelled : Spells text year number rest
  digits : ∀ c ∈ year ++ number, isDecimal c = true
  ended : rest = [] ∨ rest = ['\n']

/-- An identifier but for a newline behind it or a digit of another script. -/
def Variant (text : String) : Prop :=
  ∃ year number rest, PatternReads text year number rest ∧ (rest = ['\n'] ∨ ∃ c ∈ year ++ number, Char.isDigit c = false)

def digitsOf (text : String) : List Nat := text.toList.filterMap PyText.digit?

theorem matches_cvePattern_iff {text : String} :
    cvePattern.matchesText text = true ↔ ∃ year number rest, PatternReads text year number rest := by
  rw [Pattern.matchesText, cvePattern, List.cons_append, Pattern.matchesFrom_beginning, Pattern.matchesFrom_literal]
  simp only [Pattern.matchesFrom_times, Pattern.matchesFrom_char, Pattern.matchesFrom_ending]
  constructor
  · rintro ⟨_, text, year, _, rfl, yearDigits, four, atMost, _, rfl, number, rest, rfl, numberDigits, enough, _, ended⟩
    refine ⟨year, number, rest, ⟨text, Nat.le_antisymm (atMost 4 rfl) four, enough⟩, ?_, ended⟩
    rw [List.forall_mem_append]
    exact ⟨List.all_eq_true.mp yearDigits, List.all_eq_true.mp numberDigits⟩
  · rintro ⟨year, number, rest, ⟨text, four, enough⟩, digits, ended⟩
    rw [List.forall_mem_append] at digits
    exact ⟨_, text, year, _, rfl, List.all_eq_true.mpr digits.1, four.ge, by simp [four], _, rfl, number, rest, rfl,
      List.all_eq_true.mpr digits.2, enough, by simp, ended⟩

theorem Spells.unique {text : String} {year number rest otherYear otherNumber otherRest : List Char}
    (one : Spells text year number rest) (other : Spells text otherYear otherNumber otherRest) :
    year = otherYear ∧ number ++ rest = otherNumber ++ otherRest := by
  have same := List.append_cancel_left (one.parts.symm.trans other.parts)
  obtain ⟨years, numbers⟩ := List.append_inj same (one.fourDigits.trans other.fourDigits.symm)
  exact ⟨years, List.tail_eq_of_cons_eq numbers⟩

theorem toNat_of_isDigit {c : Char} (ascii : c.isDigit = true) : 48 ≤ c.toNat ∧ c.toNat < 58 := by
  simp only [Char.isDigit, Bool.and_eq_true, decide_eq_true_eq, ge_iff_le] at ascii
  exact ⟨UInt32.le_iff_toNat_le.mp ascii.1, Nat.lt_succ_of_le (UInt32.le_iff_toNat_le.mp ascii.2)⟩

theorem digit?_of_isDigit {c : Char} (ascii : c.isDigit = true) : PyText.digit? c = some (c.toNat - 48) := by
  have bounds := toNat_of_isDigit ascii
  rw [PyText.digit?, PyText.zeros, List.find?_cons_of_pos (by simpa using bounds), Option.map_some]

theorem not_variant_of_grammar {text : String} (grammar : CveGrammar text) : ¬ Variant text := by
  rintro ⟨year, number, rest, reads, deviates⟩
  obtain ⟨plainYear, plainNumber, plain, ascii⟩ := grammar
  obtain ⟨rfl, numbers⟩ := plain.unique reads.spelled
  rw [List.append_nil] at numbers
  rcases deviates with rfl | ⟨c, inside, foreign⟩
  · have newline := ascii '\n' (by simp [numbers])
    cases newline
  · have among : c ∈ plainYear ++ plainNumber := by
      rw [numbers]
      exact (List.sublist_append_left number rest).append_left plainYear |>.subset inside
    rw [ascii c among] at foreign
    cases foreign

theorem grammar_iff {text : String} : CveGrammar text ↔ cvePattern.matchesText text = true ∧ ¬ Variant text := by
  constructor
  · intro grammar
    refine ⟨?_, not_variant_of_grammar grammar⟩
    obtain ⟨year, number, spelled, ascii⟩ := grammar
    refine matches_cvePattern_iff.mpr ⟨year, number, [], spelled, fun c inside => ?_, .inl rfl⟩
    rw [isDecimal, digit?_of_isDigit (ascii c inside), Option.isSome_some]
  · rintro ⟨matched, plain⟩
    obtain ⟨year, number, rest, reads⟩ := matches_cvePattern_iff.mp matched
    have none : rest = [] := reads.ended.resolve_right fun newline => plain ⟨year, number, rest, reads, .inl newline⟩
    subst none
    refine ⟨year, number, reads.spelled, fun c inside => ?_⟩
    by_contra foreign
    exact plain ⟨year, number, [], reads, .inr ⟨c, inside, Bool.eq_false_iff.mpr foreign⟩⟩

theorem digitsOf_spells {text : String} {year number : List Char} (spelled : Spells text year number []) :
    digitsOf text = (year ++ number).filterMap PyText.digit? := by
  have word : "CVE-".toList.filterMap PyText.digit? = [] := by decide
  have hyphen : PyText.digit? '-' = none := by decide
  rw [digitsOf, spelled.parts, List.append_nil, List.filterMap_append, List.filterMap_append, List.filterMap_append, word,
    List.filterMap_cons_none hyphen, List.nil_append]

theorem eq_of_digits {one other : List Char} (first : ∀ c ∈ one, c.isDigit = true) (second : ∀ c ∈ other, c.isDigit = true)
    (same : one.filterMap PyText.digit? = other.filterMap PyText.digit?) : one = other := by
  have written (digits : List Char) (ascii : ∀ c ∈ digits, c.isDigit = true) :
      (digits.filterMap PyText.digit?).map (fun value => Char.ofNat (value + 48)) = digits := by
    induction digits with
    | nil => rfl
    | cons c digits ih =>
      obtain ⟨here, rest⟩ := List.forall_mem_cons.mp ascii
      have bounds := toNat_of_isDigit here
      rw [List.filterMap_cons_some (digit?_of_isDigit here), List.map_cons, ih rest, Nat.sub_add_cancel bounds.1,
        Char.ofNat_toNat]
  rw [← written one first, ← written other second, same]

theorem eq_of_digitsOf {one other : String} (first : CveGrammar one) (second : CveGrammar other)
    (same : digitsOf one = digitsOf other) : one = other := by
  obtain ⟨year, number, spelled, ascii⟩ := first
  obtain ⟨otherYear, otherNumber, otherSpelled, otherAscii⟩ := second
  rw [digitsOf_spells spelled, digitsOf_spells otherSpelled] at same
  obtain ⟨rfl, rfl⟩ := List.append_inj (eq_of_digits ascii otherAscii same)
    (spelled.fourDigits.trans otherSpelled.fourDigits.symm)
  exact String.toList_inj.mp (spelled.parts.trans otherSpelled.parts.symm)

theorem required_recognized (members : Json.Object) (key cveId : String) :
    required members key ≠ .error (.unrecognizedCveId cveId) := by
  rw [required, Json.item]
  split <;> simp

theorem hashed_recognized (value : Json) (cveId : String) : hashed value ≠ .error (.unrecognizedCveId cveId) := by
  rw [hashed]
  split <;> simp

section
variable [Floats] [Runtime]

def PassesFilter (cveId : String) : Prop :=
  ∀ (adapter : VulnerabilityAdapter) (call : FindingCall),
    call.raw.members.lookup "VulnerabilityID" = some (.str cveId) →
      (adapter.normalizeTrivyFinding call).1 ≠ .error (.unrecognizedCveId cveId)

omit [Runtime] in
theorem dedupKey_of_unmatched {raw : RawFinding} {cveId : String}
    (named : raw.members.lookup "VulnerabilityID" = some (.str cveId)) (unmatched : cvePattern.matchesText cveId = false) :
    raw.dedupKey = .error (.unrecognizedCveId cveId) := by
  rw [RawFinding.dedupKey, required, Json.item, named]
  change (checkCveId (.str cveId) >>= _) = _
  rw [checkCveId, if_neg (by simp [unmatched])]
  rfl

omit [Runtime] in
theorem dedupKey_of_matched {raw : RawFinding} {cveId : String}
    (named : raw.members.lookup "VulnerabilityID" = some (.str cveId)) (matched : cvePattern.matchesText cveId = true) :
    raw.dedupKey ≠ .error (.unrecognizedCveId cveId) := by
  intro raised
  rw [RawFinding.dedupKey, required, Json.item, named] at raised
  change (checkCveId (.str cveId) >>= _) = _ at raised
  rw [checkCveId, if_pos matched] at raised
  simp [Fallible.bind_error_iff, required_recognized, hashed_recognized, pure, Except.pure] at raised

omit [Runtime] in
theorem toFloat_recognized (measure : Measure) (cveId : String) :
    measure.toFloat ≠ .error (.unrecognizedCveId cveId) := by
  cases measure with
  | float value => simp [Measure.toFloat]
  | other value =>
    cases value with
    | bool value => cases found : Floats.ofInt (if value then 1 else 0) <;> simp [Measure.toFloat, found]
    | int value => cases found : Floats.ofInt value <;> simp [Measure.toFloat, found]
    | str text => cases found : Floats.ofText text <;> simp [Measure.toFloat, found]
    | _ => simp [Measure.toFloat]

theorem finding_recognized (raw : RawFinding) (context : EnvelopeContext) (draw : Draw) (cveId : String) :
    raw.finding context draw ≠ .error (.unrecognizedCveId cveId) := by
  intro raised
  rw [RawFinding.finding] at raised
  rcases Fallible.bind_error_iff.mp raised with unread | ⟨_, _, returned⟩
  · rw [RawFinding.epssFloat] at unread
    split at unread
    next => cases unread
    next measure _ =>
      cases converted : measure.toFloat with
      | ok value =>
        rw [converted] at unread
        cases unread
      | error error =>
        rw [converted] at unread
        cases unread
        exact toFloat_recognized measure cveId converted
  · cases returned

theorem passesFilter_iff {cveId : String} : PassesFilter cveId ↔ cvePattern.matchesText cveId = true := by
  constructor
  · intro passes
    by_contra unmatched
    let call : FindingCall := ⟨⟨[("VulnerabilityID", .str cveId)], none⟩, fun _ => .ok [], ⟨0, 0⟩⟩
    refine passes ⟨⟨"", "", "", none, ""⟩, ∅⟩ call (by simp [call]) ?_
    rw [VulnerabilityAdapter.normalizeTrivyFinding, dedupKey_of_unmatched (by simp [call]) (Bool.eq_false_iff.mpr unmatched)]
  · intro matched adapter call named
    rw [VulnerabilityAdapter.normalizeTrivyFinding]
    split
    next error raised =>
      rw [ne_eq, Except.error.injEq]
      rintro rfl
      exact dedupKey_of_matched named matched raised
    next key _ =>
      split_ifs
      · simp
      · split
        next error raised =>
          rw [ne_eq, Except.error.injEq]
          rintro rfl
          exact finding_recognized _ _ _ _ raised
        next finding _ =>
          split
          · simp
          · split_ifs <;> simp

structure FilterExact (one other : String) : Prop where
  first : PassesFilter one ↔ CveGrammar one
  second : PassesFilter other ↔ CveGrammar other
  unique : PassesFilter one → PassesFilter other → digitsOf one = digitsOf other → one = other

theorem passes_grammar_iff {cveId : String} : (PassesFilter cveId ↔ CveGrammar cveId) ↔ ¬ Variant cveId := by
  rw [passesFilter_iff, grammar_iff]
  constructor
  · intro same variant
    have matched : cvePattern.matchesText cveId = true := by
      obtain ⟨year, number, rest, reads, _⟩ := variant
      exact matches_cvePattern_iff.mpr ⟨year, number, rest, reads⟩
    exact (same.mp matched).2 variant
  · intro plain
    exact ⟨fun matched => ⟨matched, plain⟩, And.left⟩

/-- The filter is exact on identifiers that are not variants, and on no others. -/
theorem cve_filter_exact_iff (one other : String) : FilterExact one other ↔ ¬ Variant one ∧ ¬ Variant other := by
  rw [← passes_grammar_iff, ← passes_grammar_iff]
  constructor
  · intro exact
    exact ⟨exact.first, exact.second⟩
  · intro ⟨first, second⟩
    exact ⟨first, second, fun passes also => eq_of_digitsOf (first.mp passes) (second.mp also)⟩

structure SecondIdentifier (variant plain : String) : Prop where
  passes : PassesFilter variant
  plainPasses : PassesFilter plain
  ungrammatical : ¬ CveGrammar variant
  inexact : ¬ FilterExact variant plain

theorem second_identifier {variant plain : String} (grammar : CveGrammar plain)
    (matched : cvePattern.matchesText variant = true) (same : digitsOf variant = digitsOf plain)
    (different : variant ≠ plain) : SecondIdentifier variant plain := by
  have passes : PassesFilter variant := passesFilter_iff.mpr matched
  have plainPasses : PassesFilter plain := passesFilter_iff.mpr (grammar_iff.mp grammar).1
  refine ⟨passes, plainPasses, ?_, ?_⟩
  · intro also
    exact different (eq_of_digitsOf also grammar same)
  · intro exact
    exact different (exact.unique passes plainPasses same)

end

@[reducible] def wholeFloats : Floats where
  Float := Int
  ofInt := some
  ofText := PyText.int?
  dumps value := toString value ++ ".0"

/-- A newline, or digits of another script, and the same vulnerability has a second identifier. -/
theorem variants_pass_filter :
    letI := wholeFloats
    letI := Runtime.transparent
    (digitsOf "CVE-2024-1234\n" = digitsOf "CVE-2024-1234" ∧ SecondIdentifier "CVE-2024-1234\n" "CVE-2024-1234") ∧
      digitsOf "CVE-2024-１２３４" = digitsOf "CVE-2024-1234" ∧ SecondIdentifier "CVE-2024-１２３４" "CVE-2024-1234" := by
  let _ := wholeFloats
  let _ := Runtime.transparent
  have grammar : CveGrammar "CVE-2024-1234" :=
    ⟨['2', '0', '2', '4'], ['1', '2', '3', '4'], ⟨rfl, rfl, by decide⟩, List.all_eq_true.mp rfl⟩
  have newline : digitsOf "CVE-2024-1234\n" = digitsOf "CVE-2024-1234" := by decide
  have fullWidth : digitsOf "CVE-2024-１２３４" = digitsOf "CVE-2024-1234" := by decide
  exact ⟨⟨newline, second_identifier grammar (by decide) newline (by decide)⟩,
    fullWidth, second_identifier grammar (by decide) fullWidth (by decide)⟩

end ArgosCore.Proofs
