import ArgosCore.Foundations.Fallible
import ArgosCore.RuleEngineering.RuleCompiler

/-! What the XML of a rule says about its spec: all that the compiler reads, apart from where a
group ends when its name has a comma. -/

namespace ArgosCore.Proofs
open Xml RuleCompiler

/-- The names of a list of groups, as they are separated in the XML. -/
def groupNames (groups : List String) : List (List Char) := groups.flatMap fun group => group.toList.splitOn ','

/-- The same names, and the same groups when no comma is part of one. -/
structure SameGroupNames (one other : List String) : Prop where
  names : groupNames one = groupNames other
  exact : (∀ group ∈ one, ',' ∉ group.toList) → (∀ group ∈ other, ',' ∉ group.toList) → one = other

theorem splitOn_intercalate (group : List Char) (groups : List (List Char)) :
    ([','].intercalate (group :: groups)).splitOn ',' = (group :: groups).flatMap (List.splitOn ',') := by
  induction groups generalizing group with
  | nil => simp
  | cons other groups ih =>
    rw [List.intercalate_cons_cons, List.append_assoc, List.singleton_append, List.splitOn_append_cons_self, ih]
    rfl

theorem splitOn_groupText {groups : List String} (some : groups ≠ []) :
    (String.intercalate "," groups).toList.splitOn ',' = groupNames groups := by
  obtain ⟨group, groups, rfl⟩ := List.exists_cons_of_ne_nil some
  have text : (String.intercalate "," (group :: groups)).toList =
      [','].intercalate ((group :: groups).map String.toList) := by simp
  rw [text, List.map_cons, splitOn_intercalate, ← List.map_cons, List.flatMap_map, groupNames]

theorem intercalate_eq_iff {one other : List String} (first : one ≠ []) (second : other ≠ []) :
    String.intercalate "," one = String.intercalate "," other ↔ groupNames one = groupNames other := by
  rw [← splitOn_groupText first, ← splitOn_groupText second, ← String.toList_inj]
  have separated : Function.Injective (List.splitOn ',') :=
    Function.LeftInverse.injective (g := [','].intercalate) fun _ => List.intercalate_splitOn ','
  exact separated.eq_iff.symm

theorem groupNames_eq_nil {groups : List String} : groupNames groups = [] ↔ groups = [] := by
  cases groups with
  | nil => simp [groupNames]
  | cons group groups => simp [groupNames, List.splitOn_ne_nil]

theorem groupNames_plain {groups : List String} (plain : ∀ group ∈ groups, ',' ∉ group.toList) :
    groupNames groups = groups.map String.toList := by
  rw [groupNames, List.flatMap_congr fun group inside => List.splitOn_eq_singleton (plain group inside)]
  exact List.map_eq_flatMap.symm

theorem sameGroupNames_iff {one other : List String} : SameGroupNames one other ↔ groupNames one = groupNames other := by
  constructor
  · exact SameGroupNames.names
  · intro names
    refine ⟨names, fun first second => ?_⟩
    rw [groupNames_plain first, groupNames_plain second] at names
    exact List.map_injective_iff.mpr (fun _ _ => String.toList_inj.mp) names

section
variable [Runtime]

/-- The same text; a number is then the same number. -/
structure SameSetting (one other : Option Json) : Prop where
  text : one.map strJson = other.map strJson
  number : ∀ value otherValue, one = some (.int value) → other = some (.int otherValue) → value = otherValue

theorem sameSetting_iff {one other : Option Json} : SameSetting one other ↔ one.map strJson = other.map strJson := by
  constructor
  · exact SameSetting.text
  · intro text
    refine ⟨text, ?_⟩
    rintro value otherValue rfl rfl
    exact Json.toString_injective (Option.some.inj text)

structure SameRule (one other : CompiledRule) : Prop where
  severityLevel : strJson one.severityLevel = strJson other.severityLevel
  frequency : SameSetting one.frequency other.frequency
  timeframe : SameSetting one.timeframe other.timeframe
  parentRuleSid : SameSetting one.parentRuleSid other.parentRuleSid
  sameSourceIp : one.sameSourceIp = other.sameSourceIp
  sameUser : one.sameUser = other.sameUser
  description : one.description = other.description
  mitreIds : one.mitreIds = other.mitreIds
  groups : SameGroupNames one.groups other.groups

variable {one other : CompiledRule}

theorem attributes_eq_iff {ruleId : Int} : one.attributes ruleId = other.attributes ruleId ↔
    strJson one.severityLevel = strJson other.severityLevel ∧ SameSetting one.frequency other.frequency ∧
      SameSetting one.timeframe other.timeframe := by
  rw [sameSetting_iff, sameSetting_iff, CompiledRule.attributes, CompiledRule.attributes]
  cases one.frequency <;> cases other.frequency <;> cases one.timeframe <;> cases other.timeframe <;> simp

omit [Runtime] in
theorem flag_eq_iff (tag : Name) {first second : Bool} :
    (if first then [Element.leaf tag [] ""] else []) = (if second then [Element.leaf tag [] ""] else []) ↔
      first = second := by
  cases first <;> cases second <;> simp

theorem setting_eq_iff (tag : Name) {first second : Option Json} :
    (first.map fun value => Element.leaf tag [] (strJson value)).toList =
      (second.map fun value => Element.leaf tag [] (strJson value)).toList ↔ SameSetting first second := by
  rw [sameSetting_iff]
  cases first <;> cases second <;> simp

omit [Runtime] in
theorem mitre_eq_iff (tag inner : Name) {first second : List String} :
    (if first = [] then [] else [Element.holding tag [] (first.map (.leaf inner []))]) =
      (if second = [] then [] else [Element.holding tag [] (second.map (.leaf inner []))]) ↔ first = second := by
  have texts : Function.Injective (Element.leaf inner []) := fun _ _ same => (Element.leaf.inj same).2.2
  by_cases none : first = [] <;> by_cases otherNone : second = [] <;>
    simp [none, otherNone, holding_inj, texts.list_map.eq_iff, eq_comm]

omit [Runtime] in
theorem groups_eq_iff (tag : Name) :
    (if one.groups = [] then [] else [Element.leaf tag [] one.groupText]) =
      (if other.groups = [] then [] else [Element.leaf tag [] other.groupText]) ↔ SameGroupNames one.groups other.groups := by
  rw [sameGroupNames_iff]
  by_cases none : one.groups = []
  · rw [none, if_pos rfl, groupNames_eq_nil.mpr rfl, eq_comm (a := []), eq_comm (a := []), groupNames_eq_nil]
    simp
  · by_cases otherNone : other.groups = []
    · rw [otherNone, if_pos rfl, groupNames_eq_nil.mpr rfl, groupNames_eq_nil]
      simp
    · simp [none, otherNone, CompiledRule.groupText, String.append_left_inj, intercalate_eq_iff none otherNone]

theorem tagged_setting (tag inner : Name) (setting : Option Json) :
    tagged tag (setting.map fun value => Element.leaf inner [] (strJson value)).toList =
      if inner = tag then (setting.map fun value => Element.leaf inner [] (strJson value)).toList else [] := by
  cases setting <;> simp

theorem children_eq_iff : one.children = other.children ↔
    SameSetting one.parentRuleSid other.parentRuleSid ∧ one.sameSourceIp = other.sameSourceIp ∧
      one.sameUser = other.sameUser ∧ one.description = other.description ∧ one.mitreIds = other.mitreIds ∧
      SameGroupNames one.groups other.groups := by
  constructor
  · intro same
    -- the children of one tag are those of one member of the rule
    have pieces (text : String) (wellFormed) := congrArg (tagged ⟨text, wellFormed⟩) same
    simp only [CompiledRule.children, tagged_append, tagged_setting, tagged_ite, tagged_leaf, tagged_holding,
      tagged_nil, Name.mk.injEq] at pieces
    refine ⟨(setting_eq_iff ⟨"if_matched_sid", by decide⟩).mp ?_, (flag_eq_iff ⟨"same_source_ip", by decide⟩).mp ?_,
      (flag_eq_iff ⟨"same_user", by decide⟩).mp ?_, ?_, (mitre_eq_iff ⟨"mitre", by decide⟩ ⟨"id", by decide⟩).mp ?_,
      (groups_eq_iff ⟨"group", by decide⟩).mp ?_⟩
    · simpa using pieces "if_matched_sid" (by decide)
    · simpa using pieces "same_source_ip" (by decide)
    · simpa using pieces "same_user" (by decide)
    · simpa using pieces "description" (by decide)
    · simpa using pieces "mitre" (by decide)
    · simpa using pieces "group" (by decide)
  · rintro ⟨sid, sourceIp, user, description, mitreIds, groups⟩
    rw [CompiledRule.children, CompiledRule.children, (setting_eq_iff _).mpr sid, sourceIp, user, description, mitreIds,
      (groups_eq_iff _).mpr groups]

theorem element_eq_iff {ruleId : Int} : one.element ruleId = other.element ruleId ↔ SameRule one other := by
  rw [CompiledRule.element, CompiledRule.element, holding_inj, attributes_eq_iff, children_eq_iff]
  constructor
  · rintro ⟨⟨severityLevel, frequency, timeframe⟩, sid, sourceIp, user, description, mitreIds, groups⟩
    exact ⟨severityLevel, frequency, timeframe, sid, sourceIp, user, description, mitreIds, groups⟩
  · intro same
    exact ⟨⟨same.severityLevel, same.frequency, same.timeframe⟩, same.parentRuleSid, same.sameSourceIp, same.sameUser,
      same.description, same.mitreIds, same.groups⟩

theorem compile_ok_iff {ruleSpec : Json.Object} {ruleId : Int} {xml : String} :
    compileRuleSpecToXml ruleSpec ruleId = .ok xml ↔ (100000 ≤ ruleId ∧ ruleId ≤ 120000) ∧
      ∃ rule, readRule ruleSpec = .ok rule ∧ (rule.element ruleId).document 4 = xml := by
  rw [compileRuleSpecToXml]
  split_ifs with inRange
  · simp [inRange, Fallible.bind_ok_iff, pure, Except.pure]
  · simp [inRange]

def membersIn : Json → Json.Object
  | .obj members => members
  | _ => []

def correlationIn (ruleSpec : Json.Object) : Json.Object := membersIn (Json.get ruleSpec "correlation")

def textIn : Json → String
  | .str text => text
  | _ => ""

/-- The texts that a list consists of, or whatever else a loop goes through. -/
def textsIn : Json → List String
  | .arr items => items.map textIn
  | .obj members => members.map Prod.fst
  | .str text => text.toList.map String.singleton
  | _ => []

structure SameSpec (one other : Json.Object) : Prop where
  severityLevel : strJson (Json.get one "severity_level") = strJson (Json.get other "severity_level")
  frequency : SameSetting (given (Json.get (correlationIn one) "frequency")) (given (Json.get (correlationIn other) "frequency"))
  timeframe : SameSetting (given (Json.get (correlationIn one) "timeframe_seconds"))
    (given (Json.get (correlationIn other) "timeframe_seconds"))
  parentRuleSid : SameSetting (given (Json.get one "parent_rule_sid")) (given (Json.get other "parent_rule_sid"))
  sameSourceIp : (Json.get (correlationIn one) "same_source_ip").truthy = (Json.get (correlationIn other) "same_source_ip").truthy
  sameUser : (Json.get (correlationIn one) "same_user").truthy = (Json.get (correlationIn other) "same_user").truthy
  description : textIn (Json.get one "description") = textIn (Json.get other "description")
  mitreIds : textsIn (Json.get one "mitre_ids") = textsIn (Json.get other "mitre_ids")
  groups : SameGroupNames (textsIn (Json.get one "groups")) (textsIn (Json.get other "groups"))

omit [Runtime] in
theorem textOf_ok {value : Json} {text : String} (read : textOf value = .ok text) : text = textIn value := by
  cases value with
  | str written =>
    by_cases empty : written = ""
    · subst empty
      exact (Except.ok.inj read).symm
    · simp [textOf, given, Json.truthy, empty] at read
      exact read.symm
  | _ =>
    simp only [textOf, given] at read
    split_ifs at read
    simp_all [textIn]

omit [Runtime] in
theorem joinedText_ok {value : Json} {text : String} (read : joinedText value = .ok text) : text = textIn value := by
  cases value <;> cases read
  rfl

omit [Runtime] in
theorem itemsOf_ok {value : Json} {items : List Json} (read : itemsOf value = .ok items) :
    items.map textIn = textsIn value := by
  cases value with
  | arr members =>
    cases members with
    | nil => cases read; rfl
    | cons => cases read; rfl
  | obj members =>
    cases members with
    | nil => cases read; rfl
    | cons =>
      cases read
      simp [textsIn, textIn]
  | str text =>
    by_cases empty : text = ""
    · subst empty
      cases read
      rfl
    · simp [itemsOf, given, Json.truthy, empty] at read
      subst read
      simp [textsIn, textIn, Function.comp_def]
  | _ =>
    simp only [itemsOf, given] at read
    split_ifs at read
    simp_all [textsIn]

omit [Runtime] in
theorem mapM_texts {read : Json → Except CompileError String} (own : ∀ {value text}, read value = .ok text → text = textIn value)
    {items : List Json} {texts : List String} (done : items.mapM read = .ok texts) : texts = items.map textIn := by
  rw [Fallible.mapM_ok_iff] at done
  induction done with
  | nil => rfl
  | cons first _ ih => rw [List.map_cons, ← own first, ih]

omit [Runtime] in
theorem correlationOf_ok {ruleSpec correlation : Json.Object} (read : Backtest.correlationOf ruleSpec = .ok correlation) :
    correlation = correlationIn ruleSpec := by
  rw [correlationIn]
  simp only [Backtest.correlationOf] at read
  split_ifs at read with declared
  · split at read
    next members written => rw [written, ← Except.ok.inj read, membersIn]
    next => cases read
  · cases written : Json.get ruleSpec "correlation" with
    | obj members =>
      rw [written] at declared
      cases members with
      | nil => exact (Except.ok.inj read).symm
      | cons => simp [Json.truthy] at declared
    | _ => exact (Except.ok.inj read).symm

omit [Runtime] in
theorem readRule_ok {ruleSpec : Json.Object} {rule : CompiledRule} (read : readRule ruleSpec = .ok rule) :
    rule = {
      severityLevel := Json.get ruleSpec "severity_level"
      frequency := given (Json.get (correlationIn ruleSpec) "frequency")
      timeframe := given (Json.get (correlationIn ruleSpec) "timeframe_seconds")
      parentRuleSid := given (Json.get ruleSpec "parent_rule_sid")
      sameSourceIp := (Json.get (correlationIn ruleSpec) "same_source_ip").truthy
      sameUser := (Json.get (correlationIn ruleSpec) "same_user").truthy
      description := textIn (Json.get ruleSpec "description")
      mitreIds := textsIn (Json.get ruleSpec "mitre_ids")
      groups := textsIn (Json.get ruleSpec "groups") } := by
  have present {key : String} {value : Json} (found : required ruleSpec key = .ok value) : Json.get ruleSpec key = value := by
    rw [required, Json.item] at found
    cases held : ruleSpec.lookup key with
    | none => simp [held] at found
    | some member =>
      simp only [held, Except.ok.injEq] at found
      rw [Json.get, Json.getOr, held, ← found, Option.getD_some]
  simp only [readRule, Fallible.bind_ok_iff] at read
  obtain ⟨severityLevel, level, correlation, correlated, description, described, mitreIds, listed, groups, grouped,
    text, written, mitreTexts, mitre, groupTexts, names, returned⟩ := read
  have declared : Backtest.correlationOf ruleSpec = .ok correlation := by
    cases outcome : Backtest.correlationOf ruleSpec with
    | error => simp [outcome, Except.mapError] at correlated
    | ok members =>
      rw [outcome] at correlated
      exact congrArg Except.ok (Except.ok.inj correlated)
  obtain rfl := correlationOf_ok declared
  cases returned
  rw [present level, present described, ← textOf_ok written, ← itemsOf_ok listed, ← itemsOf_ok grouped,
    ← mapM_texts textOf_ok mitre, ← mapM_texts joinedText_ok names]

theorem compiled_alike_iff {one other : Json.Object} {ruleId : Int} {xml otherXml : String}
    (first : compileRuleSpecToXml one ruleId = .ok xml) (second : compileRuleSpecToXml other ruleId = .ok otherXml) :
    xml = otherXml ↔ SameSpec one other := by
  obtain ⟨_, rule, read, rfl⟩ := compile_ok_iff.mp first
  obtain ⟨_, otherRule, otherRead, rfl⟩ := compile_ok_iff.mp second
  rw [(document_injective 4).eq_iff, element_eq_iff, readRule_ok read, readRule_ok otherRead]
  constructor
  · intro same
    exact ⟨same.severityLevel, same.frequency, same.timeframe, same.parentRuleSid, same.sameSourceIp, same.sameUser,
      same.description, same.mitreIds, same.groups⟩
  · intro same
    exact ⟨same.severityLevel, same.frequency, same.timeframe, same.parentRuleSid, same.sameSourceIp, same.sameUser,
      same.description, same.mitreIds, same.groups⟩

end

private def groupedSpec (groups : List String) : Json.Object :=
  [("severity_level", .int 10), ("description", .str "Repeated <suspicious> activity"),
    ("correlation", .obj [("frequency", .int 8), ("timeframe_seconds", .int 120)]), ("groups", .arr (groups.map .str))]

private def groupedRule (groups : List String) : CompiledRule where
  severityLevel := .int 10
  frequency := some (.int 8)
  timeframe := some (.int 120)
  parentRuleSid := none
  sameSourceIp := false
  sameUser := false
  description := "Repeated <suspicious> activity"
  mitreIds := []
  groups := groups

private theorem compile_grouped [Runtime] {groups : List String}
    (read : readRule (groupedSpec groups) = .ok (groupedRule groups)) :
    compileRuleSpecToXml (groupedSpec groups) 100123 = .ok (((groupedRule groups).element 100123).document 4) :=
  compile_ok_iff.mpr ⟨by decide, groupedRule groups, read, rfl⟩

theorem compiled_alike_iff_reordered :
    letI := Runtime.transparent
    ∃ xml otherXml, compileRuleSpecToXml (groupedSpec ["brute_force", "ssh"]) 100123 = .ok xml ∧
      compileRuleSpecToXml (groupedSpec ["ssh", "brute_force"]) 100123 = .ok otherXml ∧ xml ≠ otherXml := by
  let _ := Runtime.transparent
  have read : readRule (groupedSpec ["brute_force", "ssh"]) = .ok (groupedRule ["brute_force", "ssh"]) := rfl
  have otherRead : readRule (groupedSpec ["ssh", "brute_force"]) = .ok (groupedRule ["ssh", "brute_force"]) := rfl
  refine ⟨_, _, compile_grouped read, compile_grouped otherRead, fun alike => ?_⟩
  have same := (compiled_alike_iff (compile_grouped read) (compile_grouped otherRead)).mp alike
  exact absurd same.groups.names (by decide)

/-- One group with a comma in its name, or two groups. -/
theorem comma_compiles_alike :
    letI := Runtime.transparent
    ∃ xml, compileRuleSpecToXml (groupedSpec ["brute_force,ssh"]) 100123 = .ok xml ∧
      compileRuleSpecToXml (groupedSpec ["brute_force", "ssh"]) 100123 = .ok xml ∧
      Json.get (groupedSpec ["brute_force,ssh"]) "groups" ≠ Json.get (groupedSpec ["brute_force", "ssh"]) "groups" := by
  let _ := Runtime.transparent
  have same : SameRule (groupedRule ["brute_force,ssh"]) (groupedRule ["brute_force", "ssh"]) := by
    refine ⟨rfl, ?_, ?_, ?_, rfl, rfl, rfl, rfl, sameGroupNames_iff.mpr (by decide)⟩
    all_goals exact sameSetting_iff.mpr rfl
  refine ⟨_, compile_grouped rfl, ?_, by decide⟩
  rw [element_eq_iff.mpr same]
  exact compile_grouped rfl

end ArgosCore.Proofs
