import ArgosCore.Federation.SanitizerMemory
import ArgosCore.Proofs.SanitizerEffects

/-! The sanitizer in memory does what the sanitizer on documents does, and writes to nothing
but its own copy: every dictionary that the loop rewrites is one the copy has laid out. -/

namespace ArgosCore.Proofs

def addresses (fields : Dict Held) : List Nat :=
  fields.filterMap fun field =>
    match field.2 with
    | .dict address => some address
    | .value _ => none

/-- Fields that share no nested dictionary, with all of them at or after `base`. -/
structure Owned (base : Nat) (nested : List Json.Object) (fields : Dict Held) : Prop where
  distinct : (addresses fields).Nodup
  within : ∀ address ∈ addresses fields, base ≤ address ∧ address < nested.length
  leaves : ∀ field ∈ fields, ∀ members, field.2 ≠ .value (.obj members)

@[simp] theorem addresses_dict (field : String) (address : Nat) (fields : Dict Held) :
    addresses ((field, .dict address) :: fields) = address :: addresses fields := rfl

@[simp] theorem addresses_value (field : String) (json : Json) (fields : Dict Held) :
    addresses ((field, .value json) :: fields) = addresses fields := rfl

theorem documentOf_cons (nested : List Json.Object) (field : String) (held : Held) (fields : Dict Held) :
    documentOf nested ((field, held) :: fields) = (field, held.json nested) :: documentOf nested fields := rfl

theorem mem_addresses_of_lookup {fields : Dict Held} {field : String} {address : Nat}
    (found : fields.lookup field = some (.dict address)) : address ∈ addresses fields :=
  List.mem_filterMap.mpr ⟨_, Dict.mem_of_lookup found, rfl⟩

theorem lookup_documentOf (nested : List Json.Object) (fields : Dict Held) (field : String) :
    (documentOf nested fields).lookup field = (fields.lookup field).map (Held.json nested) :=
  Dict.lookup_map_values (Held.json nested) fields field

theorem documentOf_congr {nested other : List Json.Object} {fields : Dict Held}
    (same : ∀ address ∈ addresses fields, nested.getD address [] = other.getD address []) :
    documentOf nested fields = documentOf other fields := by
  apply List.map_congr_left
  intro ⟨field, held⟩ inside
  cases held with
  | value json => rfl
  | dict address =>
    have listed : address ∈ addresses fields := List.mem_filterMap.mpr ⟨_, inside, rfl⟩
    simp only [Held.json, same address listed]

theorem documentOf_modify {nested : List Json.Object} {fields : Dict Held} {field : String} {address : Nat}
    (distinct : (addresses fields).Nodup) (inside : address < nested.length)
    (found : fields.lookup field = some (.dict address)) (rewrite : Json.Object → Json.Object) :
    documentOf (nested.modify address rewrite) fields =
      Dict.set (documentOf nested fields) field (.obj (rewrite (nested.getD address []))) := by
  have elsewhere {other : Nat} (apart : address ≠ other) :
      (nested.modify address rewrite).getD other [] = nested.getD other [] := by
    simp [List.getElem?_modify_ne rewrite nested apart]
  induction fields with
  | nil => simp at found
  | cons member fields ih =>
    obtain ⟨name, held⟩ := member
    by_cases here : field = name
    · subst here
      obtain rfl : held = .dict address := by simpa using found
      obtain ⟨alone, _⟩ := List.nodup_cons.mp distinct
      have rest : documentOf (nested.modify address rewrite) fields = documentOf nested fields := by
        apply documentOf_congr
        intro other listed
        apply elsewhere
        rintro rfl
        exact alone listed
      rw [documentOf_cons, documentOf_cons, rest, Dict.set, if_pos rfl]
      simp [Held.json, inside]
    · rw [List.lookup_cons, beq_false_of_ne here] at found
      have later := mem_addresses_of_lookup found
      have rest : (addresses fields).Nodup := distinct.sublist (by cases held <;> simp)
      have unread : held.json (nested.modify address rewrite) = held.json nested := by
        cases held with
        | value json => rfl
        | dict other =>
          obtain ⟨alone, _⟩ := List.nodup_cons.mp distinct
          have apart : address ≠ other := by
            rintro rfl
            exact alone later
          rw [Held.json, Held.json, elsewhere apart]
      rw [documentOf_cons, documentOf_cons, unread, ih rest found, Dict.set, if_neg (Ne.symm here)]

theorem documentOf_put (nested : List Json.Object) (fields : Dict Held) (field : String) (value : Option Json) :
    documentOf nested (fields.put field (value.map .value)) = Dict.put (documentOf nested fields) field value := by
  have written : (value.map Held.value).map (Held.json nested) = value := by cases value <;> rfl
  rw [documentOf, Dict.map_values_put, written]
  rfl

theorem addresses_set_value (fields : Dict Held) (field : String) (json : Json) :
    (addresses (fields.set field (.value json))).Sublist (addresses fields) := by
  induction fields with
  | nil => simp [Dict.set]
  | cons member fields ih =>
    obtain ⟨name, held⟩ := member
    rw [Dict.set]
    split_ifs
    · cases held <;> simp
    · cases held <;> simp [ih]

theorem Owned.put {base : Nat} {nested : List Json.Object} {fields : Dict Held} (owned : Owned base nested fields)
    (field : String) {value : Option Json} (text : ∀ members, value ≠ some (.obj members)) :
    Owned base nested (fields.put field (value.map .value)) := by
  have fewer : (addresses (fields.put field (value.map .value))).Sublist (addresses fields) := by
    cases value with
    | none => exact List.filter_sublist.filterMap _
    | some json => exact addresses_set_value fields field json
  refine ⟨owned.distinct.sublist fewer, fun address inside => owned.within address (fewer.subset inside), ?_⟩
  intro member inside members same
  rcases Dict.mem_of_mem_put inside with written | kept
  · rw [same] at written
    obtain ⟨json, here, equal⟩ := Option.map_eq_some_iff.mp written.symm
    cases equal
    exact text members here
  · exact owned.leaves member kept members same

/-- Memory in which a copy is being rewritten: what was there is there as it was, and then
comes the copy, which shares nothing with it. -/
structure Copying (original memory : Memory) (document : Json.Object) : Prop where
  nested : original.nested <+: memory.nested
  copy : ∃ fields, memory.payloads = original.payloads ++ [fields] ∧
    Owned original.nested.length memory.nested fields ∧ documentOf memory.nested fields = document

section
variable {original memory : Memory} {document : Json.Object} (copying : Copying original memory document)
include copying

theorem Copying.owned : memory.payloads = original.payloads ++ [memory.fields original.payloads.length] ∧
    Owned original.nested.length memory.nested (memory.fields original.payloads.length) := by
  obtain ⟨fields, payloads, owned, _⟩ := copying.copy
  have last : memory.fields original.payloads.length = fields := by
    rw [Memory.fields, payloads]
    simp
  rw [last]
  exact ⟨payloads, owned⟩

theorem Copying.read : memory.read original.payloads.length = document := by
  obtain ⟨fields, payloads, _, held⟩ := copying.copy
  rw [Memory.read, Memory.fields, payloads, ← held]
  simp

theorem Copying.putField (field : String) {value : Option Json} (text : ∀ members, value ≠ some (.obj members)) :
    Copying original (memory.putField original.payloads.length field value) (Dict.put document field value) := by
  obtain ⟨payloads, owned⟩ := copying.owned
  refine ⟨copying.nested, _, ?_, owned.put field text, ?_⟩
  · rw [Memory.putField, payloads]
    simp [Memory.fields, List.modify_eq_take_drop]
  · exact (documentOf_put _ _ _ _).trans (congrArg (Dict.put · field value) copying.read)

theorem Copying.putMember {field : String} {address : Nat}
    (found : (memory.fields original.payloads.length).lookup field = some (.dict address)) (key : String)
    (value : Option Json) : Copying original (memory.putMember address key value)
      (Dict.set document field (.obj (Dict.put (memory.nested.getD address []) key value))) := by
  obtain ⟨payloads, owned⟩ := copying.owned
  obtain ⟨later, inside⟩ := owned.within address (mem_addresses_of_lookup found)
  refine ⟨?_, _, payloads, ⟨owned.distinct, ?_, owned.leaves⟩, ?_⟩
  · have kept := copying.nested
    rw [List.prefix_iff_getElem?] at kept ⊢
    intro other before
    rw [Memory.putMember, List.getElem?_modify_ne _ _ (by omega), kept other before]
  · simpa [Memory.putMember] using owned.within
  · rw [← copying.read]
    exact documentOf_modify owned.distinct inside found _

variable [Runtime]

theorem Copying.applyOneIn (rule : SanitizationRule) :
    Option.Rel (fun inPlace pure => Copying original inPlace.1 pure.1 ∧ inPlace.2 = pure.2)
      (applyOneIn memory original.payloads.length rule) (applyOne document rule) := by
  have reads (field : String) :
      document.lookup field = ((memory.fields original.payloads.length).lookup field).map (Held.json memory.nested) := by
    rw [← copying.read, Memory.read, lookup_documentOf]
  rw [ArgosCore.applyOneIn, applyOne]
  generalize splitPath rule.fieldPath = place
  obtain ⟨top, nested⟩ := place
  simp only [reads]
  cases found : (memory.fields original.payloads.length).lookup top with
  | none => exact .none
  | some held =>
    cases nested with
    | none => exact .some ⟨copying.putField top (replacement_ne_obj rule _), rfl⟩
    | some key =>
      cases held with
      | value json =>
        have other := copying.owned.2.leaves _ (Dict.mem_of_lookup found)
        cases json with
        | obj members => exact absurd rfl (other members)
        | _ => exact .none
      | dict address =>
        cases inner : (memory.nested.getD address []).lookup key with
        | none =>
          simp only [Held.json, Option.bind_eq_bind, Option.bind_some, Option.map_some, inner]
          exact .none
        | some value =>
          simp only [Held.json, Option.bind_eq_bind, Option.bind_some, Option.map_some, inner]
          exact .some ⟨copying.putMember found key _, rfl⟩

end

section
variable [Runtime]

structure KeepsUp (original : Memory) (inPlace : SanitizingIn) (state : Sanitizing) : Prop where
  copying : Copying original inPlace.memory state.working
  transformations : inPlace.transformations = state.transformations
  fieldsRemoved : inPlace.fieldsRemoved = state.fieldsRemoved

theorem KeepsUp.step {original : Memory} {inPlace : SanitizingIn} {state : Sanitizing}
    (keeps : KeepsUp original inPlace state) (rule : SanitizationRule) :
    KeepsUp original (sanitizeStepIn original.payloads.length inPlace rule) (sanitizeStep state rule) := by
  have applied := keeps.copying.applyOneIn rule
  rw [sanitizeStepIn, sanitizeStep]
  generalize applyOneIn inPlace.memory original.payloads.length rule = first at applied ⊢
  generalize applyOne state.working rule = second at applied ⊢
  cases applied with
  | none => exact keeps
  | some both =>
    obtain ⟨copying, same⟩ := both
    exact ⟨copying, by simp only [keeps.transformations, same], by simp only [keeps.fieldsRemoved]⟩

theorem KeepsUp.foldl {original : Memory} {inPlace : SanitizingIn} {state : Sanitizing}
    (keeps : KeepsUp original inPlace state) (rules : List SanitizationRule) :
    KeepsUp original (rules.foldl (sanitizeStepIn original.payloads.length) inPlace) (rules.foldl sanitizeStep state) := by
  induction rules generalizing inPlace state with
  | nil => exact keeps
  | cons rule rules ih => exact ih (keeps.step rule)

end

end ArgosCore.Proofs
