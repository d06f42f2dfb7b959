import ArgosCore.Foundations.PrefixCode
import Mathlib.Data.List.Nodup

/-! Documents of elements that hold a text or other elements, written with one line for
each inner element, as `ElementTree` does after `indent`. No two elements are written alike. -/

namespace Xml
open PrefixCode

def isNameChar (c : Char) : Bool := c.isAlphanum || c = '_' || c = '-' || c = '.' || c = ':'

structure Name where
  text : String
  wellFormed : text ≠ "" ∧ text.toList.all isNameChar = true
  deriving DecidableEq

/-- Characters that are written as `&entity;`, and the names of their entities. -/
structure Entities where
  table : List (Char × String)
  ampersand : table.lookup '&' ≠ none
  closed : ∀ entry ∈ table, ';' ∉ entry.2.toList
  distinct : (table.map Prod.snd).Nodup

def Entities.cdata : Entities where
  table := [('&', "amp"), ('<', "lt"), ('>', "gt")]
  ampersand := by decide
  closed := by decide
  distinct := by decide

def Entities.value : Entities where
  table := [('&', "amp"), ('<', "lt"), ('>', "gt"), ('"', "quot"), ('\r', "#13"), ('\n', "#10"), ('\t', "#09")]
  ampersand := by decide
  closed := by decide
  distinct := by decide

def Entities.escapeChar (entities : Entities) (c : Char) : List Char :=
  match entities.table.lookup c with
  | some entity => '&' :: entity.toList ++ [';']
  | none => [c]

def Entities.escape (entities : Entities) (text : String) : List Char := text.toList.flatMap entities.escapeChar

inductive Element where
  | leaf (tag : Name) (attributes : List (Name × String)) (text : String)
  | branch (tag : Name) (attributes : List (Name × String)) (first : Element) (rest : List Element)

def Element.tag : Element → Name
  | leaf tag _ _ => tag
  | branch tag _ _ _ => tag

def Element.holding (tag : Name) (attributes : List (Name × String)) : List Element → Element
  | [] => leaf tag attributes ""
  | first :: rest => branch tag attributes first rest

def writeAttribute (item : Name × String) : List Char :=
  ' ' :: item.1.text.toList ++ '=' :: '"' :: Entities.value.escape item.2 ++ ['"']

def opening (tag : Name) (attributes : List (Name × String)) : List Char :=
  '<' :: tag.text.toList ++ attributes.flatMap writeAttribute

def closing (tag : Name) : List Char := '<' :: '/' :: tag.text.toList ++ ['>']

def newline (width level : Nat) : List Char := '\n' :: List.replicate (width * level) ' '

def textBody (tag : Name) (text : String) : List Char :=
  if text = "" then " />".toList else '>' :: Entities.cdata.escape text ++ closing tag

variable (width : Nat)

mutual
def Element.write (level : Nat) : Element → List Char
  | .leaf tag attributes text => opening tag attributes ++ textBody tag text
  | .branch tag attributes first rest =>
    opening tag attributes ++ '>' :: newline width (level + 1) ++ first.write (level + 1) ++
      writeAll (level + 1) rest ++ newline width level ++ closing tag

def writeAll (level : Nat) : List Element → List Char
  | [] => []
  | element :: elements => newline width level ++ element.write level ++ writeAll level elements
end

/-- `indent` and `tostring` -/
def Element.document (element : Element) : String := String.ofList (element.write width 0)

namespace Entities
variable {entities : Entities}

theorem mem_of_entity {c : Char} {entity : String} (found : entities.table.lookup c = some entity) :
    (c, entity) ∈ entities.table := by
  obtain ⟨_, _, split, _⟩ := List.lookup_eq_some_iff.mp found
  simp [split]

theorem eq_of_entity {one other : Char} {entity : String} (first : entities.table.lookup one = some entity)
    (second : entities.table.lookup other = some entity) : one = other :=
  congrArg Prod.fst (List.inj_on_of_nodup_map entities.distinct (mem_of_entity first) (mem_of_entity second) rfl)

theorem escapeChar_readable (c : Char) : Readable entities.escapeChar c := by
  intro other rest otherRest same
  rw [escapeChar, escapeChar] at same
  cases here : entities.table.lookup c with
  | none =>
    cases there : entities.table.lookup other with
    | none => simpa [here, there] using same
    | some entity =>
      obtain ⟨rfl, _⟩ : c = '&' ∧ _ := by simpa [here, there] using same
      exact absurd here entities.ampersand
  | some entity =>
    cases there : entities.table.lookup other with
    | none =>
      obtain ⟨rfl, _⟩ : '&' = other ∧ _ := by simpa [here, there] using same
      exact absurd there entities.ampersand
    | some otherEntity =>
      have names : entity.toList ++ ';' :: rest = otherEntity.toList ++ ';' :: otherRest := by
        simpa [here, there] using same
      have closed {c : Char} {entity : String} (found : entities.table.lookup c = some entity) :
          ∀ letter ∈ entity.toList, decide (letter ≠ ';') = true := by
        intro letter inside
        rw [decide_eq_true_iff]
        rintro rfl
        exact entities.closed _ (mem_of_entity found) inside
      have ends (tail : List Char) : Behind (fun letter => decide (letter ≠ ';')) (';' :: tail) := by
        rintro _ ⟨⟩
        decide
      obtain ⟨same, behind⟩ := run_unique (closed here) (closed there) (ends _) (ends _) names
      cases String.toList_inj.mp same
      exact ⟨eq_of_entity here there, List.tail_eq_of_cons_eq behind⟩

theorem escapeChar_head {stop : Char} (escaped : entities.table.lookup stop ≠ none) (other : stop ≠ '&') (c : Char)
    (rest : List Char) : ¬ (entities.escapeChar c ++ rest).head? = some stop := by
  rw [escapeChar]
  cases found : entities.table.lookup c with
  | none =>
    rintro begins
    cases begins
    exact escaped found
  | some entity =>
    rintro begins
    cases begins
    exact other rfl

theorem escape_unique {stop : Char} (escaped : entities.table.lookup stop ≠ none) (different : stop ≠ '&')
    {one other : String} {rest otherRest : List Char}
    (same : entities.escape one ++ stop :: rest = entities.escape other ++ stop :: otherRest) :
    one = other ∧ rest = otherRest := by
  obtain ⟨texts, behind⟩ := PrefixCode.flatMap (fun tail => tail.head? = some stop)
    (escapeChar_head escaped different) (fun c _ => escapeChar_readable c) rfl rfl same
  exact ⟨String.toList_inj.mp texts, List.tail_eq_of_cons_eq behind⟩

end Entities

theorem Name.unique {one other : Name} {rest otherRest : List Char} (first : Behind isNameChar rest)
    (second : Behind isNameChar otherRest) (same : one.text.toList ++ rest = other.text.toList ++ otherRest) :
    one = other ∧ rest = otherRest := by
  obtain ⟨texts, rests⟩ := run_unique (List.all_eq_true.mp one.wellFormed.2) (List.all_eq_true.mp other.wellFormed.2)
    first second same
  cases one
  cases other
  cases String.toList_inj.mp texts
  exact ⟨rfl, rests⟩

theorem Name.exists_cons (name : Name) : ∃ c rest, name.text.toList = c :: rest ∧ isNameChar c = true := by
  cases chars : name.text.toList with
  | nil => exact absurd (String.toList_eq_nil_iff.mp chars) name.wellFormed.1
  | cons c rest =>
    have all := name.wellFormed.2
    rw [chars, List.all_cons, Bool.and_eq_true] at all
    exact ⟨c, rest, rfl, all.1⟩

theorem writeAttribute_readable (item : Name × String) : Readable writeAttribute item := by
  rintro ⟨otherName, otherText⟩ rest otherRest same
  obtain ⟨name, text⟩ := item
  simp only [writeAttribute, List.cons_append, List.append_assoc, List.nil_append, List.cons.injEq, true_and] at same
  have equals (tail : List Char) : Behind isNameChar ('=' :: tail) := by rintro _ ⟨⟩; decide
  obtain ⟨rfl, values⟩ := Name.unique (equals _) (equals _) same
  simp only [List.cons.injEq, true_and] at values
  obtain ⟨rfl, behind⟩ := Entities.escape_unique (by decide) (by decide) values
  exact ⟨rfl, behind⟩

def Ends (tail : List Char) : Prop := ∃ rest, tail = ' ' :: '/' :: rest ∨ tail = '>' :: rest

theorem opening_unique {tag otherTag : Name} {attributes otherAttributes : List (Name × String)}
    {tail otherTail : List Char} (first : Ends tail) (second : Ends otherTail)
    (same : opening tag attributes ++ tail = opening otherTag otherAttributes ++ otherTail) :
    tag = otherTag ∧ attributes = otherAttributes ∧ tail = otherTail := by
  have behind (attributes : List (Name × String)) {tail : List Char} (ends : Ends tail) :
      Behind isNameChar (attributes.flatMap writeAttribute ++ tail) := by
    cases attributes with
    | nil =>
      obtain ⟨rest, rfl | rfl⟩ := ends
      · rintro _ ⟨⟩; decide
      · rintro _ ⟨⟩; decide
    | cons item attributes => rintro _ ⟨⟩; decide
  have clear (item : Name × String) (rest : List Char) : ¬ Ends (writeAttribute item ++ rest) := by
    obtain ⟨c, letters, name, letter⟩ := item.1.exists_cons
    rintro ⟨rest, same | same⟩
    · simp only [writeAttribute, name, List.cons_append, List.cons.injEq] at same
      obtain ⟨_, rfl, _⟩ := same
      exact absurd letter (by decide)
    · cases same
  simp only [opening, List.cons_append, List.append_assoc, List.cons.injEq, true_and] at same
  obtain ⟨tags, rest⟩ := Name.unique (behind _ first) (behind _ second) same
  obtain ⟨items, tails⟩ := PrefixCode.flatMap Ends clear (fun item _ => writeAttribute_readable item) first second rest
  exact ⟨tags, items, tails⟩

theorem write_head (level : Nat) (element : Element) :
    ∃ c rest, element.write width level = '<' :: c :: rest ∧ isNameChar c = true := by
  cases element with
  | leaf tag attributes text =>
    obtain ⟨c, letters, name, letter⟩ := tag.exists_cons
    simp only [Element.write, opening, name, List.cons_append]
    exact ⟨c, _, rfl, letter⟩
  | branch tag attributes first rest =>
    obtain ⟨c, letters, name, letter⟩ := tag.exists_cons
    simp only [Element.write, opening, name, List.cons_append]
    exact ⟨c, _, rfl, letter⟩

def line (level : Nat) (element : Element) : List Char := newline width level ++ element.write width level

theorem writeAll_eq_flatMap (level : Nat) (elements : List Element) :
    writeAll width level elements = elements.flatMap (line width level) := by
  induction elements with
  | nil => rfl
  | cons element elements ih => rw [writeAll, ih, List.flatMap_cons, line]

/-- The lines of the inner elements end, one level further out, where the outer one is closed. -/
def Closes (level : Nat) (tail : List Char) : Prop := ∃ rest, tail = newline width level ++ '<' :: '/' :: rest

theorem line_not_closing (level : Nat) (element : Element) (rest : List Char) :
    ¬ Closes width level (line width (level + 1) element ++ rest) := by
  rintro ⟨tail, same⟩
  obtain ⟨c, letters, head, letter⟩ := write_head width (level + 1) element
  have deeper : newline width (level + 1) = newline width level ++ List.replicate width ' ' := by
    rw [newline, newline, Nat.mul_succ, List.replicate_add, List.cons_append]
  rw [line, deeper, head, List.append_assoc, List.append_assoc] at same
  have behind := List.append_cancel_left same
  cases width with
  | zero =>
    simp only [List.replicate_zero, List.nil_append, List.cons_append, List.cons.injEq, true_and] at behind
    obtain ⟨rfl, _⟩ := behind
    exact absurd letter (by decide)
  | succ width => cases behind

/-- A text, as far as it could be taken for the lines of inner elements. -/
theorem escape_newline (level : Nat) :
    Entities.cdata.escape (String.ofList (newline width level)) = newline width level := by
  have blank : ∀ c ∈ newline width level, Entities.cdata.escapeChar c = [c] := by
    intro c inside
    rcases List.mem_cons.mp inside with rfl | inside
    · decide
    · rw [List.eq_of_mem_replicate inside]
      decide
  rw [Entities.escape, String.toList_ofList, List.flatMap_congr blank, List.flatMap_singleton']

/-- A text is not written like inner elements: they begin with a name where it is closed. -/
theorem text_not_lines {text : String} {level : Nat} {element : Element} {rest otherRest : List Char} :
    Entities.cdata.escape text ++ '<' :: '/' :: rest ≠ line width level element ++ otherRest := by
  intro same
  obtain ⟨c, letters, head, letter⟩ := write_head width level element
  rw [line, head, List.append_assoc, ← escape_newline] at same
  obtain ⟨_, behind⟩ := Entities.escape_unique (by decide) (by decide) same
  cases behind
  exact absurd letter (by decide)

theorem textBody_ends (tag : Name) (text : String) (rest : List Char) : Ends (textBody tag text ++ rest) := by
  rw [textBody]
  split_ifs
  · exact ⟨_, .inl rfl⟩
  · exact ⟨_, .inr rfl⟩

theorem textBody_unique {tag : Name} {one other : String} {rest otherRest : List Char}
    (same : textBody tag one ++ rest = textBody tag other ++ otherRest) : one = other ∧ rest = otherRest := by
  rw [textBody, textBody] at same
  split_ifs at same with empty otherEmpty otherEmpty
  · exact ⟨empty.trans otherEmpty.symm, List.append_cancel_left same⟩
  · cases same
  · cases same
  · simp only [closing, List.cons_append, List.append_assoc, List.cons.injEq, true_and] at same
    obtain ⟨texts, behind⟩ := Entities.escape_unique (by decide) (by decide) same
    refine ⟨texts, ?_⟩
    simpa using behind

def linesBody (level : Nat) (tag : Name) (elements : List Element) : List Char :=
  '>' :: elements.flatMap (line width (level + 1)) ++ newline width level ++ closing tag

theorem write_branch (level : Nat) (tag : Name) (attributes : List (Name × String)) (first : Element)
    (rest : List Element) : (Element.branch tag attributes first rest).write width level =
      opening tag attributes ++ linesBody width level tag (first :: rest) := by
  rw [Element.write, writeAll_eq_flatMap, linesBody, List.flatMap_cons, line]
  simp only [List.append_assoc, List.cons_append]

theorem linesBody_unique {level : Nat} {tag : Name} {ones others : List Element} {rest otherRest : List Char}
    (readable : ∀ one ∈ ones, ∀ level, Readable (Element.write width level) one)
    (same : linesBody width level tag ones ++ rest = linesBody width level tag others ++ otherRest) :
    ones = others ∧ rest = otherRest := by
  have lines : ∀ one ∈ ones, Readable (line width (level + 1)) one := by
    intro one inside other rest otherRest same
    rw [line, line, List.append_assoc, List.append_assoc] at same
    exact readable one inside (level + 1) other rest otherRest (List.append_cancel_left same)
  simp only [linesBody, closing, List.cons_append, List.append_assoc, List.cons.injEq, true_and] at same
  obtain ⟨elements, behind⟩ := PrefixCode.flatMap (Closes width level) (line_not_closing width level) lines
    ⟨_, rfl⟩ ⟨_, rfl⟩ same
  refine ⟨elements, ?_⟩
  simpa using behind

theorem text_ne_lines {level : Nat} {tag : Name} {text : String} {first : Element} {others : List Element}
    {rest otherRest : List Char} :
    textBody tag text ++ rest ≠ linesBody width level tag (first :: others) ++ otherRest := by
  intro same
  rw [textBody, linesBody, List.flatMap_cons] at same
  split_ifs at same
  · cases same
  · simp only [closing, List.cons_append, List.append_assoc, List.cons.injEq, true_and] at same
    exact text_not_lines width same

mutual
theorem write_readable : (element : Element) → (level : Nat) → Readable (Element.write width level) element
  | .leaf tag attributes text, level => by
    intro other rest otherRest same
    cases other with
    | leaf otherTag otherAttributes otherText =>
      rw [Element.write, Element.write, List.append_assoc, List.append_assoc] at same
      obtain ⟨rfl, rfl, bodies⟩ := opening_unique (textBody_ends ..) (textBody_ends ..) same
      obtain ⟨rfl, rests⟩ := textBody_unique bodies
      exact ⟨rfl, rests⟩
    | branch otherTag otherAttributes first others =>
      rw [Element.write, write_branch, List.append_assoc, List.append_assoc] at same
      obtain ⟨rfl, rfl, bodies⟩ := opening_unique (textBody_ends ..) ⟨_, .inr rfl⟩ same
      exact absurd bodies (text_ne_lines width)
  | .branch tag attributes first others, level => by
    intro other rest otherRest same
    cases other with
    | leaf otherTag otherAttributes otherText =>
      rw [Element.write, write_branch, List.append_assoc, List.append_assoc] at same
      obtain ⟨rfl, rfl, bodies⟩ := opening_unique ⟨_, .inr rfl⟩ (textBody_ends ..) same
      exact absurd bodies.symm (text_ne_lines width)
    | branch otherTag otherAttributes otherFirst otherOthers =>
      rw [write_branch, write_branch, List.append_assoc, List.append_assoc] at same
      obtain ⟨rfl, rfl, bodies⟩ := opening_unique ⟨_, .inr rfl⟩ ⟨_, .inr rfl⟩ same
      have inner : ∀ one ∈ first :: others, ∀ level, Readable (Element.write width level) one :=
        List.forall_mem_cons.mpr ⟨write_readable first, all_readable others⟩
      obtain ⟨elements, rests⟩ := linesBody_unique width inner bodies
      obtain ⟨rfl, rfl⟩ := List.cons.inj elements
      exact ⟨rfl, rests⟩

theorem all_readable : (elements : List Element) →
    ∀ one ∈ elements, ∀ level, Readable (Element.write width level) one
  | [] => by simp
  | element :: elements => List.forall_mem_cons.mpr ⟨write_readable element, all_readable elements⟩
end

theorem document_injective : Function.Injective (Element.document width) := by
  intro one other same
  exact injective (fun element => write_readable width element 0) (String.ofList_injective same)

theorem holding_inj {tag : Name} {attributes otherAttributes : List (Name × String)} {elements others : List Element} :
    Element.holding tag attributes elements = Element.holding tag otherAttributes others ↔
      attributes = otherAttributes ∧ elements = others := by
  cases elements <;> cases others <;> simp [Element.holding]

def tagged (tag : Name) (elements : List Element) : List Element := elements.filter fun element => element.tag = tag

section
variable {tag : Name}

@[simp] theorem tagged_append (one other : List Element) : tagged tag (one ++ other) = tagged tag one ++ tagged tag other :=
  List.filter_append ..

@[simp] theorem tagged_nil : tagged tag [] = [] := rfl

@[simp] theorem tagged_ite (condition : Prop) [Decidable condition] (one other : List Element) :
    tagged tag (if condition then one else other) = if condition then tagged tag one else tagged tag other :=
  apply_ite ..

theorem tagged_singleton {element : Element} {own : Name} (known : element.tag = own) :
    tagged tag [element] = if own = tag then [element] else [] := by
  subst known
  by_cases same : element.tag = tag <;> simp [tagged, same]

@[simp] theorem tagged_leaf (own : Name) (attributes : List (Name × String)) (text : String) :
    tagged tag [.leaf own attributes text] = if own = tag then [.leaf own attributes text] else [] :=
  tagged_singleton rfl

@[simp] theorem tagged_holding (own : Name) (attributes : List (Name × String)) (elements : List Element) :
    tagged tag [.holding own attributes elements] = if own = tag then [.holding own attributes elements] else [] :=
  tagged_singleton (by cases elements <;> rfl)

end

end Xml
