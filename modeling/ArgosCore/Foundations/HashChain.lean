import Mathlib.Data.List.Induction

/-! Hash chains. Every record declares the hash of its predecessor and its own
hash; verification recomputes the latter. When recomputation is collision free
and never yields the genesis value, the last hash determines the whole chain. -/

structure HashChain (α η : Type) where
  genesis : η
  previous : α → η
  declared : α → η
  recompute : α → η

namespace HashChain

variable {α η : Type} (chain : HashChain α η)

def Continues (link : η) (record : α) : Prop :=
  chain.previous record = link ∧ chain.recompute record = chain.declared record

def Sound (link : η) : List α → Prop
  | [] => True
  | record :: records => chain.Continues link record ∧ Sound (chain.declared record) records

def tip (link : η) : List α → η
  | [] => link
  | record :: records => tip (chain.declared record) records

@[simp] theorem tip_append (link : η) (first second : List α) :
    chain.tip link (first ++ second) = chain.tip (chain.tip link first) second := by
  induction first generalizing link with
  | nil => rfl
  | cons record first ih => exact ih _

theorem tip_concat (link : η) (records : List α) (last : α) :
    chain.tip link (records ++ [last]) = chain.declared last := by
  rw [tip_append]
  rfl

theorem tip_getLast? {link : η} {records : List α} {last : α} (final : records.getLast? = some last) :
    chain.tip link records = chain.declared last := by
  obtain ⟨initial, rfl⟩ := List.getLast?_eq_some_iff.mp final
  exact chain.tip_concat link initial last

theorem sound_append {link : η} {first second : List α} :
    chain.Sound link (first ++ second) ↔
      chain.Sound link first ∧ chain.Sound (chain.tip link first) second := by
  induction first generalizing link with
  | nil => simp [Sound, tip]
  | cons record first ih => simp only [List.cons_append, Sound, tip, ih, and_assoc]

theorem sound_concat {link : η} {records : List α} {last : α} :
    chain.Sound link (records ++ [last]) ↔
      chain.Sound link records ∧ chain.Continues (chain.tip link records) last := by
  simp [sound_append, Sound]

theorem Sound.take {chain : HashChain α η} {link : η} {records : List α} (sound : chain.Sound link records)
    (count : Nat) : chain.Sound link (records.take count) := by
  rw [← List.take_append_drop count records, sound_append] at sound
  exact sound.1

theorem Sound.recompute {chain : HashChain α η} {link : η} {records : List α} (sound : chain.Sound link records)
    {record : α} (member : record ∈ records) : chain.recompute record = chain.declared record := by
  induction records generalizing link with
  | nil => cases member
  | cons head tail ih =>
    rcases List.mem_cons.mp member with rfl | member
    · exact sound.1.2
    · exact ih sound.2 member

theorem Sound.previous_ne_genesis {chain : HashChain α η} {link : η} {records : List α} (sound : chain.Sound link records)
    (fresh : ∀ record, chain.recompute record ≠ chain.genesis) (later : link ≠ chain.genesis)
    {record : α} (member : record ∈ records) : chain.previous record ≠ chain.genesis := by
  induction records generalizing link with
  | nil => cases member
  | cons head tail ih =>
    obtain ⟨⟨linked, hashed⟩, following⟩ := sound
    rcases List.mem_cons.mp member with rfl | member
    · rw [linked]
      exact later
    · exact ih following (hashed ▸ fresh head) member

section Breaks
variable [DecidableEq η]

instance (link : η) (record : α) : Decidable (chain.Continues link record) :=
  inferInstanceAs (Decidable (_ ∧ _))

/-- The position of the first record that does not continue the chain before it. -/
def breakAt (link : η) : List α → Option Nat
  | [] => none
  | record :: records =>
    if chain.Continues link record then (breakAt (chain.declared record) records).map (· + 1) else some 0

theorem sound_take_iff {link : η} {records : List α} {count : Nat} :
    chain.Sound link (records.take count) ↔ ∀ position, chain.breakAt link records = some position → count ≤ position := by
  induction records generalizing link count with
  | nil => simp [Sound, breakAt]
  | cons record records ih =>
    cases count with
    | zero => simp [Sound]
    | succ count =>
      by_cases continues : chain.Continues link record
      · simp [Sound, breakAt, continues, ih]
      · simp [Sound, breakAt, continues]

theorem breakAt_lt {link : η} {records : List α} {position : Nat}
    (found : chain.breakAt link records = some position) : position < records.length := by
  induction records generalizing link position with
  | nil => cases found
  | cons record records ih =>
    rw [breakAt] at found
    split at found
    · obtain ⟨earlier, before, rfl⟩ := Option.map_eq_some_iff.mp found
      exact Nat.succ_lt_succ (ih before)
    · cases found
      exact Nat.succ_pos _

theorem breakAt_none_iff {link : η} {records : List α} :
    chain.breakAt link records = none ↔ chain.Sound link records := by
  rw [← List.take_length (l := records), sound_take_iff, List.take_length]
  cases found : chain.breakAt link records with
  | none => simp
  | some position =>
    have inside := chain.breakAt_lt found
    simp only [reduceCtorEq, Option.some.injEq, forall_eq', false_iff]
    omega

end Breaks

/-- Recomputed hashes identify records, and none of them is the genesis value. -/
structure Binding : Prop where
  injective : ∀ left right, chain.recompute left = chain.recompute right →
    chain.declared left = chain.declared right → left = right
  genesis : ∀ record, chain.recompute record ≠ chain.genesis

/-- The tip of a sound chain commits to every record of it. The induction runs
backwards along the links: equal tips give equal last records, and these declare
equal predecessors. Only the genesis value can end a chain. -/
theorem Binding.tip_injective {chain : HashChain α η} (binding : chain.Binding) {left right : List α}
    (first : chain.Sound chain.genesis left) (second : chain.Sound chain.genesis right)
    (same : chain.tip chain.genesis left = chain.tip chain.genesis right) : left = right := by
  induction left using List.reverseRecOn generalizing right with
  | nil =>
    induction right using List.reverseRecOn with
    | nil => rfl
    | append_singleton right last _ =>
      obtain ⟨_, _, hashed⟩ := chain.sound_concat.mp second
      rw [tip_concat, ← hashed] at same
      exact absurd same.symm (binding.genesis last)
  | append_singleton left last ih =>
    obtain ⟨earlier, linked, hashed⟩ := chain.sound_concat.mp first
    induction right using List.reverseRecOn with
    | nil =>
      rw [tip_concat, ← hashed] at same
      exact absurd same (binding.genesis last)
    | append_singleton right other _ =>
      obtain ⟨before, joined, rehashed⟩ := chain.sound_concat.mp second
      simp only [tip_concat] at same
      have equal : last = other := binding.injective last other (by rw [hashed, rehashed, same]) same
      subst other
      rw [ih earlier before (linked.symm.trans joined)]

theorem Binding.take_of_declared {chain : HashChain α η} (binding : chain.Binding) {records other : List α}
    (sound : chain.Sound chain.genesis records) (verified : chain.Sound chain.genesis other)
    {last record : α} {position : Nat} (final : other.getLast? = some last)
    (found : records[position]? = some record) (same : chain.declared last = chain.declared record) :
    other = records.take (position + 1) := by
  apply binding.tip_injective verified (sound.take _)
  rw [chain.tip_getLast? final, List.take_add_one, found, Option.toList_some, tip_concat, same]

end HashChain
