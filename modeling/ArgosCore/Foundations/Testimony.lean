import Mathlib.Data.List.Dedup
import Mathlib.Data.List.MinMax
import Mathlib.Order.WithBot
import Mathlib.Tactic.Choose

/-! Sources that say things, some of them more than one. A hearing takes one thing from
each source, as the last word of each in some order does; ranks of authority then decide
among the sources that disagree. When every hearing ends the same way is a matter of what
was said alone. -/

namespace Testimony

variable {σ ν ρ : Type} [LinearOrder ρ]

structure Hearing (said votes : List (σ × ν)) : Prop where
  once : (votes.map Prod.fst).Nodup
  heard : ∀ source ∈ said.map Prod.fst, source ∈ votes.map Prod.fst
  spoken : votes ⊆ said

def Disputed (votes : List (σ × ν)) : Prop := ∃ one ∈ votes, ∃ other ∈ votes, one.2 ≠ other.2

def Ranked (rank : σ → Option ρ) (votes : List (σ × ν)) : Prop := ∀ source ∈ votes.map Prod.fst, (rank source).isSome

def Top (rank : σ → Option ρ) (votes : List (σ × ν)) (source : σ) : Prop :=
  ∀ other ∈ votes.map Prod.fst, ∀ highest, rank source = some highest → ∀ rest, rank other = some rest → rest ≤ highest

/-- All votes are for the value, or all sources are ranked and those at the top are. -/
def Decides (rank : σ → Option ρ) (votes : List (σ × ν)) (value : ν) : Prop :=
  votes ≠ [] ∧ ((∀ vote ∈ votes, vote.2 = value) ∨
    Ranked rank votes ∧ ∀ vote ∈ votes, Top rank votes vote.1 → vote.2 = value)

def Undecided (rank : σ → Option ρ) (votes : List (σ × ν)) : Prop :=
  Disputed votes ∧ (Ranked rank votes →
    ∃ one ∈ votes, ∃ other ∈ votes, Top rank votes one.1 ∧ Top rank votes other.1 ∧ one.2 ≠ other.2)

def OneVoice (said : List (σ × ν)) (among : σ → Prop) : Prop :=
  ∀ source, among source → ∀ one other, (source, one) ∈ said → (source, other) ∈ said → one = other

def Common (said : List (σ × ν)) (among : σ → Prop) (value : ν) : Prop :=
  ∀ source ∈ said.map Prod.fst, among source → (source, value) ∈ said

/-- Every source says one thing; or the sources can never all agree, and some of them is
unranked, or those at the top can never agree, or each of those says one thing. -/
def Settled (rank : σ → Option ρ) (said : List (σ × ν)) : Prop :=
  OneVoice said (fun _ => True) ∨
    (¬ ∃ value, Common said (fun _ => True) value) ∧
      (¬ Ranked rank said ∨ (¬ ∃ value, Common said (Top rank said) value) ∨ OneVoice said (Top rank said))

section
variable {said votes : List (σ × ν)} {rank : σ → Option ρ}

theorem Hearing.source_iff (hearing : Hearing said votes) (source : σ) :
    source ∈ votes.map Prod.fst ↔ source ∈ said.map Prod.fst := by
  refine ⟨?_, hearing.heard source⟩
  intro inside
  obtain ⟨vote, member, rfl⟩ := List.mem_map.mp inside
  exact List.mem_map_of_mem (hearing.spoken member)

omit [LinearOrder ρ] in
theorem Hearing.ranked_iff (hearing : Hearing said votes) : Ranked rank votes ↔ Ranked rank said := by
  simp only [Ranked, hearing.source_iff]

theorem Hearing.top_iff (hearing : Hearing said votes) (source : σ) :
    Top rank votes source ↔ Top rank said source := by
  simp only [Top, hearing.source_iff]

theorem Hearing.exists_vote (hearing : Hearing said votes) {source : σ} (spoke : source ∈ said.map Prod.fst) :
    ∃ value, (source, value) ∈ votes := by
  obtain ⟨⟨_, value⟩, member, rfl⟩ := List.mem_map.mp (hearing.heard source spoke)
  exact ⟨value, member⟩

theorem Hearing.ne_nil_iff (hearing : Hearing said votes) : votes ≠ [] ↔ said ≠ [] := by
  rw [ne_eq, ne_eq, not_iff_not, ← List.map_eq_nil_iff (f := Prod.fst), ← List.map_eq_nil_iff (l := said) (f := Prod.fst),
    List.eq_nil_iff_forall_not_mem, List.eq_nil_iff_forall_not_mem]
  simp only [hearing.source_iff]

theorem Hearing.mem_iff (hearing : Hearing said votes) {among : σ → Prop} (voice : OneVoice said among) {source : σ}
    (inside : among source) (value : ν) : (source, value) ∈ votes ↔ (source, value) ∈ said := by
  refine ⟨fun vote => hearing.spoken vote, ?_⟩
  intro statement
  obtain ⟨heard, vote⟩ := hearing.exists_vote (List.mem_map_of_mem statement)
  rwa [voice source inside value heard statement (hearing.spoken vote)]

/-- Any choice of statements is a hearing. -/
theorem exists_hearing [DecidableEq σ] (choice : σ → ν)
    (chosen : ∀ source ∈ said.map Prod.fst, (source, choice source) ∈ said) :
    ∃ votes, Hearing said votes ∧ ∀ vote ∈ votes, vote.2 = choice vote.1 := by
  refine ⟨(said.map Prod.fst).dedup.map fun source => (source, choice source), ⟨?_, ?_, ?_⟩, ?_⟩
  · rw [List.map_map]
    simpa [Function.comp_def] using List.nodup_dedup (said.map Prod.fst)
  · intro source spoke
    rw [List.map_map]
    simpa [Function.comp_def] using spoke
  · intro vote member
    obtain ⟨source, spoke, rfl⟩ := List.mem_map.mp member
    exact chosen source (List.mem_dedup.mp spoke)
  · intro vote member
    obtain ⟨source, _, rfl⟩ := List.mem_map.mp member
    rfl

/-- Every source says something, so a value for some of them extends to a choice. -/
theorem exists_choice (among : σ → Prop) (value : ν) (common : Common said among value) :
    ∃ choice : σ → ν, (∀ source ∈ said.map Prod.fst, (source, choice source) ∈ said) ∧
      ∀ source, among source → choice source = value := by
  classical
  have speaks : ∀ source, ∃ spoken, source ∈ said.map Prod.fst → (source, spoken) ∈ said := by
    intro source
    by_cases spoke : source ∈ said.map Prod.fst
    · obtain ⟨⟨_, spoken⟩, member, rfl⟩ := List.mem_map.mp spoke
      exact ⟨spoken, fun _ => member⟩
    · exact ⟨value, fun inside => absurd inside spoke⟩
  choose spoken holds using speaks
  refine ⟨fun source => if among source then value else spoken source, ?_, fun source inside => if_pos inside⟩
  intro source spoke
  by_cases inside : among source
  · simpa [inside] using common source spoke inside
  · simpa [inside] using holds source spoke

theorem Hearing.decides_iff (hearing : Hearing said votes) (value : ν) :
    Decides rank votes value ↔ said ≠ [] ∧ ((∀ vote ∈ votes, vote.2 = value) ∨
      Ranked rank said ∧ ∀ vote ∈ votes, Top rank said vote.1 → vote.2 = value) := by
  simp only [Decides, hearing.ne_nil_iff, hearing.ranked_iff, hearing.top_iff]

theorem exists_top {votes : List (σ × ν)} (nonempty : votes ≠ []) (rank : σ → Option ρ) :
    ∃ vote ∈ votes, Top rank votes vote.1 := by
  let height (vote : σ × ν) : WithBot ρ := rank vote.1
  obtain ⟨best, found⟩ := Option.ne_none_iff_exists'.mp ((not_congr (List.argmax_eq_none (f := height))).mpr nonempty)
  refine ⟨best, List.argmax_mem found, ?_⟩
  intro source member highest ranked rest other
  obtain ⟨vote, inside, rfl⟩ := List.mem_map.mp member
  have most : height vote ≤ height best := List.le_of_mem_argmax inside found
  simp only [height, ranked, other] at most
  exact WithBot.coe_le_coe.mp most

theorem Decides.unique {votes : List (σ × ν)} {one other : ν} (first : Decides rank votes one)
    (second : Decides rank votes other) : one = other := by
  obtain ⟨vote, member, top⟩ := exists_top first.1 rank
  have decided (value : ν) (decides : Decides rank votes value) : vote.2 = value := by
    rcases decides.2 with agreed | ⟨_, agreed⟩
    · exact agreed vote member
    · exact agreed vote member top
  exact (decided one first).symm.trans (decided other second)

theorem undecided_iff {votes : List (σ × ν)} :
    Undecided rank votes ↔ Disputed votes ∧ ∀ value, ¬ Decides rank votes value := by
  refine and_congr_right fun disputed => ?_
  constructor
  · intro divided value ⟨_, decided⟩
    rcases decided with agreed | ⟨ranked, agreed⟩
    · obtain ⟨one, first, other, second, differ⟩ := disputed
      exact differ ((agreed one first).trans (agreed other second).symm)
    · obtain ⟨one, first, other, second, high, higher, differ⟩ := divided ranked
      exact differ ((agreed one first high).trans (agreed other second higher).symm)
  · intro undecided ranked
    obtain ⟨_, member, _⟩ := disputed
    have nonempty := List.ne_nil_of_mem member
    obtain ⟨best, inside, top⟩ := exists_top nonempty rank
    by_contra united
    refine undecided best.2 ⟨nonempty, .inr ⟨ranked, ?_⟩⟩
    intro vote voted high
    by_contra differ
    exact united ⟨vote, voted, best, inside, high, top, differ⟩

theorem Hearing.common_of_agreed (hearing : Hearing said votes) {among : σ → Prop} {value : ν}
    (agreed : ∀ vote ∈ votes, among vote.1 → vote.2 = value) : Common said among value := by
  intro source spoke inside
  obtain ⟨heard, vote⟩ := hearing.exists_vote spoke
  rw [← agreed _ vote inside]
  exact hearing.spoken vote

omit [LinearOrder ρ] in
theorem agreed_of_not_disputed {votes : List (σ × ν)} (undisputed : ¬ Disputed votes) {first : σ × ν}
    (member : first ∈ votes) :
    ∀ vote ∈ votes, vote.2 = first.2 := by
  intro vote inside
  by_contra differs
  exact undisputed ⟨vote, inside, first, member, differs⟩

omit [LinearOrder ρ] in
theorem exists_other {said : List (σ × ν)} {among : σ → Prop} (mixed : ¬ OneVoice said among) (value : ν) :
    ∃ source other, among source ∧ (source, other) ∈ said ∧ other ≠ value := by
  simp only [OneVoice, not_forall] at mixed
  obtain ⟨source, inside, one, other, first, second, differ⟩ := mixed
  by_cases same : one = value
  · exact ⟨source, other, inside, second, fun equal => differ (same.trans equal.symm)⟩
  · exact ⟨source, one, inside, first, same⟩

theorem Hearing.disputed_of_settled (hearing : Hearing said votes) (settled : Settled rank said)
    (disputed : Disputed said) : Disputed votes := by
  rcases settled with voice | ⟨uncommon, _⟩
  · obtain ⟨one, first, other, second, differ⟩ := disputed
    exact ⟨one, (hearing.mem_iff voice trivial _).mpr first, other, (hearing.mem_iff voice trivial _).mpr second, differ⟩
  · by_contra undisputed
    obtain ⟨first, member, _⟩ := disputed
    obtain ⟨heard, vote⟩ := hearing.exists_vote (List.mem_map_of_mem member)
    apply uncommon
    refine ⟨heard, hearing.common_of_agreed ?_⟩
    intro vote' inside _
    exact agreed_of_not_disputed undisputed vote vote' inside

theorem Hearing.disputed_iff_of_settled (hearing : Hearing said votes) (settled : Settled rank said) :
    Disputed votes ↔ Disputed said := by
  refine ⟨?_, hearing.disputed_of_settled settled⟩
  intro ⟨one, first, other, second, differ⟩
  exact ⟨one, hearing.spoken first, other, hearing.spoken second, differ⟩

theorem Hearing.decides_iff_of_settled (hearing : Hearing said votes) (settled : Settled rank said) (value : ν) :
    Decides rank votes value ↔ Decides rank said value := by
  rw [hearing.decides_iff, Decides]
  refine and_congr_right fun _ => ?_
  constructor
  · intro decided
    rcases settled with voice | ⟨uncommon, tops⟩
    · have same (statement : σ × ν) : statement ∈ votes ↔ statement ∈ said := hearing.mem_iff voice trivial _
      simpa only [same] using decided
    · rcases decided with agreed | ⟨ranked, agreed⟩
      · exact absurd ⟨value, hearing.common_of_agreed fun vote inside _ => agreed vote inside⟩ uncommon
      · rcases tops with unranked | divided | voice
        · exact absurd ranked unranked
        · exact absurd ⟨value, hearing.common_of_agreed agreed⟩ divided
        · refine .inr ⟨ranked, ?_⟩
          intro statement spoken top
          exact agreed statement ((hearing.mem_iff voice top _).mpr spoken) top
  · rintro (agreed | ⟨ranked, agreed⟩)
    · exact .inl fun vote member => agreed vote (hearing.spoken member)
    · exact .inr ⟨ranked, fun vote member => agreed vote (hearing.spoken member)⟩

theorem Hearing.mem_iff_of_subset {one other : List (σ × ν)} (first : Hearing said one) (second : Hearing said other)
    (inside : one ⊆ other) (vote : σ × ν) : vote ∈ one ↔ vote ∈ other := by
  refine ⟨fun member => inside member, ?_⟩
  intro member
  have spoke := (second.source_iff vote.1).mp (List.mem_map_of_mem member)
  obtain ⟨value, heard⟩ := first.exists_vote spoke
  have same : vote = (vote.1, value) :=
    List.inj_on_of_nodup_map second.once member (inside heard) rfl
  exact same ▸ heard

theorem Hearing.congr {one other votes : List (σ × ν)} (hearing : Hearing one votes)
    (same : ∀ statement, statement ∈ one ↔ statement ∈ other) : Hearing other votes where
  once := hearing.once
  heard := by
    intro source spoke
    obtain ⟨statement, member, rfl⟩ := List.mem_map.mp spoke
    exact hearing.heard _ (List.mem_map_of_mem ((same statement).mpr member))
  spoken := fun vote member => (same vote).mp (hearing.spoken member)

omit [LinearOrder ρ] in
theorem disputed_congr {one other : List (σ × ν)} (same : ∀ vote, vote ∈ one ↔ vote ∈ other) :
    Disputed one ↔ Disputed other := by
  simp only [Disputed, same]

theorem decides_congr {one other : List (σ × ν)} (same : ∀ vote, vote ∈ one ↔ vote ∈ other) (value : ν) :
    Decides rank one value ↔ Decides rank other value := by
  have sources (source : σ) : source ∈ one.map Prod.fst ↔ source ∈ other.map Prod.fst := by
    simp only [List.mem_map, same]
  simp only [Decides, Ranked, Top, sources, same, ne_eq, List.eq_nil_iff_forall_not_mem]

/-- Every hearing decides alike and none conceals a disagreement, exactly when what was
said is settled. -/
theorem settled_iff (rank : σ → Option ρ) (said : List (σ × ν)) :
    ((∀ one other, Hearing said one → Hearing said other →
        (Disputed one ↔ Disputed other) ∧ ∀ value, Decides rank one value ↔ Decides rank other value) ∧
      (Disputed said → ∀ votes, Hearing said votes → Disputed votes)) ↔
    Settled rank said := by
  classical
  constructor
  · intro ⟨alike, unconcealed⟩
    by_contra unsettled
    simp only [Settled, not_or, not_and, not_not] at unsettled
    obtain ⟨mixed, tops⟩ := unsettled
    have disputed : Disputed said := by
      simp only [OneVoice, not_forall] at mixed
      obtain ⟨source, _, one, other, first, second, differ⟩ := mixed
      exact ⟨_, first, _, second, differ⟩
    have uncommon : ¬ ∃ value, Common said (fun _ => True) value := by
      intro ⟨value, common⟩
      obtain ⟨choice, chosen, same⟩ := exists_choice _ value common
      obtain ⟨votes, hearing, follows⟩ := exists_hearing choice chosen
      obtain ⟨one, first, other, second, differ⟩ := unconcealed disputed votes hearing
      rw [follows one first, follows other second, same _ trivial, same _ trivial] at differ
      exact differ rfl
    obtain ⟨ranked, ⟨value, common⟩, mixedTops⟩ := tops uncommon
    obtain ⟨choice, chosen, same⟩ := exists_choice _ value common
    obtain ⟨source, other, top, statement, differs⟩ := exists_other mixedTops value
    have spoke : source ∈ said.map Prod.fst := List.mem_map_of_mem statement
    have nonempty : said ≠ [] := List.ne_nil_of_mem statement
    obtain ⟨votes, hearing, follows⟩ := exists_hearing choice chosen
    have decided : Decides rank votes value := by
      refine (hearing.decides_iff value).mpr ⟨nonempty, .inr ⟨ranked, ?_⟩⟩
      intro vote member inside
      rw [follows vote member, same vote.1 inside]
    -- In the second hearing one source at the top says something else.
    have turned : ∀ speaker ∈ said.map Prod.fst, (speaker, Function.update choice source other speaker) ∈ said := by
      intro speaker inside
      by_cases here : speaker = source
      · simpa [here] using statement
      · simpa [here] using chosen speaker inside
    obtain ⟨others, second, otherwise⟩ := exists_hearing _ turned
    obtain ⟨heard, vote⟩ := second.exists_vote spoke
    obtain rfl : heard = other := by simpa using otherwise _ vote
    have again := ((alike votes others hearing second).2 value).mp decided
    rw [second.decides_iff] at again
    rcases again.2 with agreed | ⟨_, agreed⟩
    · exact differs (agreed _ vote)
    · exact differs (agreed _ vote top)
  · intro settled
    refine ⟨?_, fun disputed votes hearing => hearing.disputed_of_settled settled disputed⟩
    intro one other first second
    rw [first.disputed_iff_of_settled settled, second.disputed_iff_of_settled settled]
    refine ⟨Iff.rfl, fun value => ?_⟩
    rw [first.decides_iff_of_settled settled, second.decides_iff_of_settled settled]

end

end Testimony
