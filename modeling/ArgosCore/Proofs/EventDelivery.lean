import ArgosCore.EventBus
import Mathlib.Data.List.Infix
import Mathlib.Data.List.Nodup

/-! Deliveries of the event bus. Whatever the handlers do, a publication that ends is delivered to
the handlers of its subject in their order, once for each subscription, and never again afterwards. -/

namespace ArgosCore.Proofs

variable {Handler : Type}

@[simp] theorem subscribers_subscribe (bus : InMemoryEventBus Handler) (subject other : String) (handler : Handler) :
    (bus.subscribe subject handler).subscribers other =
      if other = subject then bus.subscribers subject ++ [handler] else bus.subscribers other := by
  by_cases same : other = subject <;> simp [InMemoryEventBus.subscribe, InMemoryEventBus.subscribers, same]

inductive BusSteps : BusState Handler → BusAction Handler → BusState Handler → Prop where
  | subscribe {state : BusState Handler} (subject : String) (handler : Handler) :
    BusSteps state (.subscribe subject handler) { state with bus := state.bus.subscribe subject handler }
  | publish {state : BusState Handler} (subject : String) (payload : Json.Object) (running : state.running = true) :
    BusSteps state (.publish subject payload)
      { state with
        bus := { state.bus with published := state.bus.published ++ [{ subject, payload }] }
        stack := { publication := state.bus.published.length, message := { subject, payload }, position := 0 } :: state.stack
        running := false }
  | finish {state : BusState Handler} (running : state.running = true) : BusSteps state .finish { state with running := false }
  | throw {state : BusState Handler} {delivery : Delivery} {outer : List Delivery} (top : state.stack = delivery :: outer)
    (running : state.running = true) : BusSteps state .throw { state with stack := outer }
  | callNext {state : BusState Handler} {delivery : Delivery} {outer : List Delivery} {handler : Handler}
    (top : state.stack = delivery :: outer) (waiting : state.running = false)
    (next : (state.bus.subscribers delivery.message.subject)[delivery.position]? = some handler) :
    BusSteps state .callNext
      { state with
        stack := { delivery with position := delivery.position + 1 } :: outer
        running := true
        calls := state.calls ++ [(delivery.publication, handler)] }
  | leave {state : BusState Handler} {delivery : Delivery} {outer : List Delivery} (top : state.stack = delivery :: outer)
    (waiting : state.running = false) (reached : (state.bus.subscribers delivery.message.subject).length ≤ delivery.position) :
    BusSteps state .leave { state with stack := outer, running := true }

theorem steps_of_step {state next : BusState Handler} {action : BusAction Handler} (stepped : state.step action = some next) :
    BusSteps state action next := by
  cases action with
  | subscribe subject handler =>
    simp only [BusState.step] at stepped
    split at stepped <;> cases stepped
    exact .subscribe subject handler
  | publish subject payload =>
    simp only [BusState.step] at stepped
    split at stepped <;> cases stepped
    next running => exact .publish subject payload running
  | finish =>
    simp only [BusState.step] at stepped
    split at stepped
    · cases stepped
    · split at stepped <;> cases stepped
      next running => exact .finish running
  | throw =>
    simp only [BusState.step] at stepped
    split at stepped
    · cases stepped
    · next top =>
      split at stepped <;> cases stepped
      next running => exact .throw top running
  | callNext =>
    simp only [BusState.step] at stepped
    split at stepped
    · cases stepped
    · next top =>
      split at stepped
      · cases stepped
      · next waiting =>
        split at stepped <;> cases stepped
        next found => exact .callNext top (Bool.eq_false_iff.mpr waiting) found
  | leave =>
    simp only [BusState.step] at stepped
    split at stepped
    · cases stepped
    · next top =>
      split at stepped <;> cases stepped
      next ended => exact .leave top (Bool.eq_false_iff.mpr (not_or.mp ended).1) (not_lt.mp (not_or.mp ended).2)

theorem BusSteps.subscribers {state next : BusState Handler} {action : BusAction Handler} (steps : BusSteps state action next)
    (subject : String) : state.bus.subscribers subject <+: next.bus.subscribers subject := by
  cases steps with
  | subscribe other handler =>
    rw [subscribers_subscribe]
    split
    · next same => exact same ▸ List.prefix_append _ _
    · exact List.prefix_refl _
  | publish | finish | throw | callNext | leave => exact List.prefix_refl _

theorem BusSteps.published {state next : BusState Handler} {action : BusAction Handler} (steps : BusSteps state action next) :
    state.bus.published <+: next.bus.published := by
  cases steps with
  | publish => exact List.prefix_append _ _
  | subscribe | finish | throw | callNext | leave => exact List.prefix_refl _

structure InProgress (state : BusState Handler) (delivery : Delivery) : Prop where
  message : state.bus.published[delivery.publication]? = some delivery.message
  reached : delivery.position ≤ (state.bus.subscribers delivery.message.subject).length
  delivered : state.deliveredTo delivery.publication =
    (state.bus.subscribers delivery.message.subject).take delivery.position

/-- What every run keeps: calls belong to publications, and each open delivery is one of its own. -/
structure BusConsistent (state : BusState Handler) : Prop where
  known : ∀ call ∈ state.calls, call.1 < state.bus.published.length
  opened : ∀ delivery ∈ state.stack, InProgress state delivery
  called : ∀ delivery ∈ if state.running then state.stack else state.stack.tail, 0 < delivery.position
  distinct : (state.stack.map Delivery.publication).Nodup

theorem InProgress.lt {state : BusState Handler} {delivery : Delivery} (inProgress : InProgress state delivery) :
    delivery.publication < state.bus.published.length :=
  (List.getElem?_eq_some_iff.mp inProgress.message).1

theorem InProgress.frame {state next : BusState Handler} {action : BusAction Handler} {delivery : Delivery}
    (inProgress : InProgress state delivery) (steps : BusSteps state action next)
    (untouched : next.deliveredTo delivery.publication = state.deliveredTo delivery.publication) :
    InProgress next delivery := by
  obtain ⟨joined, extended⟩ := steps.subscribers delivery.message.subject
  constructor
  · obtain ⟨later, grown⟩ := steps.published
    rw [← grown, List.getElem?_append_left inProgress.lt]
    exact inProgress.message
  · rw [← extended, List.length_append]
    exact le_trans inProgress.reached (Nat.le_add_right ..)
  · rw [untouched, inProgress.delivered, ← extended, List.take_append_of_le_length inProgress.reached]

theorem deliveredTo_append (state : BusState Handler) (bus : InMemoryEventBus Handler) (stack : List Delivery) (running : Bool)
    (publication other : Nat) (handler : Handler) :
    BusState.deliveredTo { bus, stack, running, calls := state.calls ++ [(publication, handler)] } other =
      state.deliveredTo other ++ if publication = other then [handler] else [] := by
  rw [BusState.deliveredTo, List.filterMap_append, BusState.deliveredTo]
  congr 1
  by_cases same : publication = other <;> simp [same]

theorem BusSteps.deliveredTo {state next : BusState Handler} {action : BusAction Handler} (steps : BusSteps state action next)
    {publication : Nat} (apart : ∀ delivery outer, state.stack = delivery :: outer → delivery.publication ≠ publication) :
    next.deliveredTo publication = state.deliveredTo publication := by
  cases steps with
  | callNext top _ _ => rw [deliveredTo_append, if_neg (apart _ _ top), List.append_nil]
  | subscribe | publish | finish | throw | leave => rfl

theorem BusConsistent.deliveredTo_fresh {state : BusState Handler} (consistent : BusConsistent state) {publication : Nat}
    (fresh : state.bus.published.length ≤ publication) : state.deliveredTo publication = [] := by
  refine List.filterMap_eq_nil_iff.mpr fun call inside => if_neg fun same => ?_
  exact absurd (consistent.known call inside) (not_lt.mpr (same ▸ fresh))

theorem BusConsistent.step {state next : BusState Handler} {action : BusAction Handler} (consistent : BusConsistent state)
    (steps : BusSteps state action next) : BusConsistent next := by
  have frame {delivery : Delivery} (inside : delivery ∈ state.stack)
      (untouched : next.deliveredTo delivery.publication = state.deliveredTo delivery.publication) :
      InProgress next delivery := (consistent.opened delivery inside).frame steps untouched
  have known : ∀ call ∈ state.calls, call.1 < next.bus.published.length := fun call inside =>
    lt_of_lt_of_le (consistent.known call inside) steps.published.length_le
  cases steps with
  | subscribe subject handler =>
    exact ⟨known, fun delivery inside => frame inside rfl, consistent.called, consistent.distinct⟩
  | publish subject payload running =>
    have called := consistent.called
    rw [if_pos running] at called
    refine ⟨known, ?_, called, ?_⟩
    · intro delivery inside
      rcases List.mem_cons.mp inside with rfl | older
      · refine ⟨by simp, Nat.zero_le _, ?_⟩
        rw [List.take_zero]
        exact consistent.deliveredTo_fresh (le_refl _)
      · exact frame older rfl
    · refine List.nodup_cons.mpr ⟨fun repeated => ?_, consistent.distinct⟩
      obtain ⟨older, inside, same⟩ := List.mem_map.mp repeated
      exact absurd (consistent.opened older inside).lt (by rw [same]; exact lt_irrefl _)
  | finish running =>
    have called := consistent.called
    rw [if_pos running] at called
    exact ⟨known, fun delivery inside => frame inside rfl, fun delivery inside => called delivery (List.mem_of_mem_tail inside),
      consistent.distinct⟩
  | throw top running =>
    have called := consistent.called
    have distinct := consistent.distinct
    rw [if_pos running, top] at called
    rw [top] at frame distinct
    refine ⟨known, fun delivery inside => frame (List.mem_cons_of_mem _ inside) rfl, ?_, (List.nodup_cons.mp distinct).2⟩
    rw [if_pos running]
    exact fun delivery inside => called delivery (List.mem_cons_of_mem _ inside)
  | leave top waiting _ =>
    have called := consistent.called
    have distinct := consistent.distinct
    rw [if_neg (by simp [waiting]), top] at called
    rw [top] at frame distinct
    exact ⟨known, fun delivery inside => frame (List.mem_cons_of_mem _ inside) rfl, called, (List.nodup_cons.mp distinct).2⟩
  | @callNext delivery outer handler top waiting found =>
    have own := consistent.opened delivery (by rw [top]; exact List.mem_cons_self)
    have called := consistent.called
    have distinct := consistent.distinct
    rw [if_neg (by simp [waiting]), top] at called
    rw [top] at distinct frame
    refine ⟨?_, ?_, List.forall_mem_cons.mpr ⟨Nat.succ_pos _, called⟩, distinct⟩
    · intro call inside
      rcases List.mem_append.mp inside with older | new
      · exact known call older
      · obtain rfl := List.mem_singleton.mp new
        exact own.lt
    · intro other inside
      rcases List.mem_cons.mp inside with rfl | older
      · refine ⟨own.message, (List.getElem?_eq_some_iff.mp found).1, ?_⟩
        rw [deliveredTo_append, if_pos rfl, own.delivered, List.take_add_one, found]
        rfl
      · refine frame (List.mem_cons_of_mem _ older) ?_
        have apart : delivery.publication ≠ other.publication := by
          intro same
          exact (List.nodup_cons.mp distinct).1 (same ▸ List.mem_map_of_mem older)
        rw [deliveredTo_append, if_neg apart, List.append_nil]

theorem bus_run_induction {motive : BusState Handler → Prop}
    (kept : ∀ state action next, motive state → BusSteps state action next → motive next)
    {state final : BusState Handler} {actions : List (BusAction Handler)} (ran : state.run actions = some final)
    (start : motive state) : motive final := by
  induction actions generalizing state with
  | nil =>
    obtain rfl := Option.some.inj ran
    exact start
  | cons action actions ih =>
    obtain ⟨next, stepped, rest⟩ := Option.bind_eq_some_iff.mp ran
    exact ih rest (kept state action next start (steps_of_step stepped))

theorem run_busConsistent {final : BusState Handler} {actions : List (BusAction Handler)}
    (ran : BusState.run {} actions = some final) : BusConsistent final :=
  bus_run_induction (fun _ _ _ consistent steps => consistent.step steps) ran ⟨nofun, nofun, nofun, List.nodup_nil⟩

structure Ended (state : BusState Handler) (publication : Nat) : Prop where
  known : publication < state.bus.published.length
  closed : publication ∉ state.stack.map Delivery.publication

theorem Ended.step {state next : BusState Handler} {action : BusAction Handler} {publication : Nat}
    (ended : Ended state publication) (steps : BusSteps state action next) :
    Ended next publication ∧ next.deliveredTo publication = state.deliveredTo publication := by
  have known := lt_of_lt_of_le ended.known steps.published.length_le
  have closed := ended.closed
  refine ⟨⟨known, ?_⟩, steps.deliveredTo fun delivery outer top same => closed ?_⟩
  · cases steps with
    | subscribe | finish => exact closed
    | publish =>
      refine fun inside => (List.mem_cons.mp inside).elim (fun same => ?_) closed
      exact absurd ended.known (by rw [same]; exact lt_irrefl _)
    | throw top | leave top =>
      rw [top] at closed
      exact fun inside => closed (List.mem_cons_of_mem _ inside)
    | callNext top =>
      rw [top] at closed
      exact closed
  · rw [top]
    exact List.mem_map.mpr ⟨delivery, List.mem_cons_self, same⟩

theorem Ended.run {state final : BusState Handler} {actions : List (BusAction Handler)} {publication : Nat}
    (ended : Ended state publication) (ran : state.run actions = some final) :
    final.deliveredTo publication = state.deliveredTo publication := by
  have kept := bus_run_induction (motive := fun next =>
      Ended next publication ∧ next.deliveredTo publication = state.deliveredTo publication)
    (fun _ _ _ held steps => ⟨(held.1.step steps).1, (held.1.step steps).2.trans held.2⟩) ran ⟨ended, rfl⟩
  exact kept.2

theorem run_subscribers {state final : BusState Handler} {actions : List (BusAction Handler)}
    (ran : state.run actions = some final) (subject : String) :
    state.bus.subscribers subject <+: final.bus.subscribers subject :=
  bus_run_induction (motive := fun next => state.bus.subscribers subject <+: next.bus.subscribers subject)
    (fun _ _ _ held steps => held.trans (steps.subscribers subject)) ran (List.prefix_refl _)

theorem run_published {state final : BusState Handler} {actions : List (BusAction Handler)}
    (ran : state.run actions = some final) : state.bus.published <+: final.bus.published :=
  bus_run_induction (motive := fun next => state.bus.published <+: next.bus.published)
    (fun _ _ _ held steps => held.trans steps.published) ran (List.prefix_refl _)

/-- What comes of a publication, in any run. If it returns, it was delivered to the handlers of its subject
in order, to those that joined while it lasted as well; if a handler raises, to the handlers up to
that one. Nothing that happens later adds to it. -/
theorem publication_delivered {before middle after : List (BusAction Handler)}
    {opened sent working ended final : BusState Handler} {subject : String} {payload : Json.Object} {delivery : Delivery}
    {outer : List Delivery} {ending : BusAction Handler} (reached : BusState.run {} before = some opened)
    (published : opened.step (.publish subject payload) = some sent) (ran : sent.run middle = some working)
    (innermost : working.stack = delivery :: outer) (own : delivery.publication = opened.bus.published.length)
    (ends : working.step ending = some ended) (later : ended.run after = some final) :
    ∃ joined, working.bus.subscribers subject = opened.bus.subscribers subject ++ joined ∧
      (ending = .leave →
        final.deliveredTo opened.bus.published.length = opened.bus.subscribers subject ++ joined) ∧
      (ending = .throw → 0 < delivery.position ∧
        final.deliveredTo opened.bus.published.length =
          (opened.bus.subscribers subject ++ joined).take delivery.position) := by
  have published := steps_of_step published
  have consistent : BusConsistent working :=
    bus_run_induction (fun _ _ _ consistent steps => consistent.step steps) ran ((run_busConsistent reached).step published)
  have inProgress := consistent.opened delivery (by rw [innermost]; exact List.mem_cons_self)
  obtain ⟨joined, grown⟩ : opened.bus.subscribers subject <+: working.bus.subscribers subject :=
    (published.subscribers subject).trans (run_subscribers ran subject)
  have message : delivery.message = { subject, payload } := by
    have kept := inProgress.message
    obtain ⟨rest, messages⟩ := run_published ran
    cases published with
    | publish => simpa [← messages, own, eq_comm] using kept
  have closed : delivery.publication ∉ outer.map Delivery.publication := by
    have distinct := consistent.distinct
    rw [innermost] at distinct
    exact (List.nodup_cons.mp distinct).1
  have delivered := inProgress.delivered
  rw [message, ← grown] at delivered
  refine ⟨joined, grown.symm, ?_, ?_⟩
  · rintro rfl
    cases steps_of_step ends with
    | leave top waiting complete =>
      obtain ⟨rfl, rfl⟩ := List.cons.inj (innermost.symm.trans top)
      rw [message, ← grown] at complete
      have settled : Ended { working with stack := outer, running := true } delivery.publication :=
        ⟨inProgress.lt, closed⟩
      rw [← own, settled.run later]
      exact delivered.trans (List.take_of_length_le complete)
  · rintro rfl
    cases steps_of_step ends with
    | throw top running =>
      obtain ⟨rfl, rfl⟩ := List.cons.inj (innermost.symm.trans top)
      have called := consistent.called
      rw [if_pos running, innermost] at called
      have settled : Ended { working with stack := outer } delivery.publication := ⟨inProgress.lt, closed⟩
      rw [← own, settled.run later]
      exact ⟨called delivery List.mem_cons_self, delivered⟩

/-- The first handler subscribes a third one while the alert is delivered; all three get the alert once. -/
theorem publication_delivered_alert :
    ∃ final, BusState.run {} ([.subscribe "alerts" 1, .subscribe "alerts" 2, .publish "alerts" [], .callNext,
        .subscribe "alerts" 3, .finish, .callNext, .finish, .callNext, .finish, .leave] : List (BusAction Nat)) = some final ∧
      final.deliveredTo 0 = [1, 2, 3] := by
  refine ⟨_, rfl, ?_⟩
  have alerted := publication_delivered
    (show BusState.run {} ([.subscribe "alerts" 1, .subscribe "alerts" 2] : List (BusAction Nat)) = some _ from rfl)
    (show BusState.step _ (.publish "alerts" []) = some _ from rfl)
    (show BusState.run _ [.callNext, .subscribe "alerts" 3, .finish, .callNext, .finish, .callNext, .finish] = some _ from rfl)
    rfl rfl (show BusState.step _ .leave = some _ from rfl) (show BusState.run _ [] = some _ from rfl)
  obtain ⟨joined, subscribed, returned, _⟩ := alerted
  obtain rfl : [3] = joined := List.append_cancel_left (show [1, 2] ++ [3] = [1, 2] ++ joined from subscribed)
  exact returned rfl

end ArgosCore.Proofs
