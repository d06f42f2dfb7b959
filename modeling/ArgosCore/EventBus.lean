import ArgosCore.Foundations.Dict
import ArgosCore.Foundations.Json

/-! The event bus in memory. A publication calls the handlers of its subject one after the other,
before `publish` returns. Handlers are arbitrary code: while one runs it may subscribe others,
publish again, and raise; an error leaves the publications that it passes through. -/

namespace ArgosCore

structure Message where
  subject : String
  payload : Json.Object

structure InMemoryEventBus (Handler : Type) where
  handlers : Dict (List Handler) := []
  published : List Message := []

namespace InMemoryEventBus
variable {Handler : Type}

/-- `self._handlers.get(subject, [])` -/
def subscribers (bus : InMemoryEventBus Handler) (subject : String) : List Handler :=
  (bus.handlers.lookup subject).getD []

def subscribe (bus : InMemoryEventBus Handler) (subject : String) (handler : Handler) : InMemoryEventBus Handler :=
  { bus with handlers := bus.handlers.set subject (bus.subscribers subject ++ [handler]) }

end InMemoryEventBus

/-- A call of `publish` that has not returned: which publication it is, and how many handlers it has called. -/
structure Delivery where
  publication : Nat
  message : Message
  position : Nat

/-- The bus while code runs on it. The innermost delivery comes first; `running` says that
code outside of `publish` is in control, the caller's or that of the handler called last. -/
structure BusState (Handler : Type) where
  bus : InMemoryEventBus Handler := {}
  stack : List Delivery := []
  running : Bool := true
  calls : List (Nat × Handler) := []

/-- What can happen next. Code subscribes, publishes, returns or raises; a delivery calls
its next handler or, after the last one, returns. -/
inductive BusAction (Handler : Type) where
  | subscribe (subject : String) (handler : Handler)
  | publish (subject : String) (payload : Json.Object)
  | finish
  | throw
  | callNext
  | leave

namespace BusState
variable {Handler : Type}

def step (state : BusState Handler) : BusAction Handler → Option (BusState Handler)
  | .subscribe subject handler =>
    if state.running then some { state with bus := state.bus.subscribe subject handler } else none
  | .publish subject payload =>
    if state.running then
      let message := { subject, payload }
      some { state with
        bus := { state.bus with published := state.bus.published ++ [message] }
        stack := { publication := state.bus.published.length, message, position := 0 } :: state.stack
        running := false }
    else none
  | .finish =>
    match state.stack with
    | [] => none
    | _ :: _ => if state.running then some { state with running := false } else none
  | .throw =>
    -- The error ends the loop of the publication that called the handler; the code below may catch it.
    match state.stack with
    | [] => none
    | _ :: outer => if state.running then some { state with stack := outer } else none
  | .callNext =>
    match state.stack with
    | [] => none
    | delivery :: outer =>
      if state.running then none
      else
        -- The list of handlers is read again: it may have grown since the last call.
        match (state.bus.subscribers delivery.message.subject)[delivery.position]? with
        | none => none
        | some handler => some { state with
          stack := { delivery with position := delivery.position + 1 } :: outer
          running := true
          calls := state.calls ++ [(delivery.publication, handler)] }
  | .leave =>
    match state.stack with
    | [] => none
    | delivery :: outer =>
      if state.running ∨ delivery.position < (state.bus.subscribers delivery.message.subject).length then none
      else some { state with stack := outer, running := true }

def run (state : BusState Handler) (actions : List (BusAction Handler)) : Option (BusState Handler) :=
  actions.foldlM step state

def deliveredTo (state : BusState Handler) (publication : Nat) : List Handler :=
  state.calls.filterMap fun call => if call.1 = publication then some call.2 else none

end BusState

end ArgosCore
