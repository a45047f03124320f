/-!
# Listeners

Listeners are registered under identifiers that are given out in order, 64 bits wide, so
that none is used twice before all have been used.  Events are delivered in order, each one
to every listener that was registered when the delivery began, in the order of
registration.  What a callback changes in the registry counts from the next delivery on.
-/

namespace LiveConfig

structure ListenerId where
  number : UInt64
  deriving DecidableEq, Inhabited

structure Listeners (α : Type) where
  entries : List (ListenerId × α) := []
  /-- The number of the identifier that is given out next. -/
  next : UInt64 := 0
  deriving Inhabited

/-- How a callback ends; the state is what it has changed till then. -/
inductive CallOutcome (σ : Type)
  | returned (state : σ)
  | panicked (state : σ)
  deriving Inhabited

def CallOutcome.state : CallOutcome σ → σ
  | returned state => state
  | panicked state => state

namespace Listeners

variable {α : Type}

def toList (listeners : Listeners α) : List α := listeners.entries.map (·.2)

def contains (listeners : Listeners α) (id : ListenerId) : Bool :=
  listeners.entries.any fun entry => entry.1 == id

def add (listeners : Listeners α) (listener : α) : Listeners α × ListenerId :=
  let id : ListenerId := ⟨listeners.next⟩
  (⟨listeners.entries ++ [(id, listener)], listeners.next + 1⟩, id)

def addAll (listeners : Listeners α) (more : List α) : Listeners α :=
  more.foldl (fun listeners listener => (listeners.add listener).1) listeners

/-- Removes a listener, and tells whether it was registered. -/
def remove (listeners : Listeners α) (id : ListenerId) : Listeners α × Bool :=
  ({ listeners with entries := listeners.entries.filter fun entry => entry.1 != id },
    listeners.contains id)

/-- The calls that a delivery of events makes, in order. -/
def calls (listeners : Listeners α) (events : List ε) : List (α × ε) :=
  events.flatMap fun event => listeners.toList.map fun listener => (listener, event)

/-- Delivers events; a callback that panics does not keep the others from being
called. -/
def notify (listeners : Listeners α) (events : List ε) (call : α → ε → σ → CallOutcome σ)
    (state : σ) : σ :=
  (listeners.calls events).foldl (fun state (listener, event) => (call listener event state).state)
    state

end Listeners
end LiveConfig
