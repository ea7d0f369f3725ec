/-!
# Effects: what one signal does to the counter

* `Effect.delta` : the change by one signal;
* `Effect.name` : the name of the producer whose signals have this effect;
* `Effect.all`, `Effect.index` : the effects in their fixed order (`Effect.all_getElem_index`).
-/

namespace SharedCounter

/-- What a signal does to the counter. A signal carries nothing else. -/
inductive Effect where
  | increment
  | decrement
  deriving DecidableEq, Repr

namespace Effect

/-- The change that one signal makes. -/
def delta : Effect → Int
  | increment => 1
  | decrement => -1

/-- The name of the producer of these signals. -/
def name : Effect → String
  | increment => "incrementer"
  | decrement => "decrementer"

/-- The name of the effect itself. -/
def title : Effect → String
  | increment => "Increment"
  | decrement => "Decrement"

/-- Every effect, in the order in which their producers are started. -/
def all : List Effect := [increment, decrement]

/-- The place of an effect in `all`. -/
def index : Effect → Nat
  | increment => 0
  | decrement => 1

theorem all_getElem_index (e : Effect) : all[e.index]? = some e := by cases e <;> rfl

theorem mem_all (e : Effect) : e ∈ all := by cases e <;> simp [all]

theorem name_injective {a b : Effect} (h : a.name = b.name) : a = b := by
  cases a <;> cases b <;> simp_all [name]

end Effect

end SharedCounter
