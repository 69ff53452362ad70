import Mathlib.Data.List.Induction

/-!
# Runs of a system

A system takes one step for every event.  An invariant which every step keeps
holds after every run.  If some events publish a value, then what holds of the
state and the last published value can be tracked along a run.
-/

namespace Runs

universe u v w

variable {σ : Type u} {ε : Type v} {β : Type w}

/-- The state after a list of events. -/
def run (step : ε → σ → σ) (events : List ε) (start : σ) : σ :=
  events.foldl (fun state event => step event state) start

/-- The value which a run published last. -/
def lastPublished (publish : ε → Option β) (events : List ε) : Option β :=
  (events.filterMap publish).getLast?

variable {step : ε → σ → σ} {publish : ε → Option β} {start : σ}

@[simp]
theorem run_nil : run step [] start = start :=
  rfl

@[simp]
theorem run_concat (events : List ε) (event : ε) :
    run step (events ++ [event]) start = step event (run step events start) := by
  simp [run]

theorem lastPublished_append (earlier later : List ε) :
    lastPublished publish (earlier ++ later) =
      (lastPublished publish later).or (lastPublished publish earlier) := by
  simp [lastPublished]

theorem lastPublished_cons_of_some {event : ε} {value : β} (published : publish event = some value)
    (events : List ε) :
    lastPublished publish (event :: events) =
      some ((lastPublished publish events).getD value) := by
  rw [← List.singleton_append, lastPublished_append]
  have alone : lastPublished publish [event] = some value := by
    simp [lastPublished, published]
  rw [alone]
  cases lastPublished publish events <;> rfl

theorem mem_of_lastPublished {events : List ε} {value : β}
    (last : lastPublished publish events = some value) : value ∈ events.filterMap publish :=
  List.mem_of_getLast? last

/-- The invariant rule of runs. -/
theorem run_invariant (invariant : σ → Prop) (initially : invariant start)
    (preserved : ∀ event state, invariant state → invariant (step event state))
    (events : List ε) : invariant (run step events start) := by
  induction events using List.reverseRecOn with
  | nil => exact initially
  | append_singleton events event ih =>
      rw [run_concat]
      exact preserved event _ ih

/-- The history rule of runs: a relation between the state and the last
published value holds along a run if it holds initially, if publishing a value
establishes it and if silent events keep it. -/
theorem run_history (linked : σ → Option β → Prop) (initially : linked start none)
    (published : ∀ event state value last, publish event = some value → linked state last →
      linked (step event state) (some value))
    (silent : ∀ event state last, publish event = none → linked state last →
      linked (step event state) last)
    (events : List ε) :
    linked (run step events start) (lastPublished publish events) := by
  induction events using List.reverseRecOn with
  | nil => exact initially
  | append_singleton events event ih =>
      rw [run_concat, lastPublished_append]
      cases outcome : publish event with
      | none =>
          have unchanged : lastPublished publish [event] = none := by
            simp [lastPublished, outcome]
          rw [unchanged, Option.none_or]
          exact silent event _ _ outcome ih
      | some value =>
          have replaced : lastPublished publish [event] = some value := by
            simp [lastPublished, outcome]
          rw [replaced, Option.some_or]
          exact published event _ value _ outcome ih

section Rises

/-- How often a flag rises from one entry of a list to the next. -/
def rises (flags : List Bool) : ℕ :=
  (flags.zip flags.tail).countP fun step => !step.1 && step.2

theorem rises_concat (flags : List Bool) (flag : Bool) :
    rises (flags ++ [flag]) =
      rises flags + if flags.getLast? = some false ∧ flag = true then 1 else 0 := by
  induction flags with
  | nil => simp [rises]
  | cons first rest ih =>
      cases rest with
      | nil => cases first <;> cases flag <;> rfl
      | cons second rest =>
          simp only [rises, List.cons_append, List.tail_cons, List.zip_cons_cons,
            List.countP_cons] at ih ⊢
          rw [ih, List.getLast?_cons_cons]
          omega

end Rises

section Participants

variable {participants : List σ} {number : ℕ} {found : σ}

/-- A participant is known by its number: the one that joins last gets the next one. -/
theorem getElem?_concat_cases {joining : σ}
    (listed : (participants ++ [joining])[number]? = some found) :
    participants[number]? = some found ∨ number = participants.length ∧ found = joining := by
  rcases Nat.lt_or_ge number participants.length with earlier | later
  · exact Or.inl (List.getElem?_append_left earlier ▸ listed)
  · rw [List.getElem?_append_right later, List.getElem?_singleton] at listed
    split at listed
    · next last => exact Or.inr ⟨by omega, (Option.some.inj listed).symm⟩
    · cases listed

/-- When one participant moves on, the others stay where they are. -/
theorem getElem?_set_cases {moving : ℕ} {next : σ}
    (listed : (participants.set moving next)[number]? = some found) :
    participants[number]? = some found ∨ moving = number ∧ found = next := by
  rw [List.getElem?_set] at listed
  split at listed
  · next same =>
      split at listed
      · exact Or.inr ⟨same, (Option.some.inj listed).symm⟩
      · cases listed
  · exact Or.inl listed

end Participants

section Traces

/-- Every event of a trace has a property which depends on the events before it. -/
def Explained (holds : List ε → ε → Prop) (trace : List ε) : Prop :=
  ∀ before event after, trace = before ++ event :: after → holds before event

variable {holds : List ε → ε → Prop}

theorem explained_nil : Explained holds [] := by
  intro before event after empty
  exact absurd empty (by simp)

theorem explained_concat {trace : List ε} {event : ε} (earlier : Explained holds trace)
    (now : holds trace event) : Explained holds (trace ++ [event]) := by
  intro before other after split
  rcases List.append_eq_append_iff.mp split with ⟨rest, equal, tail⟩ | ⟨rest, equal, tail⟩
  · cases rest with
    | nil =>
        rw [List.append_nil] at equal
        cases tail
        exact equal ▸ now
    | cons first rest =>
        have short := congrArg List.length tail
        simp at short
  · cases rest with
    | nil =>
        rw [List.append_nil] at equal
        cases tail
        exact equal ▸ now
    | cons first rest =>
        cases tail
        exact earlier before other rest equal

/-- It suffices to look at the events one after the other. -/
theorem explained_of_take {trace : List ε}
    (each : ∀ i (inside : i < trace.length), holds (trace.take i) (trace.get ⟨i, inside⟩)) :
    Explained holds trace := by
  rintro before event after rfl
  have now := each before.length (by simp)
  simpa using now

theorem explained_map {ι : Type w} {f : ι → ε} {items : List ι} :
    Explained holds (items.map f) ↔
      Explained (fun before item => holds (before.map f) (f item)) items := by
  constructor
  · intro explained before item after split
    apply explained (before.map f) (f item) (after.map f)
    rw [split, List.map_append, List.map_cons]
  · intro explained before event after split
    rcases List.map_eq_append_iff.mp split with ⟨front, back, same, rfl, tail⟩
    rcases List.map_eq_cons_iff.mp tail with ⟨item, rest, rfl, rfl, _⟩
    exact explained front item rest same

theorem Explained.of_append {trace rest : List ε} (explained : Explained holds (trace ++ rest)) :
    Explained holds trace := by
  intro before event after split
  apply explained before event (after ++ rest)
  rw [split, List.append_assoc, List.cons_append]

theorem Explained.init {trace : List ε} {event : ε}
    (explained : Explained holds (trace ++ [event])) : Explained holds trace :=
  explained.of_append

theorem Explained.last {trace : List ε} {event : ε}
    (explained : Explained holds (trace ++ [event])) : holds trace event :=
  explained trace event [] rfl

/-- The invariant rule of runs whose steps all meet a condition on the state before
the step. -/
theorem run_invariant_of_explained {condition : σ → ε → Prop} (invariant : σ → Prop)
    (initially : invariant start)
    (preserved : ∀ event state, invariant state → condition state event →
      invariant (step event state))
    {events : List ε}
    (met : Explained (fun before event => condition (run step before start) event) events) :
    invariant (run step events start) := by
  induction events using List.reverseRecOn with
  | nil => exact initially
  | append_singleton events event ih =>
      rw [run_concat]
      exact preserved event _ (ih met.init) met.last

end Traces

end Runs
