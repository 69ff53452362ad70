import DmarcReportViewer.Lib.Runs

/-!
# Lookups which share a cache

Any number of calls look up keys.  A call checks the cache, asks a source if the key is not
cached, and then caches the answer if there is something to cache.  The steps of the calls
are interleaved with each other and with steps of an environment, which works on the state
that holds the cache.  Every result belongs to the key that was asked for, and what the
environment does to its part of the state is not disturbed.
-/

namespace CachedLookups

open Runs

universe u v w x y z

variable {σ : Type u} {κ : Type v} {β : Type w} {ρ : Type x} {ν : Type y} {η : Type z} {ι : Type}

/-- A state with a cache.  The insertion may make some arbitrary choice. -/
structure Store (σ : Type u) (κ : Type v) (β : Type w) (ι : Type) where
  get : σ → κ → Option β
  insert : ι → κ → β → σ → σ
  get_insert : ∀ choice key value state other found,
    get (insert choice key value state) other = some found →
      (key = other ∧ value = found) ∨ get state other = some found

/-- Where the answers come from, what is cached of them, and what the environment does. -/
structure Setting (σ : Type u) (κ : Type v) (β : Type w) (ρ : Type x) (ν : Type y) (η : Type z)
    (ι : Type) extends Store σ κ β ι where
  ask : ν → κ → Option ρ
  cacheable : ρ → Option β
  ofCached : β → ρ
  ofCached_eq : ∀ answer value, cacheable answer = some value → ofCached value = answer
  act : η → σ → σ
  get_act : ∀ event state key, get (act event state) key = get state key

/-- How far a call has come. -/
inductive Call (κ : Type v) (β : Type w) (ρ : Type x) where
  | checking (key : κ)
  | querying (key : κ)
  | inserting (key : κ) (value : β) (answer : ρ)
  | returned (key : κ) (answer : ρ)

def Call.key : Call κ β ρ → κ
  | .checking key => key
  | .querying key => key
  | .inserting key _ _ => key
  | .returned key _ => key

/-- What can be observed.  A call is known by the number of the calls before it. -/
inductive Observation (κ : Type v) (ρ : Type x) where
  | called (call : ℕ) (key : κ)
  | queried (call : ℕ) (key : κ) (answer : ρ)
  | returned (call : ℕ) (key : κ) (answer : ρ)

structure System (σ : Type u) (κ : Type v) (β : Type w) (ρ : Type x) where
  state : σ
  calls : List (Call κ β ρ)
  trace : List (Observation κ ρ)

def start (state : σ) : System σ κ β ρ where
  state := state
  calls := []
  trace := []

inductive Action (κ : Type v) (ν : Type y) (η : Type z) (ι : Type) where
  | call (key : κ)
  | check (call : ℕ)
  | query (call : ℕ) (world : ν)
  | insert (call : ℕ) (choice : ι)
  | environment (event : η)

/-- One step.  A step which is not the next one of its call does not happen, nor does a
query to which there is no answer. -/
def step (setting : Setting σ κ β ρ ν η ι) (action : Action κ ν η ι)
    (system : System σ κ β ρ) : System σ κ β ρ :=
  match action with
  | .call key =>
      { system with
        calls := system.calls ++ [.checking key]
        trace := system.trace ++ [.called system.calls.length key] }
  | .check call =>
      match system.calls[call]? with
      | some (.checking key) =>
          match setting.get system.state key with
          | some cached =>
              { system with
                calls := system.calls.set call (.returned key (setting.ofCached cached))
                trace := system.trace ++ [.returned call key (setting.ofCached cached)] }
          | none => { system with calls := system.calls.set call (.querying key) }
      | _ => system
  | .query call world =>
      match system.calls[call]? with
      | some (.querying key) =>
          match setting.ask world key with
          | some answer =>
              match setting.cacheable answer with
              | some value =>
                  { system with
                    calls := system.calls.set call (.inserting key value answer)
                    trace := system.trace ++ [.queried call key answer] }
              | none =>
                  { system with
                    calls := system.calls.set call (.returned key answer)
                    trace := system.trace ++ [.queried call key answer] ++
                      [.returned call key answer] }
          | none => system
      | _ => system
  | .insert call choice =>
      match system.calls[call]? with
      | some (.inserting key value answer) =>
          { system with
            state := setting.insert choice key value system.state
            calls := system.calls.set call (.returned key answer)
            trace := system.trace ++ [.returned call key answer] }
      | _ => system
  | .environment event => { system with state := setting.act event system.state }

/-- A result is the answer to the call's own query, or an answer to an earlier query for the
same key which was worth caching. -/
def Owned (setting : Setting σ κ β ρ ν η ι) (before : List (Observation κ ρ)) :
    Observation κ ρ → Prop
  | .called _ _ => True
  | .queried _ key answer => ∃ world, setting.ask world key = some answer
  | .returned call key answer =>
      .called call key ∈ before ∧
        (.queried call key answer ∈ before ∨
          ∃ other, (setting.cacheable answer).isSome ∧ .queried other key answer ∈ before)

/-- What the cache and the calls in progress stand for. -/
structure Sound (setting : Setting σ κ β ρ ν η ι) (system : System σ κ β ρ) : Prop where
  cached : ∀ key value, setting.get system.state key = some value →
    ∃ call answer, setting.cacheable answer = some value ∧
      .queried call key answer ∈ system.trace
  called : ∀ (number : ℕ) (call : Call κ β ρ), system.calls[number]? = some call →
    .called number call.key ∈ system.trace
  queried : ∀ (number : ℕ) (key : κ) (value : β) (answer : ρ),
    system.calls[number]? = some (.inserting key value answer) →
      setting.cacheable answer = some value ∧ .queried number key answer ∈ system.trace
  explained : Explained (Owned setting) system.trace

section Steps

variable {setting : Setting σ κ β ρ ν η ι} {system : System σ κ β ρ}

theorem sound_start {state : σ} (empty : ∀ key, setting.get state key = none) :
    Sound setting (start state) where
  cached := by
    intro key value found
    rw [start, empty] at found
    cases found
  called := by
    intro number call found
    simp [start] at found
  queried := by
    intro number key value answer found
    simp [start] at found
  explained := explained_nil

/-- A call moves on with its key, and its step is recorded. -/
theorem Sound.move (sound : Sound setting system) {number : ℕ} {call : Call κ β ρ}
    (current : system.calls[number]? = some call) (next : Call κ β ρ) (same : next.key = call.key)
    (observations : List (Observation κ ρ))
    (own : ∀ key value answer, next = .inserting key value answer →
      setting.cacheable answer = some value ∧ .queried number key answer ∈ observations)
    (explained : Explained (Owned setting) (system.trace ++ observations)) :
    Sound setting
      { system with
        calls := system.calls.set number next
        trace := system.trace ++ observations } where
  cached := by
    intro key value found
    rcases sound.cached key value found with ⟨origin, answer, worth, listed⟩
    exact ⟨origin, answer, worth, List.mem_append_left _ listed⟩
  called := by
    intro index other found
    apply List.mem_append_left
    rcases getElem?_set_cases found with before | ⟨rfl, rfl⟩
    · exact sound.called index other before
    · rw [same]
      exact sound.called number call current
  queried := by
    intro index key value answer found
    rcases getElem?_set_cases found with before | ⟨rfl, moved⟩
    · rcases sound.queried index key value answer before with ⟨worth, listed⟩
      exact ⟨worth, List.mem_append_left _ listed⟩
    · rcases own key value answer moved.symm with ⟨worth, listed⟩
      exact ⟨worth, List.mem_append_right _ listed⟩
  explained := explained

/-- A state in which nothing more is cached is as good as the one before. -/
theorem Sound.withState (sound : Sound setting system) {state : σ}
    (cached : ∀ key value, setting.get state key = some value →
      ∃ call answer, setting.cacheable answer = some value ∧
        .queried call key answer ∈ system.trace) :
    Sound setting { system with state := state } where
  cached := cached
  called := sound.called
  queried := sound.queried
  explained := sound.explained

theorem Sound.check (sound : Sound setting system) (number : ℕ) :
    Sound setting (step setting (.check number) system) := by
  simp only [step]
  split
  · next key current =>
      have called := sound.called number _ current
      split
      · next cached hit =>
          rcases sound.cached key cached hit with ⟨origin, answer, worth, queried⟩
          have same := setting.ofCached_eq answer cached worth
          have explained : Explained (Owned setting)
              (system.trace ++ [.returned number key (setting.ofCached cached)]) := by
            refine explained_concat sound.explained ⟨called, Or.inr ⟨origin, ?_, ?_⟩⟩
            · rw [same, worth]
              rfl
            · rw [same]
              exact queried
          exact sound.move current (.returned key (setting.ofCached cached)) rfl _
            (by intro _ _ _ impossible; cases impossible) explained
      · have moved := sound.move current (.querying key) rfl []
          (by intro _ _ _ impossible; cases impossible) (by simpa using sound.explained)
        simpa using moved
  · exact sound

theorem Sound.query (sound : Sound setting system) (number : ℕ) (world : ν) :
    Sound setting (step setting (.query number world) system) := by
  simp only [step]
  split
  · next key current =>
      have called := sound.called number _ current
      split
      · next answer answered =>
          have asked : Explained (Owned setting)
              (system.trace ++ [.queried number key answer]) :=
            explained_concat sound.explained ⟨world, answered⟩
          split
          · next value worth =>
              apply sound.move current (.inserting key value answer) rfl _ _ asked
              intro _ _ _ same
              cases same
              exact ⟨worth, List.mem_singleton_self _⟩
          · have explained : Explained (Owned setting)
                (system.trace ++ [.queried number key answer] ++
                  [.returned number key answer]) := by
              refine explained_concat asked ⟨List.mem_append_left _ called, Or.inl ?_⟩
              exact List.mem_append_right _ List.mem_cons_self
            rw [List.append_assoc] at explained
            have moved := sound.move current (.returned key answer) rfl _
              (by intro _ _ _ impossible; cases impossible) explained
            simpa [List.append_assoc] using moved
      · exact sound
  · exact sound

theorem Sound.insert (sound : Sound setting system) (number : ℕ) (choice : ι) :
    Sound setting (step setting (.insert number choice) system) := by
  simp only [step]
  split
  · next key value answer current =>
      rcases sound.queried number key value answer current with ⟨worth, queried⟩
      have explained : Explained (Owned setting) (system.trace ++ [.returned number key answer]) :=
        explained_concat sound.explained ⟨sound.called number _ current, Or.inl queried⟩
      have moved := sound.move current (.returned key answer) rfl _
        (by intro _ _ _ impossible; cases impossible) explained
      apply moved.withState
      intro other found lookup
      rcases setting.get_insert _ _ _ _ _ _ lookup with ⟨rfl, rfl⟩ | before
      · exact ⟨number, answer, worth, List.mem_append_left _ queried⟩
      · exact moved.cached other found before
  · exact sound

theorem sound_step (action : Action κ ν η ι) (system : System σ κ β ρ)
    (sound : Sound setting system) : Sound setting (step setting action system) := by
  cases action with
  | call key =>
      constructor
      case cached =>
        intro other value found
        rcases sound.cached other value found with ⟨origin, answer, worth, listed⟩
        exact ⟨origin, answer, worth, List.mem_append_left _ listed⟩
      case called =>
        intro number call found
        rcases getElem?_concat_cases found with earlier | ⟨rfl, rfl⟩
        · exact List.mem_append_left _ (sound.called number call earlier)
        · exact List.mem_append_right _ List.mem_cons_self
      case queried =>
        intro number other value answer found
        rcases getElem?_concat_cases found with earlier | ⟨_, impossible⟩
        · rcases sound.queried number other value answer earlier with ⟨worth, listed⟩
          exact ⟨worth, List.mem_append_left _ listed⟩
        · cases impossible
      case explained => exact explained_concat sound.explained trivial
  | check number => exact sound.check number
  | query number world => exact sound.query number world
  | insert number choice => exact sound.insert number choice
  | environment event =>
      apply sound.withState
      intro key value found
      rw [setting.get_act] at found
      exact sound.cached key value found

/-- In every interleaving, every result belongs to the key that was asked for. -/
theorem sound_system {state : σ} (empty : ∀ key, setting.get state key = none)
    (actions : List (Action κ ν η ι)) :
    Sound setting (run (step setting) actions (start state)) :=
  run_invariant (Sound setting) (sound_start empty) sound_step actions

end Steps

section Environment

/-- What an action means to the environment. -/
def Action.event? : Action κ ν η ι → Option η
  | .environment event => some event
  | _ => none

/-- What the environment does in a run. -/
def environmentOf (actions : List (Action κ ν η ι)) : List η :=
  actions.filterMap Action.event?

variable {setting : Setting σ κ β ρ ν η ι}

/-- The state is written by insertions and by the environment. -/
theorem state_step_cases (action : Action κ ν η ι) (system : System σ κ β ρ) :
    (∃ event, action.event? = some event ∧
      (step setting action system).state = setting.act event system.state) ∨
    (action.event? = none ∧
      ((step setting action system).state = system.state ∨
        ∃ choice key value,
          (step setting action system).state = setting.insert choice key value system.state)) := by
  cases action with
  | call key => exact Or.inr ⟨rfl, Or.inl rfl⟩
  | check number =>
      refine Or.inr ⟨rfl, Or.inl ?_⟩
      simp only [step]
      repeat' split
      all_goals rfl
  | query number world =>
      refine Or.inr ⟨rfl, Or.inl ?_⟩
      simp only [step]
      repeat' split
      all_goals rfl
  | insert number choice =>
      refine Or.inr ⟨rfl, ?_⟩
      simp only [step]
      split
      · exact Or.inr ⟨_, _, _, rfl⟩
      · exact Or.inl rfl
  | environment event => exact Or.inl ⟨event, rfl, rfl⟩

/-- What insertions and the environment keep holds in every run. -/
theorem kept_run (kept : σ → Prop) {state : σ} (initially : kept state)
    (insert : ∀ choice key value state, kept state → kept (setting.insert choice key value state))
    (act : ∀ event state, kept state → kept (setting.act event state))
    (actions : List (Action κ ν η ι)) :
    kept (run (step setting) actions (start state)).state := by
  refine run_invariant (fun system : System σ κ β ρ => kept system.state) initially ?_ actions
  intro action system holds
  rcases state_step_cases action system with ⟨event, _, written⟩ | ⟨_, same | ⟨_, _, _, written⟩⟩
  · rw [written]
    exact act event _ holds
  · rw [same]
    exact holds
  · rw [written]
    exact insert _ _ _ _ holds

/-- If insertions cannot be seen in a view of the state, then a run is seen like the steps of
the environment on their own. -/
theorem view_run (setting : Setting σ κ β ρ ν η ι) {ω : Type} (view : σ → ω)
    (insert : ∀ choice key value state, view (setting.insert choice key value state) = view state)
    (act : ∀ event state other, view state = view other →
      view (setting.act event state) = view (setting.act event other))
    (state : σ) (actions : List (Action κ ν η ι)) :
    view (run (step setting) actions (start state)).state =
      view (run setting.act (environmentOf actions) state) := by
  induction actions using List.reverseRecOn with
  | nil => rfl
  | append_singleton actions action ih =>
      rw [run_concat, environmentOf, List.filterMap_append, ← environmentOf]
      rcases state_step_cases action (run (step setting) actions (start state)) with
        ⟨event, isEvent, written⟩ | ⟨silent, same⟩
      · rw [written, List.filterMap_cons_some isEvent, List.filterMap_nil, run_concat]
        exact act event _ _ ih
      · rw [List.filterMap_cons_none silent, List.filterMap_nil, List.append_nil]
        rcases same with same | ⟨_, _, _, written⟩
        · rw [same]
          exact ih
        · rw [written]
          exact (insert _ _ _ _).trans ih

end Environment

end CachedLookups
