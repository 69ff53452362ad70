import DmarcReportViewer.CacheMap.Recency
import DmarcReportViewer.Lib.Runs
import DmarcReportViewer.State

/-!
# Cached lookups of host names

The model of `dns_client_cached.rs`.  Any number of calls of `host_from_ip` share a
cache.  A call holds the lock of the cache while it checks the cache and while it
inserts a result, but not in between, so the steps of the calls are interleaved
arbitrarily.
-/

namespace DmarcReportViewer.DnsClientCached

open Collections Runs

/-- How far a call of `host_from_ip` has come. -/
inductive Call where
  | checking (ip : IpAddr)
  | querying (ip : IpAddr)
  | inserting (ip : IpAddr) (response : Option String)
  | returned (ip : IpAddr) (result : Result (Option String))

def Call.ip : Call → IpAddr
  | .checking ip => ip
  | .querying ip => ip
  | .inserting ip _ => ip
  | .returned ip _ => ip

/-- What can be observed of the calls.  A call is known by the number of the calls
before it. -/
inductive Event where
  | called (call : Nat) (ip : IpAddr)
  | queried (call : Nat) (ip : IpAddr) (result : Result (Option String))
  | returned (call : Nat) (ip : IpAddr) (result : Result (Option String))

structure System where
  cache : CacheMap IpAddr (Option String)
  calls : List Call
  /-- What has happened so far.  The code does not read it. -/
  trace : List Event

def new (maxCacheSize : Nat) (maxSize_pos : 1 ≤ maxCacheSize) : System where
  cache := CacheMap.ofSize maxCacheSize maxSize_pos
  calls := []
  trace := []

inductive Action where
  | call (ip : IpAddr)
  | checkCache (call : Nat)
  | query (call : Nat) (result : Result (Option String))
  | insert (call : Nat) (order : IterationOrder IpAddr (CacheMap.Entry (Option String)))

/-- A call checks the cache, queries a name server if the address is not cached, and
caches the answer unless it is an error.  A step which is not the next one of its
call does not happen. -/
def step (action : Action) (system : System) : System :=
  match action with
  | .call ip =>
      { system with
        calls := system.calls ++ [.checking ip]
        trace := system.trace ++ [.called system.calls.length ip] }
  | .checkCache call =>
      match system.calls[call]? with
      | some (.checking ip) =>
          match system.cache.get ip with
          | some cached =>
              { system with
                calls := system.calls.set call (.returned ip (.ok cached))
                trace := system.trace ++ [.returned call ip (.ok cached)] }
          | none => { system with calls := system.calls.set call (.querying ip) }
      | _ => system
  | .query call result =>
      match system.calls[call]? with
      | some (.querying ip) =>
          match result with
          | .ok response =>
              { system with
                calls := system.calls.set call (.inserting ip response)
                trace := system.trace ++ [.queried call ip (.ok response)] }
          | .error error =>
              { system with
                calls := system.calls.set call (.returned ip (.error error))
                trace := system.trace ++ [.queried call ip (.error error)] ++
                  [.returned call ip (.error error)] }
      | _ => system
  | .insert call order =>
      match system.calls[call]? with
      | some (.inserting ip response) =>
          { system with
            cache := system.cache.insert order ip response
            calls := system.calls.set call (.returned ip (.ok response))
            trace := system.trace ++ [.returned call ip (.ok response)] }
      | _ => system

/-- A returned result is the one of the call's own query or of an earlier
successful query for the same address. -/
def Owned (before : List Event) : Event → Prop
  | .returned call ip result =>
      .called call ip ∈ before ∧
        (.queried call ip result ∈ before ∨
          ∃ other response, result = .ok response ∧ .queried other ip (.ok response) ∈ before)
  | _ => True

/-- Lookups are neither mixed up nor invented. -/
structure Sound (maxCacheSize : Nat) (system : System) : Prop where
  cached : ∀ ip response, system.cache.get ip = some response →
    ∃ call, .queried call ip (.ok response) ∈ system.trace
  bounded : system.cache.map.size ≤ maxCacheSize
  returned : Explained Owned system.trace

/-- The invariant of the lookups: what the calls in progress stand for. -/
structure Invariant (maxCacheSize : Nat) (system : System) : Prop
    extends Sound maxCacheSize system where
  maxSize : system.cache.maxSize = maxCacheSize
  called : ∀ number call, system.calls[number]? = some call →
    .called number call.ip ∈ system.trace
  queried : ∀ number ip response, system.calls[number]? = some (.inserting ip response) →
    .queried number ip (.ok response) ∈ system.trace

section Steps

variable {maxCacheSize : Nat} {system : System}

theorem invariant_new (maxSize_pos : 1 ≤ maxCacheSize) :
    Invariant maxCacheSize (new maxCacheSize maxSize_pos) := by
  constructor
  case toSound =>
    constructor
    case cached => simp [new, CacheMap.ofSize, CacheMap.get]
    case bounded => simp [new, CacheMap.ofSize]
    case returned => exact explained_nil
  case maxSize => rfl
  case called => simp [new]
  case queried => simp [new]

/-- A call that moves on keeps its address. -/
theorem Invariant.called_set (invariant : Invariant maxCacheSize system) {number : Nat}
    {call next : Call} (current : system.calls[number]? = some call) (same : next.ip = call.ip)
    (events : List Event) :
    ∀ index other, (system.calls.set number next)[index]? = some other →
      .called index other.ip ∈ system.trace ++ events := by
  intro index other found
  apply List.mem_append_left
  rcases getElem?_set_cases found with before | ⟨rfl, rfl⟩
  · exact invariant.called index other before
  · rw [same]
    exact invariant.called number call current

/-- The other calls are still about to cache the results of their queries. -/
theorem Invariant.queried_set (invariant : Invariant maxCacheSize system) {number : Nat}
    {next : Call} {events : List Event}
    (own : ∀ ip response, next = .inserting ip response →
      .queried number ip (.ok response) ∈ events) :
    ∀ index ip response,
      (system.calls.set number next)[index]? = some (.inserting ip response) →
        .queried index ip (.ok response) ∈ system.trace ++ events := by
  intro index ip response found
  rcases getElem?_set_cases found with before | ⟨rfl, moved⟩
  · exact List.mem_append_left _ (invariant.queried index ip response before)
  · exact List.mem_append_right _ (own ip response moved.symm)

/-- A call moves on and the events of its step are recorded. -/
theorem Invariant.move (invariant : Invariant maxCacheSize system) {number : Nat}
    {call : Call} (current : system.calls[number]? = some call) (next : Call)
    (same : next.ip = call.ip) (events : List Event)
    (own : ∀ ip response, next = .inserting ip response →
      .queried number ip (.ok response) ∈ events)
    (explained : Explained Owned (system.trace ++ events)) :
    Invariant maxCacheSize
      { system with calls := system.calls.set number next, trace := system.trace ++ events } := by
  constructor
  case toSound =>
    constructor
    case cached =>
      intro ip response cached
      rcases invariant.cached ip response cached with ⟨origin, listed⟩
      exact ⟨origin, List.mem_append_left _ listed⟩
    case bounded => exact invariant.bounded
    case returned => exact explained
  case maxSize => exact invariant.maxSize
  case called => exact invariant.called_set current same events
  case queried => exact invariant.queried_set own

/-- An insertion caches the result of a query for the same address. -/
theorem Invariant.insert (invariant : Invariant maxCacheSize system) {number : Nat}
    {ip : IpAddr} {response : Option String}
    (current : system.calls[number]? = some (.inserting ip response))
    (order : IterationOrder IpAddr (CacheMap.Entry (Option String))) :
    Invariant maxCacheSize { system with cache := system.cache.insert order ip response } := by
  have fits : system.cache.map.size ≤ system.cache.maxSize :=
    invariant.maxSize ▸ invariant.bounded
  constructor
  case toSound =>
    constructor
    case cached =>
      intro other found lookup
      rcases CacheMap.get_insert_cases lookup with ⟨rfl, rfl⟩ | before
      · exact ⟨number, invariant.queried number other found current⟩
      · exact invariant.cached other found before
    case bounded => exact invariant.maxSize ▸ CacheMap.size_insert_le fits
    case returned => exact invariant.returned
  case maxSize => rw [CacheMap.maxSize_insert, invariant.maxSize]
  case called => exact invariant.called
  case queried => exact invariant.queried

theorem Invariant.call (invariant : Invariant maxCacheSize system) (ip : IpAddr) :
    Invariant maxCacheSize (step (.call ip) system) := by
  constructor
  case toSound =>
    constructor
    case cached =>
      intro other response cached
      rcases invariant.cached other response cached with ⟨origin, listed⟩
      exact ⟨origin, List.mem_append_left _ listed⟩
    case bounded => exact invariant.bounded
    case returned => exact explained_concat invariant.returned trivial
  case maxSize => exact invariant.maxSize
  case called =>
    intro number call found
    rcases getElem?_concat_cases found with earlier | ⟨rfl, rfl⟩
    · exact List.mem_append_left _ (invariant.called number call earlier)
    · exact List.mem_append_right _ List.mem_cons_self
  case queried =>
    intro number other response found
    rcases getElem?_concat_cases found with earlier | ⟨_, impossible⟩
    · exact List.mem_append_left _ (invariant.queried number other response earlier)
    · cases impossible

theorem invariant_step (action : Action) (system : System)
    (invariant : Invariant maxCacheSize system) : Invariant maxCacheSize (step action system) := by
  cases action with
  | call ip => exact invariant.call ip
  | checkCache call =>
      simp only [step]
      split
      · next ip current =>
          have called := invariant.called call _ current
          split
          · next cached hit =>
              rcases invariant.cached ip cached hit with ⟨origin, queried⟩
              have explained : Explained Owned
                  (system.trace ++ [.returned call ip (.ok cached)]) :=
                explained_concat invariant.returned
                  ⟨called, Or.inr ⟨origin, cached, rfl, queried⟩⟩
              exact invariant.move current (.returned ip (.ok cached)) rfl _ (by simp) explained
          · have moved := invariant.move current (.querying ip) rfl [] (by simp)
              (by simpa using invariant.returned)
            simpa using moved
      · exact invariant
  | query call result =>
      simp only [step]
      split
      · next ip current =>
          have called := invariant.called call _ current
          cases result with
          | ok response =>
              have explained : Explained Owned
                  (system.trace ++ [.queried call ip (.ok response)]) :=
                explained_concat invariant.returned trivial
              exact invariant.move current (.inserting ip response) rfl _ (by simp) explained
          | error error =>
              have explained : Explained Owned
                  (system.trace ++ [.queried call ip (.error error)] ++
                    [.returned call ip (.error error)]) := by
                refine explained_concat (explained_concat invariant.returned trivial) ⟨?_, ?_⟩
                · exact List.mem_append_left _ called
                · exact Or.inl (List.mem_append_right _ List.mem_cons_self)
              rw [List.append_assoc] at explained
              have moved := invariant.move current (.returned ip (.error error)) rfl _ (by simp)
                explained
              simpa [List.append_assoc] using moved
      · exact invariant
  | insert call order =>
      simp only [step]
      split
      · next ip response current =>
          have called := invariant.called call _ current
          have queried := invariant.queried call ip response current
          have explained : Explained Owned (system.trace ++ [.returned call ip (.ok response)]) :=
            explained_concat invariant.returned ⟨called, Or.inl queried⟩
          exact (invariant.insert current order).move current (.returned ip (.ok response)) rfl _
            (by simp) explained
      · exact invariant

end Steps

/-- For any number of concurrent calls and any interleaving of their steps, lookups
are neither mixed up nor invented. -/
theorem sound_run {maxCacheSize : Nat} (maxSize_pos : 1 ≤ maxCacheSize) (actions : List Action) :
    Sound maxCacheSize (run step actions (new maxCacheSize maxSize_pos)) :=
  (run_invariant (Invariant maxCacheSize) (invariant_new maxSize_pos) invariant_step
    actions).toSound

/-- Two calls for the same address which get different answers. -/
def sampleActions : List Action :=
  [.call (.v4 3221226219), .call (.v4 3221226219), .checkCache 0, .checkCache 1,
    .query 1 (.ok (some "mail.example.org")), .query 0 (.ok none),
    .insert 0 (.byKey IpAddr _), .insert 1 (.byKey IpAddr _)]

theorem sound_run_sample :
    Sound 10000 (run step sampleActions (new 10000 (by decide))) :=
  sound_run (by decide) sampleActions

end DmarcReportViewer.DnsClientCached
