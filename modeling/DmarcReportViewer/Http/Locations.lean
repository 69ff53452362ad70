import DmarcReportViewer.Background.Delivery
import DmarcReportViewer.CacheMap.Recency
import DmarcReportViewer.Http.Export
import DmarcReportViewer.HttpClient
import DmarcReportViewer.Lib.CachedLookups

/-!
# Locations of IP addresses

The model of `Location::from_ip` from `geolocate.rs` and of `to_location_handler` from
`http/ips.rs`.  Calls of the handler run concurrently with each other and with the
background task.  A call locks the state to check the cache and to insert a location, but
not while it waits for the remote service.
-/

namespace DmarcReportViewer.Locations

open Collections CachedLookups Fallible Runs

/-- How addresses are written and how responses are parsed. -/
structure LocationFormats where
  displayIp : IpAddr → String
  parseLocation : List UInt8 → Result Location

/-- What a request meets on its way. -/
structure Exchange where
  network : Network
  order : IterationOrder String String
  fuel : ℕ

def locationUrl (formats : LocationFormats) (ip : IpAddr) : String :=
  "http://ip-api.com/json/" ++ formats.displayIp ip ++
    "?fields=country,countryCode,regionName,city,lat,lon,timezone,isp,org,as,proxy,hosting,query"

/-- Look up the location of an address; `none` means that the fuel has run out. -/
def fromIp (formats : LocationFormats) (exchange : Exchange) (ip : IpAddr) :
    Option (Result (Option Location)) :=
  (httpRequest exchange.network "GET" (locationUrl formats ip) ∅ exchange.order []
    exchange.fuel).map fun result => do
      let (status, _, body) ← result.context "Failed to send HTTP request"
      ensure (status = 200)
        ("Condition failed: `status == StatusCode::OK` (" ++ toString status ++ " vs 200)")
      let parsed ← (formats.parseLocation body).context "Failed to parse HTTP response as JSON"
      return some parsed

theorem fromIp_ne_none {formats : LocationFormats} {exchange : Exchange} {ip : IpAddr} :
    fromIp formats exchange ip ≠ some (.ok none) := by
  intro found
  rcases Option.map_eq_some_iff.mp found with ⟨result, _, outcome⟩
  simp only [bind_eq_ok_iff] at outcome
  rcases outcome with ⟨_, _, _, _, _, _, impossible⟩
  cases impossible

/-- The response to a call of the handler. -/
def toLocationResponse (toStringPretty : Location → String) (result : Result (Option Location)) :
    Export.Response :=
  match result with
  | .error _ => { status := 500, contentType := "text/plain", body := "Failed to locate IP" }
  | .ok none => { status := 404, contentType := "text/plain", body := "No info found" }
  | .ok (some location) =>
      { status := 200, contentType := "application/json", body := toStringPretty location }

/-- A write of the background task. -/
inductive TaskEvent (env : Externals) where
  | update (attempt : Attempt env)
  | schedule (nextUpdate : UInt64)

def TaskEvent.toEvent {env : Externals} : TaskEvent env → Event env
  | .update attempt => .update attempt
  | .schedule nextUpdate => .interlude (.schedule nextUpdate)

theorem ipLocationCache_apply {env : Externals} (event : TaskEvent env) (state : AppState) :
    (event.toEvent.apply state).ipLocationCache = state.ipLocationCache := by
  cases event with
  | schedule nextUpdate => rfl
  | update attempt =>
      rcases bgUpdate_cases state attempt with ⟨_, _, failed⟩ | ⟨_, _, _, _, _, _, _, updated⟩
      · simp [TaskEvent.toEvent, Event.apply, failed]
      · simp [TaskEvent.toEvent, Event.apply, updated, replaceState_eq]

/-- Only a location that was found is cached. -/
def cacheable : Result (Option Location) → Option Location
  | .ok location => location
  | .error _ => none

theorem cacheable_eq_some_iff {answer : Result (Option Location)} {location : Location} :
    cacheable answer = some location ↔ answer = .ok (some location) := by
  cases answer <;> simp [cacheable]

/-- The calls of the handler next to the background task. -/
def setting (env : Externals) (formats : LocationFormats) :
    Setting AppState IpAddr Location (Result (Option Location)) Exchange (TaskEvent env)
      (IterationOrder IpAddr (CacheMap.Entry Location)) where
  get state ip := state.ipLocationCache.get ip
  insert order ip location state := state.cacheLocation order ip location
  get_insert := by
    intro order ip location state other found lookup
    rcases CacheMap.get_insert_cases lookup with ⟨rfl, rfl⟩ | before
    · exact Or.inl ⟨rfl, rfl⟩
    · exact Or.inr before
  ask := fromIp formats
  cacheable := cacheable
  ofCached location := .ok (some location)
  ofCached_eq answer location worth := (cacheable_eq_some_iff.mp worth).symm
  act event state := event.toEvent.apply state
  get_act event state ip := by rw [ipLocationCache_apply]

section Runs

variable {env : Externals} {formats : LocationFormats}

/-- The state apart from the cache of the handler. -/
def withoutCache (state : AppState) : AppState :=
  { state with ipLocationCache := (AppState.new 0).ipLocationCache }

/-- The background task does not read the cache. -/
theorem withoutCache_apply (event : TaskEvent env) (state : AppState) :
    withoutCache (event.toEvent.apply state) = event.toEvent.apply (withoutCache state) := by
  cases event with
  | schedule nextUpdate => rfl
  | update attempt =>
      simp only [TaskEvent.toEvent, Event.apply, bgUpdate]
      cases prepareUpdate env attempt with
      | error error => rfl
      | ok prepared => simp [replaceState_eq, withoutCache]

theorem run_setting_act (events : List (TaskEvent env)) (state : AppState) :
    run (setting env formats).act events state =
      run Event.apply (events.map TaskEvent.toEvent) state := by
  induction events using List.reverseRecOn with
  | nil => rfl
  | append_singleton events event ih =>
      rw [List.map_append, List.map_singleton, run_concat, run_concat, ih]
      rfl

theorem withoutCache_stateAfter (events : List (TaskEvent env)) (startTime : UInt64) :
    withoutCache (stateAfter (events.map TaskEvent.toEvent) startTime) =
      stateAfter (events.map TaskEvent.toEvent) startTime := by
  induction events using List.reverseRecOn with
  | nil => rfl
  | append_singleton events event ih =>
      rw [stateAfter] at ih
      rw [stateAfter, List.map_append, List.map_singleton, run_concat, withoutCache_apply, ih]

/-- In every interleaving of calls with the background task, a result is an answer of the
remote service for the address of the call.  It comes from the call's own request, or it is
a location from the request of another call for the same address, so that errors are never
passed on.  The response "No info found" is never sent.  The cache keeps its limit, and
apart from it the state is the one which the background task produces on its own. -/
theorem locations_of_run (env : Externals) (formats : LocationFormats)
    (toStringPretty : Location → String) (startTime : UInt64)
    (actions : List (Action IpAddr Exchange (TaskEvent env)
      (IterationOrder IpAddr (CacheMap.Entry Location)))) :
    let system := run (step (setting env formats)) actions (start (AppState.new startTime))
    (∀ before call ip answer after, system.trace = before ++ .returned call ip answer :: after →
      .called call ip ∈ before ∧
        (toLocationResponse toStringPretty answer).status ≠ 404 ∧
        ∃ origin exchange, .queried origin ip answer ∈ before ∧
          fromIp formats exchange ip = some answer ∧
          (origin = call ∨ ∃ location, answer = .ok (some location))) ∧
      system.state.ipLocationCache.map.size ≤ 10000 ∧
      withoutCache system.state =
        stateAfter ((environmentOf actions).map TaskEvent.toEvent) startTime := by
  intro system
  have sound : Sound (setting env formats) system := by
    refine sound_system ?_ actions
    intro ip
    simp [setting, AppState.new, CacheMap.ofSize, CacheMap.get]
  refine ⟨?_, ?_, ?_⟩
  · intro before call ip answer after split
    rcases sound.explained before _ after split with ⟨called, source⟩
    have origin : ∃ origin, .queried origin ip answer ∈ before ∧
        (origin = call ∨ ∃ location, answer = .ok (some location)) := by
      rcases source with own | ⟨other, worth, earlier⟩
      · exact ⟨call, own, Or.inl rfl⟩
      · rcases Option.isSome_iff_exists.mp worth with ⟨location, cached⟩
        exact ⟨other, earlier, Or.inr ⟨location, cacheable_eq_some_iff.mp cached⟩⟩
    rcases origin with ⟨origin, queried, shared⟩
    rcases List.append_of_mem queried with ⟨front, back, rfl⟩
    rw [List.append_assoc] at split
    rcases sound.explained front _ _ split with ⟨exchange, answered⟩
    refine ⟨called, ?_, origin, exchange, queried, answered, shared⟩
    cases answer with
    | error error => simp [toLocationResponse]
    | ok result =>
        cases result with
        | none => exact absurd answered fromIp_ne_none
        | some location => simp [toLocationResponse]
  · have bounded : system.state.ipLocationCache.map.size ≤
          system.state.ipLocationCache.maxSize ∧
        system.state.ipLocationCache.maxSize = 10000 := by
      refine kept_run (fun state : AppState =>
        state.ipLocationCache.map.size ≤ state.ipLocationCache.maxSize ∧
          state.ipLocationCache.maxSize = 10000) ?_ ?_ ?_ actions
      · exact ⟨Nat.zero_le _, rfl⟩
      · intro choice ip location state kept
        refine ⟨?_, ?_⟩
        · exact (CacheMap.size_insert_le kept.1).trans_eq (CacheMap.maxSize_insert ..).symm
        · exact (CacheMap.maxSize_insert ..).trans kept.2
      · intro event state kept
        have same : ((setting env formats).act event state).ipLocationCache =
            state.ipLocationCache := ipLocationCache_apply event state
        rw [same]
        exact kept
    omega
  · have seen : withoutCache system.state = withoutCache
        (run (setting env formats).act (environmentOf actions) (AppState.new startTime)) := by
      refine view_run (setting env formats) withoutCache ?_ ?_ _ actions
      · intro order ip location state
        rfl
      · intro event state other same
        change withoutCache (event.toEvent.apply state) =
          withoutCache (event.toEvent.apply other)
        rw [withoutCache_apply, withoutCache_apply, same]
    rw [run_setting_act] at seen
    exact seen.trans (withoutCache_stateAfter _ startTime)

end Runs

end DmarcReportViewer.Locations
