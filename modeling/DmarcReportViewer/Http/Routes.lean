import DmarcReportViewer.Http.BasicAuth
import DmarcReportViewer.Http.Query
import DmarcReportViewer.Lib.Routing
import DmarcReportViewer.Lib.Splitting

/-!
# The router

How `run_http_server` of `http.rs` finds the route of a request, and what the middleware,
the methods of the routes and the extractors of the handlers leave of it.
-/

namespace DmarcReportViewer.Routes

open BasicAuth Routing Text

structure Route where
  path : String
  method : Method
  guarded : Bool
deriving DecidableEq

/-- A route for a method also answers `HEAD` requests if the method is `GET`. -/
def Route.allows (route : Route) (method : Method) : Bool :=
  method = route.method ∨ method = .head ∧ route.method = .get

def route (routes : List Route) (path : String) (method : Method) : List Route :=
  routes ++ [{ path := path, method := method, guarded := false }]

/-- Put the middleware in front of all routes that exist so far. -/
def routeLayer (routes : List Route) : List Route :=
  routes.map fun route => { route with guarded := true }

/-- The routes of `run_http_server`. -/
def routes : List Route :=
  route (routeLayer ([
    ("/summary", .get),
    ("/mails", .get),
    ("/mails/\x7bid\x7d", .get),
    ("/mails/\x7bid\x7d/errors", .get),
    ("/dmarc-reports", .get),
    ("/dmarc-reports/\x7bid\x7d", .get),
    ("/dmarc-reports/\x7bid\x7d/json", .get),
    ("/dmarc-reports/\x7bid\x7d/xml", .get),
    ("/tls-reports", .get),
    ("/tls-reports/\x7bid\x7d", .get),
    ("/tls-reports/\x7bid\x7d/json", .get),
    ("/sources", .get),
    ("/ips/\x7bip\x7d/dns", .get),
    ("/ips/dns/batch", .post),
    ("/ips/\x7bip\x7d/location", .get),
    ("/ips/\x7bip\x7d/whois", .get),
    ("/build", .get),
    ("/metrics", .get),
    ("/", .get),
    ("/\x7b*filepath\x7d", .get)].foldl (fun routes (path, method) => route routes path method)
      [])) "/health" .get

/-- A segment of a route: braces mark a capture, and a star captures the rest. -/
def segmentOf (text : String) : Segment :=
  if startsWith text "\x7b*" then .rest
  else if startsWith text "\x7b" then .capture
  else .literal text

def segments (path : String) : List String :=
  split (removeFirst path) "/"

/-- The routes with their patterns. -/
def table : List (Pattern × Route) :=
  routes.map fun route => ((segments route.path).map segmentOf, route)

def routeOf (path : String) : Option (Route × List String) :=
  resolve table (segments path)

/-- A request of which something cannot be extracted is a bad request. -/
def required {α : Type} (extracted : Option α) : Option Nat :=
  if extracted.isSome then none else some 400

/-- The status with which the extractor of a handler rejects a request.  How `Json` rejects
the body of a batch is a parameter. -/
def rejection (env : Externals) (jsonRejection : Request → Option Nat) (route : Route)
    (captured : List String) (request : Request) : Option Nat :=
  match route.path, captured with
  | "/summary", [] => required (SummaryFilters.fromQuery env request.query)
  | "/mails", [] => required (Mails.MailFilters.fromQuery env request.query)
  | "/dmarc-reports", [] => required (DmarcReports.ReportFilters.fromQuery env request.query)
  | "/tls-reports", [] => required (TlsReports.ReportFilters.fromQuery env request.query)
  | "/mails/\x7bid\x7d", [id]
  | "/mails/\x7bid\x7d/errors", [id]
  | "/dmarc-reports/\x7bid\x7d", [id]
  | "/dmarc-reports/\x7bid\x7d/json", [id]
  | "/dmarc-reports/\x7bid\x7d/xml", [id]
  | "/tls-reports/\x7bid\x7d", [id]
  | "/tls-reports/\x7bid\x7d/json", [id] => required (Percent.decode id)
  | "/ips/\x7bip\x7d/dns", [ip]
  | "/ips/\x7bip\x7d/location", [ip]
  | "/ips/\x7bip\x7d/whois", [ip] => required ((Percent.decode ip).bind env.parseIp)
  | "/ips/dns/batch", [] => jsonRejection request
  | _, _ => none

/-- How the server reacts to a request. -/
inductive Reaction where
  | handle (route : Route) (captured : List String)
  | respond (response : DmarcReportViewer.Response)
  | methodNotAllowed
  | reject (status : Nat)
  | notFound
deriving DecidableEq

/-- The middleware is in front of the methods of a route, and these are in front of the
extractors. -/
def react (env : Externals) (jsonRejection : Request → Option Nat) (base64 : Base64Engine)
    (config : HttpConfiguration) (request : Request) : Reaction :=
  match routeOf request.path with
  | none => .notFound
  | some (route, captured) =>
      match if route.guarded then basicAuthMiddleware base64 config request else .next request with
      | .respond response => .respond response
      | .next request =>
          if route.allows request.method then
            match rejection env jsonRejection route captured request with
            | none => .handle route captured
            | some status => .reject status
          else
            .methodNotAllowed

section Paths

theorem table_eq : table = [
    ([.literal "summary"], ⟨"/summary", .get, true⟩),
    ([.literal "mails"], ⟨"/mails", .get, true⟩),
    ([.literal "mails", .capture], ⟨"/mails/\x7bid\x7d", .get, true⟩),
    ([.literal "mails", .capture, .literal "errors"], ⟨"/mails/\x7bid\x7d/errors", .get, true⟩),
    ([.literal "dmarc-reports"], ⟨"/dmarc-reports", .get, true⟩),
    ([.literal "dmarc-reports", .capture], ⟨"/dmarc-reports/\x7bid\x7d", .get, true⟩),
    ([.literal "dmarc-reports", .capture, .literal "json"],
      ⟨"/dmarc-reports/\x7bid\x7d/json", .get, true⟩),
    ([.literal "dmarc-reports", .capture, .literal "xml"],
      ⟨"/dmarc-reports/\x7bid\x7d/xml", .get, true⟩),
    ([.literal "tls-reports"], ⟨"/tls-reports", .get, true⟩),
    ([.literal "tls-reports", .capture], ⟨"/tls-reports/\x7bid\x7d", .get, true⟩),
    ([.literal "tls-reports", .capture, .literal "json"],
      ⟨"/tls-reports/\x7bid\x7d/json", .get, true⟩),
    ([.literal "sources"], ⟨"/sources", .get, true⟩),
    ([.literal "ips", .capture, .literal "dns"], ⟨"/ips/\x7bip\x7d/dns", .get, true⟩),
    ([.literal "ips", .literal "dns", .literal "batch"], ⟨"/ips/dns/batch", .post, true⟩),
    ([.literal "ips", .capture, .literal "location"], ⟨"/ips/\x7bip\x7d/location", .get, true⟩),
    ([.literal "ips", .capture, .literal "whois"], ⟨"/ips/\x7bip\x7d/whois", .get, true⟩),
    ([.literal "build"], ⟨"/build", .get, true⟩),
    ([.literal "metrics"], ⟨"/metrics", .get, true⟩),
    ([.literal ""], ⟨"/", .get, true⟩),
    ([.rest], ⟨"/\x7b*filepath\x7d", .get, true⟩),
    ([.literal "health"], ⟨"/health", .get, false⟩)] := by
  decide +kernel

theorem segments_rooted (rest : String) : segments ("/" ++ rest) = split rest "/" := by
  simp [segments, removeFirst]

theorem segments_injective {rest other : String}
    (same : segments ("/" ++ rest) = segments ("/" ++ other)) : rest = other := by
  rw [segments_rooted, segments_rooted] at same
  have single : ("/" : String).toList = ['/'] := by decide
  rw [← intercalate_split single rest, same, intercalate_split single]

/-- Every path belongs to the index, or the wildcard would match it. -/
theorem routeOf_isSome (path : String) : (routeOf path).isSome := by
  have wildcard : ([Segment.rest], (⟨"/\x7b*filepath\x7d", .get, true⟩ : Route)) ∈ table := by
    simp [table_eq]
  have index : ([Segment.literal ""], (⟨"/", .get, true⟩ : Route)) ∈ table := by
    simp [table_eq]
  rcases List.exists_cons_of_ne_nil (@split_ne_nil (removeFirst path) "/") with
    ⟨segment, rest, pieces⟩
  rw [routeOf, segments, pieces]
  by_cases empty : segment = "" ∧ rest = []
  · apply resolve_isSome index
    simp [captures, empty]
  · apply resolve_isSome wildcard
    rw [captures, if_neg empty]
    rfl

/-- Only the health check is not guarded. -/
theorem guarded_of_routeOf {path : String} {route : Route} {captured : List String}
    (found : routeOf path = some (route, captured)) :
    route.guarded = true ∨
      segments path = ["health"] ∧ route = ⟨"/health", .get, false⟩ ∧ captured = [] := by
  rcases captures_of_resolve found with ⟨pattern, member, matched⟩
  have listed : table.all (fun entry => entry.2.guarded ||
      entry.1 = [.literal "health"] && entry.2 = ⟨"/health", .get, false⟩) = true := by
    rw [table_eq]
    rfl
  have here := List.all_eq_true.mp listed _ member
  simp only [Bool.or_eq_true, Bool.and_eq_true, decide_eq_true_eq] at here
  rcases here with guarded | ⟨rfl, same⟩
  · exact Or.inl guarded
  · right
    rcases pieces : segments path with _ | ⟨segment, rest⟩
    · rw [pieces] at matched
      cases matched
    · rw [pieces, captures] at matched
      split at matched
      · next first =>
          cases rest with
          | nil =>
              rw [captures] at matched
              cases matched
              exact ⟨by rw [first], same, rfl⟩
          | cons next rest => simp [captures] at matched
      · cases matched

theorem routeOf_health : routeOf "/health" = some (⟨"/health", .get, false⟩, []) := by
  have pieces : segments "/health" = ["health"] := by decide +kernel
  rw [routeOf, pieces, table_eq]
  rfl

/-- The health check has no other path. -/
theorem eq_health_of_segments {rest : String} (pieces : segments ("/" ++ rest) = ["health"]) :
    "/" ++ rest = "/health" := by
  have same : segments ("/" ++ rest) = segments ("/" ++ "health") := by
    rw [pieces]
    decide +kernel
  rw [segments_injective same]
  rfl

end Paths

section Extractors

/-- The method of a request fits to a route: a batch is posted, and anything else is asked for. -/
def FitsMethod (route : Route) (method : Method) : Prop :=
  if route.path = "/ips/dns/batch" then method = .post else method = .get ∨ method = .head

/-- The handler of a route can extract what it needs from a request. -/
@[mk_iff]
structure Extractable (env : Externals) (jsonRejection : Request → Option Nat) (route : Route)
    (captured : List String) (request : Request) : Prop where
  /-- Captured texts are UTF-8, but for the paths of files, which are not extracted. -/
  texts : route.path ≠ "/\x7b*filepath\x7d" → ∀ text ∈ captured, (Percent.decode text).isSome
  addresses : route.path ∈ ["/ips/\x7bip\x7d/dns", "/ips/\x7bip\x7d/location",
    "/ips/\x7bip\x7d/whois"] → ∀ text ∈ captured, ∀ decoded, Percent.decode text = some decoded →
      (env.parseIp decoded).isSome
  summary : route.path = "/summary" → (SummaryFilters.fromQuery env request.query).isSome
  mails : route.path = "/mails" → (Mails.MailFilters.fromQuery env request.query).isSome
  dmarcReports : route.path = "/dmarc-reports" →
    (DmarcReports.ReportFilters.fromQuery env request.query).isSome
  tlsReports : route.path = "/tls-reports" →
    (TlsReports.ReportFilters.fromQuery env request.query).isSome
  batch : route.path = "/ips/dns/batch" → jsonRejection request = none

variable {env : Externals} {jsonRejection : Request → Option Nat} {request : Request}
  {route : Route} {captured : List String}

@[simp]
theorem required_eq_none_iff {α : Type} {extracted : Option α} :
    required extracted = none ↔ extracted.isSome := by
  cases extracted <;> simp [required]

theorem allows_iff (found : routeOf request.path = some (route, captured)) :
    route.allows request.method = true ↔ FitsMethod route request.method := by
  rcases captures_of_resolve found with ⟨pattern, member, _⟩
  have methods : table.all (fun entry =>
      entry.2.method = if entry.2.path = "/ips/dns/batch" then .post else .get) = true := by
    rw [table_eq]
    rfl
  have method := of_decide_eq_true (List.all_eq_true.mp methods _ member)
  rw [Route.allows, FitsMethod, method, decide_eq_true_iff]
  split <;> simp

theorem isSome_bind_iff {α β : Type} {extracted : Option α} {read : α → Option β} :
    (extracted.bind read).isSome = true ↔ extracted.isSome = true ∧
      ∀ value, extracted = some value → (read value).isSome = true := by
  cases extracted <;> simp

/-- The extractor of a handler accepts a request if everything can be extracted. -/
theorem rejection_eq_none_iff (found : routeOf request.path = some (route, captured)) :
    rejection env jsonRejection route captured request = none ↔
      Extractable env jsonRejection route captured request := by
  have each : ∀ entry ∈ table, ∀ captured : List String,
      captured.length = (entry.1.filter Segment.isOpen).length →
        (rejection env jsonRejection entry.2 captured request = none ↔
          Extractable env jsonRejection entry.2 captured request) := by
    rw [table_eq]
    simp only [List.forall_mem_cons, List.not_mem_nil, false_implies, implies_true, and_true]
    and_intros
    all_goals
      intro captured length
      -- No route captures more than one text.
      rcases captured with _ | ⟨text, _ | ⟨second, rest⟩⟩ <;>
        simp [rejection, extractable_iff, isSome_bind_iff, List.filter_cons, Segment.isOpen]
          at length ⊢
  rcases captures_of_resolve found with ⟨pattern, member, matched⟩
  exact each _ member captured (length_captures matched)

end Extractors

section Protection

variable {env : Externals} {jsonRejection : Request → Option Nat} {base64 : Base64Engine}
  {config : HttpConfiguration} {request : Request}

/-- The middleware returns the request which it lets pass. -/
theorem eq_of_basicAuthMiddleware_eq_next {passed : Request}
    (passes : basicAuthMiddleware base64 config request = .next passed) : passed = request := by
  by_cases disabled : config.httpServerPassword = ""
  · rw [basicAuthMiddleware, if_pos disabled] at passes
    cases passes
    rfl
  · exact (basicAuthMiddleware_eq_next disabled passes).1

variable (base64 config request) in
/-- The middleware does not stop the request. -/
def Passes : Prop :=
  request.path = "/health" ∨ ∃ passed, basicAuthMiddleware base64 config request = .next passed

/-- What becomes of a request which is not stopped. -/
theorem react_of_next {route : Route} {captured : List String}
    (found : routeOf request.path = some (route, captured))
    (passes : (if route.guarded then basicAuthMiddleware base64 config request
      else .next request) = .next request) :
    (react env jsonRejection base64 config request = .handle route captured ↔
      FitsMethod route request.method ∧ Extractable env jsonRejection route captured request) ∧
    (react env jsonRejection base64 config request = .methodNotAllowed ↔
      ¬ FitsMethod route request.method) ∧
    ((∃ status, react env jsonRejection base64 config request = .reject status) ↔
      FitsMethod route request.method ∧
        ¬ Extractable env jsonRejection route captured request) ∧
    ∀ response, react env jsonRejection base64 config request ≠ .respond response := by
  rw [← allows_iff found, ← rejection_eq_none_iff found, react, found]
  simp only [passes]
  cases allowed : route.allows request.method
  · simp
  · cases extracted : rejection env jsonRejection route captured request <;> simp

/-- Whatever its path is, a request belongs to a route.  It reaches the handler of this route
if and only if the middleware lets it pass or its path is exactly that of the health check,
its method fits to the route, and the handler can extract what it needs.  A request which
passes and does not reach the handler is rejected for its method or by the extractor.  All
other requests get the response of the middleware, so that it cannot be seen which paths
exist. -/
theorem handled_iff {rest : String} (rooted : request.path = "/" ++ rest) :
    (∃ route captured, routeOf request.path = some (route, captured) ∧
      (react env jsonRejection base64 config request = .handle route captured ↔
        Passes base64 config request ∧ FitsMethod route request.method ∧
          Extractable env jsonRejection route captured request) ∧
      (react env jsonRejection base64 config request = .methodNotAllowed ↔
        Passes base64 config request ∧ ¬ FitsMethod route request.method) ∧
      ((∃ status, react env jsonRejection base64 config request = .reject status) ↔
        Passes base64 config request ∧ FitsMethod route request.method ∧
          ¬ Extractable env jsonRejection route captured request)) ∧
    ∀ response, react env jsonRejection base64 config request = .respond response ↔
      request.path ≠ "/health" ∧
        basicAuthMiddleware base64 config request = .respond response := by
  rcases Option.isSome_iff_exists.mp (routeOf_isSome request.path) with
    ⟨⟨route, captured⟩, found⟩
  have served := @react_of_next env jsonRejection base64 config request _ _ found
  rcases guarded_of_routeOf found with guarded | ⟨pieces, rfl, rfl⟩
  · have other : request.path ≠ "/health" := by
      intro health
      rw [health, routeOf_health] at found
      cases found
      cases guarded
    rw [if_pos guarded] at served
    cases decision : basicAuthMiddleware base64 config request with
    | next passed =>
        rw [eq_of_basicAuthMiddleware_eq_next decision] at decision
        rcases served decision with ⟨handled, method, extractor, never⟩
        have passes : Passes base64 config request := Or.inr ⟨request, decision⟩
        exact ⟨⟨route, captured, found, by simp [handled, passes], by simp [method, passes],
          by simp [extractor, passes]⟩, by simp [never]⟩
    | respond response =>
        have blocked : react env jsonRejection base64 config request = .respond response := by
          rw [react, found]
          simp only [if_pos guarded, decision]
        have stopped : ¬ Passes base64 config request := by simp [Passes, other, decision]
        exact ⟨⟨route, captured, found, by simp [blocked, stopped], by simp [blocked, stopped],
          by simp [blocked, stopped]⟩, by simp [blocked, other]⟩
  · rw [rooted] at pieces
    have health : request.path = "/health" := rooted.trans (eq_health_of_segments pieces)
    have passes : Passes base64 config request := Or.inl health
    rcases served (if_neg (by decide)) with ⟨handled, method, extractor, never⟩
    exact ⟨⟨_, _, found, by simp [handled, passes], by simp [method, passes],
      by simp [extractor, passes]⟩, by simp [never, health]⟩

/-- A request for the summary and one for a mail which is not named in UTF-8, with credentials,
and a request without credentials for a path which no page uses. -/
theorem handled_iff_sample :
    react sampleEnv (fun _ => none) sampleBase64 sampleHttpConfiguration sampleRequest =
      .handle ⟨"/summary", .get, true⟩ [] ∧
    (∃ status, react sampleEnv (fun _ => none) sampleBase64 sampleHttpConfiguration
      { sampleRequest with path := "/mails/%FF" } = .reject status) ∧
    react sampleEnv (fun _ => none) sampleBase64 sampleHttpConfiguration
      { sampleRequest with path := "//health", headers := [] } = .respond unauthorized := by
  have summary : sampleRequest.path = "/" ++ "summary" := by decide
  have mail : ({ sampleRequest with path := "/mails/%FF" } : Request).path =
      "/" ++ "mails/%FF" := by decide
  have health : ({ sampleRequest with path := "//health", headers := [] } : Request).path =
      "/" ++ "/health" := by decide
  refine ⟨?_, ?_, ((handled_iff health).2 unauthorized).mpr ⟨by decide, by decide +kernel⟩⟩
  · rcases (@handled_iff sampleEnv (fun _ => none) sampleBase64 sampleHttpConfiguration _ _
      summary).1 with ⟨route, captured, found, handled, _⟩
    have same : routeOf "/summary" = some (⟨"/summary", .get, true⟩, []) := by decide +kernel
    cases same.symm.trans found
    refine handled.mpr ⟨Or.inr ⟨sampleRequest, by decide +kernel⟩, Or.inl rfl, ?_⟩
    exact (rejection_eq_none_iff found).mp (by decide +kernel)
  · rcases (@handled_iff sampleEnv (fun _ => none) sampleBase64 sampleHttpConfiguration _ _
      mail).1 with ⟨route, captured, found, _, _, rejected⟩
    have same : routeOf "/mails/%FF" = some (⟨"/mails/\x7bid\x7d", .get, true⟩, ["%FF"]) := by
      decide +kernel
    cases same.symm.trans found
    refine rejected.mpr ⟨Or.inr ⟨{ sampleRequest with path := "/mails/%FF" }, by decide +kernel⟩,
      Or.inl rfl, fun extractable => ?_⟩
    have accepted := (rejection_eq_none_iff found).mpr extractable
    revert accepted
    decide +kernel

end Protection

end DmarcReportViewer.Routes
