import DmarcReportViewer.Lib.BoundedReads
import DmarcReportViewer.Lib.Collections
import DmarcReportViewer.Lib.Fallible
import DmarcReportViewer.Basic

/-!
# The HTTP client

The model of `http_client.rs`.  The network, the URL parser and the HTTP library are
parameters.  The response may have endless frames, and its body is only read up to a limit.
-/

namespace DmarcReportViewer

open BoundedReads Collections Fallible

/-- `anyhow::ensure`. -/
def ensure (condition : Prop) [Decidable condition] (message : String) : Result Unit :=
  if condition then .ok () else .error message

@[simp]
theorem ensure_eq_ok_iff {condition : Prop} [Decidable condition] {message : String}
    {value : Unit} : ensure condition message = .ok value ↔ condition := by
  simp [ensure]

/-- The scheme of a URL. -/
inductive Scheme where
  | http
  | https
  | other (name : String)
deriving DecidableEq

/-- The parts of a URL which decide where a request is sent. -/
structure Uri where
  scheme : Option Scheme
  host : Option String
  port : Option UInt16
deriving DecidableEq

/-- A frame of a response: data or trailers. -/
inductive Frame where
  | data (chunk : List UInt8)
  | trailers

/-- A request as it is handed to the HTTP library. -/
structure HttpRequest where
  method : String
  url : String
  headers : List (String × String)
  body : List UInt8
deriving DecidableEq

/-- The head of a response and its frames by their positions. -/
structure HttpResponse where
  status : UInt16
  headers : List (String × String)
  frames : ℕ → Option (Result Frame)

/-- What lies outside of the client: parsers, connections and the remote host. -/
structure Network where
  parseUri : String → Result Uri
  connectTcp : String → Result Unit
  serverName : String → Result Unit
  connectTls : String → Result Unit
  handshake : Result Unit
  buildRequest : HttpRequest → Result Unit
  sendRequest : HttpRequest → Result HttpResponse

/-- The size of a body beyond which a response is not read. -/
def maxBodySize : ℕ :=
  1024 * 1024

def Frame.dataRef : Frame → List UInt8
  | .data chunk => chunk
  | .trailers => []

/-- Open a connection to a host. -/
def createStream (network : Network) (host : String) (port : UInt16) (tls : Bool) :
    Result Unit := do
  let address := host ++ ":" ++ toString port
  (network.connectTcp address).context ("Failed to connect TCP stream at " ++ address)
  if !tls then
    return
  (network.serverName host).context "Failed to get DNS name from host"
  (network.connectTls host).context "Failed to create TLS stream"

/-- The data in the frames of a response, with the errors of the loop. -/
def responsePieces (frames : ℕ → Option (Result Frame)) : Source String UInt8 := fun position =>
  (frames position).map fun frame =>
    (frame.context "Failed to receive next HTTP response chunk").map Frame.dataRef

/-- The loop over the frames of a response. -/
def receiveFrames (frames : ℕ → Option (Result Frame)) (fuel : ℕ) :
    Option (Result (List UInt8)) :=
  (read maxBodySize (responsePieces frames) fuel 0 []).map fun outcome =>
    match outcome with
    | .finished body => .ok body
    | .failed error => .error error
    | .tooBig => .error "HTTP response too big"

/-- Everything before the response is read: the request which is sent, and the response. -/
def sendHttpRequest (network : Network) (method url : String)
    (headers : HashMap String String) (order : IterationOrder String String)
    (body : List UInt8) : Result (HttpRequest × HttpResponse) := do
  let uri ← (network.parseUri url).context "Failed to parse URL"
  let scheme ← orError uri.scheme "URL has no scheme"
  ensure (scheme = .http ∨ scheme = .https) "Only plain HTTP or HTTPS is supported"
  let host ← orError uri.host "URL has no host"
  let port := uri.port.getD (if scheme = .https then 443 else 80)
  (createStream network host port (scheme = .https)).context "Failed to create stream"
  network.handshake.context "Failed to create HTTP handshake"
  let request := {
    method := method
    url := url
    headers := ("host", host) :: iterate order headers
    body := body }
  (network.buildRequest request).context "Failed to create HTTP request"
  let response ← (network.sendRequest request).context "Failed to send HTTP request"
  return (request, response)

/-- Send a request and read the response; `none` means that the fuel has run out. -/
def httpRequest (network : Network) (method url : String) (headers : HashMap String String)
    (order : IterationOrder String String) (body : List UInt8) (fuel : ℕ) :
    Option (Result (UInt16 × List (String × String) × List UInt8)) :=
  match sendHttpRequest network method url headers order body with
  | .error error => some (.error error)
  | .ok (_, response) =>
      (receiveFrames response.frames fuel).map fun received =>
        received.map fun body => (response.status, response.headers, body)

section Requests

variable {network : Network} {method url : String} {headers : HashMap String String}
  {order : IterationOrder String String} {body : List UInt8}

/-- The request which belongs to a call. -/
def requestFor (method url host : String) (headers : HashMap String String)
    (order : IterationOrder String String) (body : List UInt8) : HttpRequest where
  method := method
  url := url
  headers := ("host", host) :: iterate order headers
  body := body

/-- The host of a URL is reached: with TLS and on port 443 for HTTPS, else on port 80, unless
the URL has a port. -/
structure Reaches (network : Network) (url host : String) : Prop where
  uri : ∃ uri tls, network.parseUri url = .ok uri ∧
    uri.scheme = some (if tls then .https else .http) ∧ uri.host = some host ∧
      createStream network host (uri.port.getD (if tls then 443 else 80)) tls = .ok ()
  handshake : network.handshake = .ok ()

/-- A response which ends before its data exceed the limit. -/
def Completes (frames : ℕ → Option (Result Frame)) (last : ℕ) : Prop :=
  (∀ earlier < last, ∃ frame, frames earlier = some (.ok frame)) ∧ frames last = none ∧
    (dataBefore (responsePieces frames) last).length ≤ maxBodySize

theorem responsePieces_eq_none_iff {frames : ℕ → Option (Result Frame)} {position : ℕ} :
    responsePieces frames position = none ↔ frames position = none := by
  simp [responsePieces]

theorem responsePieces_eq_ok_iff {frames : ℕ → Option (Result Frame)} {position : ℕ}
    {piece : List UInt8} :
    responsePieces frames position = some (.ok piece) ↔
      ∃ frame, frames position = some (.ok frame) ∧ frame.dataRef = piece := by
  simp only [responsePieces]
  rcases frames position with _ | (error | frame)
  · simp
  · simp [Result.context, Except.map]
  · simp [Result.context, Except.map]

theorem receiveFrames_eq_ok_iff {frames : ℕ → Option (Result Frame)} {fuel : ℕ}
    {data : List UInt8} :
    receiveFrames frames fuel = some (.ok data) ↔
      ∃ last < fuel, Completes frames last ∧ data = dataBefore (responsePieces frames) last := by
  have finished : receiveFrames frames fuel = some (.ok data) ↔
      read maxBodySize (responsePieces frames) fuel 0 [] = some (.finished data) := by
    simp only [receiveFrames]
    rcases read maxBodySize (responsePieces frames) fuel 0 [] with _ | (_ | _ | _) <;> simp
  rw [finished, read_eq_some_iff]
  constructor
  · rintro ⟨last, bound, within, ended, rfl⟩
    refine ⟨last, bound, ⟨?_, responsePieces_eq_none_iff.mp ended, within.length_le⟩, rfl⟩
    intro earlier before
    rcases (within earlier before).1 with ⟨piece, found⟩
    rcases responsePieces_eq_ok_iff.mp found with ⟨frame, arrived, _⟩
    exact ⟨frame, arrived⟩
  · rintro ⟨last, bound, ⟨arrived, ended, small⟩, rfl⟩
    refine ⟨last, bound, ?_, responsePieces_eq_none_iff.mpr ended, rfl⟩
    intro earlier before
    rcases arrived earlier before with ⟨frame, found⟩
    refine ⟨⟨frame.dataRef, responsePieces_eq_ok_iff.mpr ⟨frame, found, rfl⟩⟩, ?_⟩
    exact (length_dataBefore_mono before).trans small

theorem sendHttpRequest_eq_ok_iff {sent : HttpRequest} {response : HttpResponse} :
    sendHttpRequest network method url headers order body = .ok (sent, response) ↔
      ∃ host, Reaches network url host ∧ sent = requestFor method url host headers order body ∧
        network.buildRequest sent = .ok () ∧ network.sendRequest sent = .ok response := by
  simp only [sendHttpRequest, bind_eq_ok_iff, context_eq_ok_iff, orError_eq_ok_iff,
    pure_eq_ok_iff, ensure_eq_ok_iff, Prod.mk.injEq]
  constructor
  · rintro ⟨uri, parsed, scheme, hasScheme, _, known, host, hasHost, _, connected, _, handshake,
      _, built, answer, sentOk, rfl, rfl⟩
    refine ⟨host, ⟨⟨uri, decide (scheme = .https), parsed, ?_, hasHost, ?_⟩, handshake⟩, rfl,
      built, sentOk⟩
    · rcases known with rfl | rfl
      · simpa using hasScheme
      · simpa using hasScheme
    · simpa using connected
  · rintro ⟨host, ⟨⟨uri, tls, parsed, hasScheme, hasHost, connected⟩, handshake⟩, rfl, built,
      sentOk⟩
    refine ⟨uri, parsed, _, hasScheme, (), ?_, host, hasHost, (), ?_, (), handshake, (), built,
      response, sentOk, rfl, rfl⟩
    · cases tls <;> simp
    · cases tls <;> simpa using connected

theorem httpRequest_eq_some_ok_iff {fuel : ℕ} {status : UInt16}
    {responseHeaders : List (String × String)} {data : List UInt8} :
    httpRequest network method url headers order body fuel =
        some (.ok (status, responseHeaders, data)) ↔
      ∃ host response, Reaches network url host ∧
        network.buildRequest (requestFor method url host headers order body) = .ok () ∧
        network.sendRequest (requestFor method url host headers order body) = .ok response ∧
        status = response.status ∧ responseHeaders = response.headers ∧
        ∃ last < fuel, Completes response.frames last ∧
          data = dataBefore (responsePieces response.frames) last := by
  have received : ∀ {sent : HttpRequest} {response : HttpResponse},
      sendHttpRequest network method url headers order body = .ok (sent, response) →
        (httpRequest network method url headers order body fuel =
            some (.ok (status, responseHeaders, data)) ↔
          receiveFrames response.frames fuel = some (.ok data) ∧ status = response.status ∧
            responseHeaders = response.headers) := by
    intro sent response sentOk
    simp only [httpRequest, sentOk]
    rcases receiveFrames response.frames fuel with _ | (error | arrived)
    · simp
    · simp [Except.map]
    · simp only [Option.map_some, Except.map, Option.some.injEq, Except.ok.injEq, Prod.mk.injEq]
      tauto
  constructor
  · intro returned
    cases sentOk : sendHttpRequest network method url headers order body with
    | error error => simp [httpRequest, sentOk] at returned
    | ok exchange =>
        rcases exchange with ⟨sent, response⟩
        rcases (received sentOk).mp returned with ⟨arrived, sameStatus, sameHeaders⟩
        rcases sendHttpRequest_eq_ok_iff.mp sentOk with ⟨host, reaches, rfl, built, answered⟩
        exact ⟨host, response, reaches, built, answered, sameStatus, sameHeaders,
          receiveFrames_eq_ok_iff.mp arrived⟩
  · rintro ⟨host, response, reaches, built, answered, sameStatus, sameHeaders, arrived⟩
    have sentOk := sendHttpRequest_eq_ok_iff.mpr ⟨host, reaches, rfl, built, answered⟩
    exact (received sentOk).mpr ⟨receiveFrames_eq_ok_iff.mpr arrived, sameStatus, sameHeaders⟩

/-- A response whose frames all carry data is left after a bounded number of them. -/
theorem receiveFrames_returns {frames : ℕ → Option (Result Frame)}
    (nonempty : ∀ position frame, frames position = some (.ok frame) → frame.dataRef ≠ []) :
    ∃ result, receiveFrames frames (maxBodySize + 2) = some result := by
  have pieces : ∀ position piece, responsePieces frames position = some (.ok piece) →
      piece ≠ [] := by
    intro position piece found
    rcases responsePieces_eq_ok_iff.mp found with ⟨frame, arrived, rfl⟩
    exact nonempty position frame arrived
  rcases read_returns pieces with ⟨outcome, returned⟩
  exact ⟨_, by rw [receiveFrames, returned, Option.map_some]⟩

variable (network method url headers order body) in
/-- A call returns a response if and only if the host of the URL is reached, the request is
accepted and the response ends before its body exceeds the limit; the body consists of the
data in all frames.  A host which never stops to send data cannot keep the call running. -/
theorem httpRequest_bounded :
    (∀ fuel status responseHeaders data,
      httpRequest network method url headers order body fuel =
          some (.ok (status, responseHeaders, data)) ↔
        ∃ host response, Reaches network url host ∧
          network.buildRequest (requestFor method url host headers order body) = .ok () ∧
          network.sendRequest (requestFor method url host headers order body) = .ok response ∧
          status = response.status ∧ responseHeaders = response.headers ∧
          ∃ last < fuel, Completes response.frames last ∧
            data = dataBefore (responsePieces response.frames) last) ∧
    ∀ sent response,
      sendHttpRequest network method url headers order body = .ok (sent, response) →
        (∀ position frame, response.frames position = some (.ok frame) → frame.dataRef ≠ []) →
          ∃ result, httpRequest network method url headers order body (maxBodySize + 2) =
            some result := by
  refine ⟨?_, ?_⟩
  · intro fuel status responseHeaders data
    exact httpRequest_eq_some_ok_iff
  · intro sent response sentOk nonempty
    rcases receiveFrames_returns nonempty with ⟨result, returned⟩
    refine ⟨result.map fun data => (response.status, response.headers, data), ?_⟩
    simp only [httpRequest, sentOk, returned, Option.map_some]

/-- A network in which every request is answered with the same frames. -/
def sampleNetwork (frames : ℕ → Option (Result Frame)) : Network where
  parseUri _ := .ok { scheme := some .http, host := some "hook.example", port := none }
  connectTcp _ := .ok ()
  serverName _ := .ok ()
  connectTls _ := .ok ()
  handshake := .ok ()
  buildRequest _ := .ok ()
  sendRequest _ := .ok { status := 200, headers := [], frames := frames }

/-- A response in one frame, and a host which never stops to send. -/
theorem httpRequest_bounded_sample :
    httpRequest
        (sampleNetwork fun position => if position = 0 then some (.ok (.data [1])) else none)
        "GET" "http://hook.example/" ∅ (.byKey String String) [] 2 = some (.ok (200, [], [1])) ∧
      ∃ result, httpRequest (sampleNetwork fun _ => some (.ok (.data [1]))) "GET"
        "http://hook.example/" ∅ (.byKey String String) [] (maxBodySize + 2) = some result := by
  constructor
  · apply ((httpRequest_bounded _ _ _ _ _ _).1 2 200 [] [1]).mpr
    refine ⟨"hook.example", _, ⟨⟨_, false, rfl, rfl, rfl, rfl⟩, rfl⟩, rfl, rfl, rfl, rfl, 1,
      by decide, ⟨?_, rfl, by decide⟩, rfl⟩
    intro earlier before
    cases Nat.lt_one_iff.mp before
    exact ⟨_, rfl⟩
  · apply (httpRequest_bounded _ _ _ _ _ _).2 _ _ rfl
    intro position frame found
    cases found
    exact List.cons_ne_nil _ _

end Requests

end DmarcReportViewer
