import DmarcReportViewer.Config
import DmarcReportViewer.HttpClient
import DmarcReportViewer.Lib.Text
import DmarcReportViewer.WebHook

/-!
# Calls of the web hook

The model of `mail_web_hook` from `web_hook.rs`: the details of a mail are looked up and put
into the templates of the URL and of the body, and the request is sent.  The parsers for
methods and headers are parameters.
-/

namespace DmarcReportViewer

open Collections Fallible

/-- The settings of a web hook besides its URL. -/
structure WebHookSettings where
  mailWebHookMethod : String
  mailWebHookHeaders : Option String
  mailWebHookBody : Option String

/-- The functions which a web hook needs from outside. -/
structure WebHookExternals where
  urlEncode : String → String
  parseMethod : String → Result String
  parseHeaders : String → Result (HashMap String String)

/-- What a web hook sends. -/
structure WebHookCall where
  method : String
  url : String
  headers : HashMap String String
  body : List UInt8

/-- The optional headers of a web hook. -/
def webHookHeaders (externals : WebHookExternals) (settings : WebHookSettings) :
    Result (HashMap String String) :=
  match settings.mailWebHookHeaders with
  | some json => (externals.parseHeaders json).context "Failed to parse optional header JSON"
  | none => .ok ∅

/-- The optional body of a web hook. -/
def webHookBody (externals : WebHookExternals) (settings : WebHookSettings)
    (order : IterationOrder String String) (mailDetails : HashMap String String) :
    Result (List UInt8) :=
  match settings.mailWebHookBody with
  | some body => do
      let body ← (injectMailDetails externals.urlEncode order mailDetails body
        false).context "Fauled to inject templates into mail body"
      return Text.asBytes body
  | none => .ok []

/-- Everything before the request is sent.  The details are read in the iteration order of
their hash map. -/
def prepareWebHook (externals : WebHookExternals) (config : Configuration)
    (settings : WebHookSettings) (order : IterationOrder String String) (mailId : String)
    (state : AppState) : Result WebHookCall := do
  let mailDetails ← (getMailDetails mailId state).context "Failed to get mail details"
  let url ← orError config.mailWebHookUrl "Failed to get web hook URL for new mails"
  let url ← (injectMailDetails externals.urlEncode order mailDetails url true).context
    "Failed to inject templates into URL"
  let method ← (externals.parseMethod settings.mailWebHookMethod).context
    ("Failed to parse string " ++ settings.mailWebHookMethod ++ " as HTTP method")
  let headers ← webHookHeaders externals settings
  let body ← webHookBody externals settings order mailDetails
  return { method := method, url := url, headers := headers, body := body }

/-- A call of the web hook for a mail; `none` means that the fuel has run out. -/
def mailWebHook (externals : WebHookExternals) (network : Network) (config : Configuration)
    (settings : WebHookSettings) (order headerOrder : IterationOrder String String)
    (mailId : String) (state : AppState) (fuel : ℕ) : Option (Result Unit) :=
  match prepareWebHook externals config settings order mailId state with
  | .error error => some (.error error)
  | .ok call =>
      (httpRequest network call.method call.url call.headers headerOrder call.body fuel).map
        fun response => (response.context "Failed to send HTTP request").map fun _ => ()

/-- The method and the headers of a web hook can be used. -/
structure WebHookSettings.Usable (externals : WebHookExternals) (settings : WebHookSettings) :
    Prop where
  method : ∃ method, externals.parseMethod settings.mailWebHookMethod = .ok method
  headers : ∀ json, settings.mailWebHookHeaders = some json →
    ∃ headers, externals.parseHeaders json = .ok headers

variable {externals : WebHookExternals} {config : Configuration} {settings : WebHookSettings}
  {order : IterationOrder String String} {mailId : String} {state : AppState}

theorem webHookHeaders_isOk_iff :
    (∃ headers, webHookHeaders externals settings = .ok headers) ↔
      ∀ json, settings.mailWebHookHeaders = some json →
        ∃ headers, externals.parseHeaders json = .ok headers := by
  simp only [webHookHeaders]
  cases settings.mailWebHookHeaders with
  | none => simp
  | some json => simp

theorem webHookBody_isOk (mailDetails : HashMap String String) :
    ∃ body, webHookBody externals settings order mailDetails = .ok body := by
  simp only [webHookBody]
  cases settings.mailWebHookBody with
  | none => exact ⟨[], rfl⟩
  | some body => exact ⟨_, rfl⟩

/-- A call can be prepared if and only if the mail is known and the settings can be used. -/
theorem prepareWebHook_isOk_iff :
    (∃ call, prepareWebHook externals config settings order mailId state = .ok call) ↔
      mailId ∈ state.mails ∧ config.mailWebHookUrl.isSome ∧ settings.Usable externals := by
  simp only [prepareWebHook, bind_eq_ok_iff, context_eq_ok_iff, orError_eq_ok_iff,
    pure_eq_ok_iff]
  constructor
  · rintro ⟨call, details, found, url, configured, _, _, method, parsed, headers, headersOk, _⟩
    exact ⟨getMailDetails_isOk_iff.mp ⟨details, found⟩, by simp [configured],
      ⟨method, parsed⟩, webHookHeaders_isOk_iff.mp ⟨headers, headersOk⟩⟩
  · rintro ⟨known, configured, ⟨method, parsed⟩, headersUsable⟩
    rcases getMailDetails_isOk_iff.mpr known with ⟨details, found⟩
    rcases Option.isSome_iff_exists.mp configured with ⟨url, urlGiven⟩
    rcases webHookHeaders_isOk_iff.mpr headersUsable with ⟨headers, headersOk⟩
    rcases webHookBody_isOk details with ⟨body, bodyOk⟩
    exact ⟨_, details, found, url, urlGiven, _, rfl, method, parsed, headers, headersOk, body,
      bodyOk, rfl⟩

/-- The request of a call is accepted by the host of its URL, and answered within the limits. -/
def WebHookCall.Answered (network : Network) (headerOrder : IterationOrder String String)
    (fuel : ℕ) (call : WebHookCall) : Prop :=
  ∃ host response, Reaches network call.url host ∧
    network.buildRequest
      (requestFor call.method call.url host call.headers headerOrder call.body) = .ok () ∧
    network.sendRequest
      (requestFor call.method call.url host call.headers headerOrder call.body) = .ok response ∧
    ∃ last < fuel, Completes response.frames last

/-- A call succeeds if and only if it can be prepared and its request is answered. -/
theorem mailWebHook_eq_ok_iff {network : Network} {headerOrder : IterationOrder String String}
    {fuel : ℕ} :
    mailWebHook externals network config settings order headerOrder mailId state fuel =
        some (.ok ()) ↔
      ∃ call, prepareWebHook externals config settings order mailId state = .ok call ∧
        call.Answered network headerOrder fuel := by
  cases prepared : prepareWebHook externals config settings order mailId state with
  | error error => simp [mailWebHook, prepared]
  | ok call =>
      have returned : mailWebHook externals network config settings order headerOrder mailId
          state fuel = some (.ok ()) ↔
            ∃ answer, httpRequest network call.method call.url call.headers headerOrder call.body
              fuel = some (.ok answer) := by
        simp only [mailWebHook, prepared]
        rcases httpRequest network call.method call.url call.headers headerOrder call.body
          fuel with _ | (error | answer)
        · simp
        · simp [Result.context, Except.map]
        · simp [Result.context, Except.map]
      rw [returned]
      constructor
      · rintro ⟨⟨status, headers, data⟩, answered⟩
        rcases httpRequest_eq_some_ok_iff.mp answered with
          ⟨host, response, reaches, built, sent, _, _, last, bound, completes, _⟩
        exact ⟨call, rfl, host, response, reaches, built, sent, last, bound, completes⟩
      · rintro ⟨_, same, host, response, reaches, built, sent, last, bound, completes⟩
        cases same
        exact ⟨_, httpRequest_eq_some_ok_iff.mpr
          ⟨host, response, reaches, built, sent, rfl, rfl, last, bound, completes, rfl⟩⟩

/-- A call depends on the mails and the reports in the state, and on nothing else. -/
theorem mailWebHook_congr {network : Network} {headerOrder : IterationOrder String String}
    {fuel : ℕ} {other : AppState} (mails : state.mails = other.mails)
    (reports : ∀ fileType, state.reports fileType = other.reports fileType) :
    mailWebHook externals network config settings order headerOrder mailId state fuel =
      mailWebHook externals network config settings order headerOrder mailId other fuel := by
  have dmarc : state.dmarcReports = other.dmarcReports := reports .xml
  have tls : state.tlsReports = other.tlsReports := reports .json
  simp only [mailWebHook, prepareWebHook, getMailDetails, mails, dmarc, tls]

end DmarcReportViewer
