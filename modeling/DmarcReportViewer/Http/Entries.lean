import DmarcReportViewer.Http.Export
import DmarcReportViewer.Http.Query
import DmarcReportViewer.Http.Routes

/-!
# Single entries

The model of `single_handler` and `errors_handler` of `http/mails.rs` and of
`single_handler` of `http/dmarc_reports.rs` and `http/tls_reports.rs`, and of the answers
which a page gets to its requests.
-/

namespace DmarcReportViewer.Entries

open Collections Export

/-- How the handlers write their results as JSON. -/
structure JsonBodies where
  mail : Mail → String
  mails : List Mail → String
  errors : List ReportParsingError → String
  dmarcReport : DmarcReportWithMailId → String
  dmarcReports : List DmarcReports.ReportHeader → String
  tlsReport : TlsReportWithMailId → String
  tlsReports : List TlsReports.ReportHeader → String

def foundResponse {α : Type} (toJson : α → String) (value : α) : Export.Response where
  status := 200
  contentType := "application/json"
  body := toJson value

def missingResponse (message : String) : Export.Response where
  status := 404
  contentType := "text/plain"
  body := message

section Handlers

variable (json : JsonBodies) (state : AppState) (id : String)

def mailSingleHandler : Export.Response :=
  match state.mails.toList.find? fun (i, _) => i = id with
  | some (_, mail) => foundResponse json.mail mail
  | none => missingResponse "Cannot find mail"

def errorsHandler : Export.Response :=
  if ¬ id ∈ state.mails then
    missingResponse "Cannot find mail"
  else
    foundResponse json.errors (state.parsingErrors[id]?.getD [])

/-- The handlers which look a report up. -/
def reportSingleHandler {ρ : Type} (toJson : ReportWithMailId ρ → String)
    (reports : BTreeMap String (ReportWithMailId ρ)) : Export.Response :=
  match reports[id]? with
  | some rwi => foundResponse toJson rwi
  | none => missingResponse "Cannot find report"

def dmarcSingleHandler : Export.Response :=
  reportSingleHandler id json.dmarcReport state.dmarcReports

def tlsSingleHandler : Export.Response :=
  reportSingleHandler id json.tlsReport state.tlsReports

end Handlers

/-- The answer to a `GET` request which is handled by one of these handlers or by one of the
lists.  There is none if the request is rejected before its handler is called. -/
def answer (env : Externals) (json : JsonBodies) (state : AppState) (path query : String) :
    Option Export.Response := do
  let (route, captured) ← Routes.routeOf path
  match route.path, captured with
  | "/mails", [] => do
      let filters ← Mails.MailFilters.fromQuery env query
      return foundResponse json.mails (Mails.listHandler env state filters)
  | "/mails/\x7bid\x7d", [id] => return mailSingleHandler json state (← Percent.decode id)
  | "/mails/\x7bid\x7d/errors", [id] => return errorsHandler json state (← Percent.decode id)
  | "/dmarc-reports", [] => do
      let filters ← DmarcReports.ReportFilters.fromQuery env query
      return foundResponse json.dmarcReports (DmarcReports.listHandler env state filters)
  | "/dmarc-reports/\x7bid\x7d", [id] => return dmarcSingleHandler json state (← Percent.decode id)
  | "/tls-reports", [] => do
      let filters ← TlsReports.ReportFilters.fromQuery env query
      return foundResponse json.tlsReports (TlsReports.listHandler env state filters)
  | "/tls-reports/\x7bid\x7d", [id] => return tlsSingleHandler json state (← Percent.decode id)
  | _, _ => none

end DmarcReportViewer.Entries
