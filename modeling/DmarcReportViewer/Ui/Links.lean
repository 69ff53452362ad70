import DmarcReportViewer.Http.Query

/-!
# Links to the lists

The routes of `ui/components/app.js` and the requests of `dmarc-reports.js`,
`tls-reports.js` and `mails.js`.  A value is percent-encoded when it is put into a link and
once more when it is put into a request.
-/

namespace DmarcReportViewer.Ui

open Forms Text

section Browser

def unreserved (char : Char) : Bool :=
  char.isAlphanum || "-_.!~*'()".toList.contains char

def encodeURIComponent (text : String) : String :=
  Percent.encode unreserved text

/-- A link to a list which is filtered by one value. -/
def link (route name value : String) : String :=
  "#" ++ route ++ "?" ++ name ++ "=" ++ encodeURIComponent value

def isVisible (char : Char) : Bool :=
  0x21 ≤ char.toNat && char.toNat ≤ 0x7e

/-- What stays as it is in the fragment of an address. -/
def keptInFragment (char : Char) : Bool :=
  isVisible char && !"\"<>\x60".toList.contains char

/-- What stays as it is in the query of an address. -/
def keptInQuery (char : Char) : Bool :=
  isVisible char && !"\"#<>'".toList.contains char

/-- `document.location.hash` after a link to a fragment was followed. -/
def locationHash (link : String) : String :=
  "#" ++ Percent.encode keptInFragment (removeFirst link)

/-- The query string of the request for an address. -/
def fetchedQuery (url : String) : String :=
  let address :=
    match splitOnce url '#' with
    | some (address, _) => address
    | none => url
  match splitOnce address '?' with
  | some (_, query) => Percent.encode keptInQuery query
  | none => ""

end Browser

section Routes

/-- An object with the parameters of a route, in the order in which they were added.  Only a
link which is built from them shows their order. -/
abbrev Params : Type :=
  List (String × String)

def setParam (params : Params) (name value : String) : Params :=
  if params.any fun param => param.1 = name then
    params.map fun param => if param.1 = name then (name, value) else param
  else
    params ++ [(name, value)]

/-- The body of the loop over the parameters. -/
def addParam (params : Params) (param : String) : Params :=
  match split param "=" with
  | [name, value] => setParam params name value
  | _ => params

/-- The route and its parameters. -/
def onHashChange (hash : String) : String × Params :=
  match splitOnce hash '?' with
  | some (hash, params) => (hash, (split params "&").foldl addParam [])
  | none => (hash, [])

inductive Component where
  | dmarcReports
  | tlsReports
  | dmarcReport (reportId : String)
  | tlsReport (reportId : String)
  | mails
  | mail (mailId : String)
  | sources
  | about
  | dashboard
deriving DecidableEq

def component (hash : String) : Component :=
  if hash = "#/dmarc-reports" then .dmarcReports
  else if hash = "#/tls-reports" then .tlsReports
  else if startsWith hash "#/dmarc-reports/" then
    .dmarcReport (String.ofList (hash.toList.drop 16))
  else if startsWith hash "#/tls-reports/" then .tlsReport (String.ofList (hash.toList.drop 14))
  else if hash = "#/mails" then .mails
  else if startsWith hash "#/mails/" then .mail (String.ofList (hash.toList.drop 8))
  else if hash = "#/sources" then .sources
  else if hash = "#/about" then .about
  else .dashboard

end Routes

section Requests

/-- The filters of the toolbar: the time range as Unix timestamps, and the number of
records. -/
structure QuickFilters where
  beginUnix : Option Int := none
  endUnix : Option Int := none
  recordsGt : Nat := 0

/-- A parameter which is `true` or `false` is sent. -/
def flagParam (params : Params) (name : String) : Params :=
  match params.lookup name with
  | some value => if value = "true" ∨ value = "false" then [(name, value)] else []
  | none => []

/-- A parameter which is not empty is encoded and sent. -/
def textParam (params : Params) (name : String) : Params :=
  match params.lookup name with
  | some value => if value = "" then [] else [(name, encodeURIComponent value)]
  | none => []

def numberParam (name : String) (number : Option Int) : Params :=
  number.toList.map fun number => (name, toString number)

def address (path : String) (urlParams : Params) : String :=
  if urlParams = [] then path else path ++ "?" ++ join urlParams

def QuickFilters.timeParams (quick : QuickFilters) : Params :=
  numberParam "begin" quick.beginUnix ++ numberParam "end" quick.endUnix

def QuickFilters.recordsParams (quick : QuickFilters) : Params :=
  if quick.recordsGt > 0 then [("records_gt", toString quick.recordsGt)] else []

/-- The address which `updateReports` of `dmarc-reports.js` fetches. -/
def updateDmarcReports (params : Params) (quick : QuickFilters) : String :=
  address "dmarc-reports" (flagParam params "flagged" ++ flagParam params "flagged_dkim" ++
    flagParam params "flagged_spf" ++ flagParam params "flagged_dmarc" ++
    textParam params "domain" ++ textParam params "org" ++ textParam params "ip" ++
    (quick.timeParams ++ quick.recordsParams))

/-- The address which `updateReports` of `tls-reports.js` fetches. -/
def updateTlsReports (params : Params) : String :=
  address "tls-reports" (flagParam params "flagged" ++ flagParam params "flagged_sts" ++
    flagParam params "flagged_tlsa" ++ textParam params "domain" ++ textParam params "org" ++
    textParam params "ip")

def updateMails (params : Params) (quick : QuickFilters) : String :=
  address "mails" (flagParam params "oversized" ++ textParam params "sender" ++
    textParam params "attachment" ++ flagParam params "errors" ++ flagParam params "duplicates" ++
    quick.timeParams)

end Requests

section Following

variable (env : Externals) (link : String) (quick : QuickFilters)

/-- The filters of the request after a link was followed, with the URL encoding removed.
There are none if the link leads to another page or if the request is rejected. -/
def dmarcFilters : Option DmarcReports.ReportFilters := do
  let (hash, params) := onHashChange (locationHash link)
  guard (component hash = .dmarcReports)
  let filters ← DmarcReports.ReportFilters.fromQuery env
    (fetchedQuery (updateDmarcReports params quick))
  return filters.urlDecode env

def tlsFilters : Option TlsReports.ReportFilters := do
  let (hash, params) := onHashChange (locationHash link)
  guard (component hash = .tlsReports)
  let filters ← TlsReports.ReportFilters.fromQuery env (fetchedQuery (updateTlsReports params))
  return filters.urlDecode env

def mailFilters : Option Mails.MailFilters := do
  let (hash, params) := onHashChange (locationHash link)
  guard (component hash = .mails)
  let filters ← Mails.MailFilters.fromQuery env (fetchedQuery (updateMails params quick))
  return filters.urlDecode env

end Following

end DmarcReportViewer.Ui
