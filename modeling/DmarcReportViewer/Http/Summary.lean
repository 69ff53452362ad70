import DmarcReportViewer.Externals
import DmarcReportViewer.Lib.Histogram
import DmarcReportViewer.State

/-!
# The summary of all reports

The model of `http/summary.rs`.  A summary counts all reports that pass a time
filter and a domain filter in a number of histograms.  The loops of the source
are folds over the histograms, and every `get_mut`-or-`insert` is a `bump`.
-/

namespace DmarcReportViewer

open Collections Histogram

section Time

/-- A signed time span in nanoseconds. -/
abbrev Duration : Type :=
  Int

def nanosPerSecond : Int :=
  1000000000

/-- A duration of whole hours.  It panics if the milliseconds do not fit into
64 bits. -/
def Duration.hours (hours : Int) : Result Duration :=
  if (hours * 3600).natAbs ≤ 9223372036854775 then
    .ok (hours * 3600 * nanosPerSecond)
  else
    .error "TimeDelta::hours out of bounds"

/-- Subtract a duration from a point in time.  It panics outside of the years
from -262143 to 262142. -/
def subDuration (time : DateTime) (duration : Duration) : Result DateTime :=
  let difference := time - duration
  if -8334601228800 * nanosPerSecond ≤ difference ∧
      difference < 8210266876800 * nanosPerSecond then
    .ok difference
  else
    .error "DateTime - TimeDelta overflowed"

/-- The seconds since the Unix epoch. -/
def timestamp (time : DateTime) : Int :=
  time / nanosPerSecond

/-- The conversion of a signed to an unsigned 64-bit integer. -/
def asU64 (number : Int) : UInt64 :=
  UInt64.ofNat (number % 2 ^ 64).toNat

/-- The conversion of an unsigned to a signed 64-bit integer. -/
def asI64 (number : UInt64) : Int :=
  if number.toNat < 2 ^ 63 then number.toNat else number.toNat - 2 ^ 64

end Time

structure DmarcSummary where
  files : Nat
  reports : Nat
  orgs : HashMap String UInt64
  domains : HashMap String UInt64
  spfPolicyResults : HashMap Dmarc.DmarcResultType UInt64
  dkimPolicyResults : HashMap Dmarc.DmarcResultType UInt64
  spfAuthResults : HashMap Dmarc.SpfResultType UInt64
  dkimAuthResults : HashMap Dmarc.DkimResultType UInt64

structure TlsSummary where
  files : Nat
  reports : Nat
  orgs : HashMap String UInt64
  domains : HashMap String UInt64
  policyTypes : HashMap Tls.PolicyType UInt64
  stsPolicyResults : HashMap Tls.TlsResultType UInt64
  tlsaPolicyResults : HashMap Tls.TlsResultType UInt64
  stsFailureTypes : HashMap Tls.FailureResultType UInt64
  tlsaFailureTypes : HashMap Tls.FailureResultType UInt64

structure Files where
  xml : Nat
  json : Nat

structure Reports where
  dmarc : BTreeMap String DmarcReportWithMailId
  tls : BTreeMap String TlsReportWithMailId

structure Summary where
  mails : Nat
  lastUpdate : UInt64
  nextUpdate : UInt64
  dmarc : DmarcSummary
  tls : TlsSummary

/-- The beginning of the time span, for either kind of dates. -/
structure Thresholds where
  seconds : Option UInt64
  datetime : Option DateTime

/-- Both thresholds are taken from readings of the clock of their own. -/
def Summary.thresholds (timeSpan : Option Duration) (now later : DateTime) :
    Result Thresholds :=
  match timeSpan with
  | none => .ok { seconds := none, datetime := none }
  | some duration => do
      let begin ← subDuration now duration
      let beginDatetime ← subDuration later duration
      return { seconds := some (asU64 (timestamp begin)), datetime := some beginDatetime }

namespace DmarcSummary

def empty (files reports : Nat) : DmarcSummary where
  files := files
  reports := reports
  orgs := ∅
  domains := ∅
  spfPolicyResults := ∅
  dkimPolicyResults := ∅
  spfAuthResults := ∅
  dkimAuthResults := ∅

def addRecord (dmarc : DmarcSummary) (record : Dmarc.RecordType) : DmarcSummary :=
  let dmarc := record.authResults.spf.foldl
    (fun dmarc r =>
      { dmarc with spfAuthResults := bump dmarc.spfAuthResults r.result record.row.count })
    dmarc
  let dmarc :=
    match record.authResults.dkim with
    | some vec => vec.foldl
        (fun dmarc r =>
          { dmarc with dkimAuthResults := bump dmarc.dkimAuthResults r.result record.row.count })
        dmarc
    | none => dmarc
  let dmarc :=
    match record.row.policyEvaluated.spf with
    | some result =>
        { dmarc with spfPolicyResults := bump dmarc.spfPolicyResults result record.row.count }
    | none => dmarc
  match record.row.policyEvaluated.dkim with
  | some result =>
      { dmarc with dkimPolicyResults := bump dmarc.dkimPolicyResults result record.row.count }
  | none => dmarc

def addReport (env : Externals) (dmarc : DmarcSummary) (report : Dmarc.Report) : DmarcSummary :=
  let domain := env.toLowercase report.policyPublished.domain
  let dmarc := { dmarc with domains := bump dmarc.domains domain 1 }
  let dmarc := { dmarc with orgs := bump dmarc.orgs report.reportMetadata.orgName 1 }
  report.record.foldl addRecord dmarc

/-- The body of the loop over the DMARC reports. -/
def visit (env : Externals) (threshold : Option UInt64) (domainFilter : Option String)
    (dmarc : DmarcSummary) (rwi : DmarcReportWithMailId) : DmarcSummary :=
  if threshold.any fun threshold => rwi.report.reportMetadata.dateRange.«end» < threshold then
    dmarc
  else if domainFilter.any fun df => env.toLowercase rwi.report.policyPublished.domain ≠ df then
    dmarc
  else
    dmarc.addReport env rwi.report

end DmarcSummary

namespace TlsSummary

def empty (files reports : Nat) : TlsSummary where
  files := files
  reports := reports
  orgs := ∅
  domains := ∅
  policyTypes := ∅
  stsPolicyResults := ∅
  tlsaPolicyResults := ∅
  stsFailureTypes := ∅
  tlsaFailureTypes := ∅

/-- Count the sessions of a policy. -/
def addSessions (policyResults : HashMap Tls.TlsResultType UInt64)
    (policyResult : Tls.PolicyResult) : HashMap Tls.TlsResultType UInt64 :=
  let successCount := policyResult.summary.totalSuccessfulSessionCount
  let failureCount := policyResult.summary.totalFailureSessionCount
  let policyResults := bump policyResults .successful successCount
  bump policyResults .failure failureCount

/-- Count the failed sessions of a policy. -/
def addFailures (failureTypes : HashMap Tls.FailureResultType UInt64)
    (policyResult : Tls.PolicyResult) : HashMap Tls.FailureResultType UInt64 :=
  match policyResult.failureDetails with
  | some failureDetails => failureDetails.foldl
      (fun failureTypes failureDetail =>
        bump failureTypes failureDetail.resultType failureDetail.failedSessionCount)
      failureTypes
  | none => failureTypes

def addPolicyResult (env : Externals) (tls : TlsSummary) (policyResult : Tls.PolicyResult) :
    TlsSummary :=
  let domain := env.toLowercase policyResult.policy.policyDomain
  let tls := { tls with domains := bump tls.domains domain 1 }
  let tls := { tls with policyTypes := bump tls.policyTypes policyResult.policy.policyType 1 }
  match policyResult.policy.policyType with
  | .sts =>
      { tls with
        stsPolicyResults := addSessions tls.stsPolicyResults policyResult
        stsFailureTypes := addFailures tls.stsFailureTypes policyResult }
  | .tlsa =>
      { tls with
        tlsaPolicyResults := addSessions tls.tlsaPolicyResults policyResult
        tlsaFailureTypes := addFailures tls.tlsaFailureTypes policyResult }
  | .noPolicyFound => tls

def addReport (env : Externals) (tls : TlsSummary) (report : Tls.Report) : TlsSummary :=
  let tls := { tls with orgs := bump tls.orgs report.organizationName 1 }
  report.policies.foldl (addPolicyResult env) tls

/-- The body of the loop over the TLS reports. -/
def visit (env : Externals) (threshold : Option DateTime) (domainFilter : Option String)
    (tls : TlsSummary) (rwi : TlsReportWithMailId) : TlsSummary :=
  if threshold.any fun threshold => rwi.report.dateRange.endDatetime < threshold then
    tls
  else if domainFilter.any fun df =>
      rwi.report.policies.all fun p => env.toLowercase p.policy.policyDomain ≠ df then
    tls
  else
    tls.addReport env rwi.report

end TlsSummary

/-- The summary for given thresholds. -/
def Summary.newSince (env : Externals) (mails : Nat) (files : Files) (reports : Reports)
    (lastUpdate nextUpdate : UInt64) (thresholds : Thresholds) (domainFilter : Option String) :
    Summary :=
  let domainFilter := domainFilter.map env.toLowercase
  { mails := mails
    lastUpdate := lastUpdate
    nextUpdate := nextUpdate
    dmarc := (valueList reports.dmarc).foldl
      (DmarcSummary.visit env thresholds.seconds domainFilter)
      (DmarcSummary.empty files.xml reports.dmarc.size)
    tls := (valueList reports.tls).foldl
      (TlsSummary.visit env thresholds.datetime domainFilter)
      (TlsSummary.empty files.json reports.tls.size) }

def Summary.new (env : Externals) (mails : Nat) (files : Files) (reports : Reports)
    (lastUpdate nextUpdate : UInt64) (timeSpan : Option Duration) (domainFilter : Option String)
    (now later : DateTime) : Result Summary := do
  let thresholds ← Summary.thresholds timeSpan now later
  return Summary.newSince env mails files reports lastUpdate nextUpdate thresholds domainFilter

structure SummaryFilters where
  timeSpan : Option UInt64
  domain : Option String

def SummaryFilters.urlDecode (env : Externals) (filters : SummaryFilters) : SummaryFilters :=
  { filters with domain := filters.domain.bind env.urlDecode }

/-- The handler of the summary page. -/
def Summary.handler (env : Externals) (state : AppState) (filters : SummaryFilters)
    (now later : DateTime) : Result Summary := do
  let filters := filters.urlDecode env
  let timeSpan ←
    match filters.timeSpan with
    | some hours =>
        if 0 < hours then do
          let span ← Duration.hours (asI64 hours)
          pure (some span)
        else
          pure none
    | none => pure none
  Summary.new env state.mails.size { xml := state.xmlFiles, json := state.jsonFiles }
    { dmarc := state.dmarcReports, tls := state.tlsReports } state.lastUpdate state.nextUpdate
    timeSpan filters.domain now later

end DmarcReportViewer
