import DmarcReportViewer.Background.Accounting
import DmarcReportViewer.Http.Summary

/-!
# What a summary counts

Every loop of a summary adds lists of weighted events to its histograms, so
that each histogram is the tally of the events of the selected reports.
`summary_counts` turns the tallies into the sums which the histograms stand for.
-/

namespace DmarcReportViewer

open Collections Histogram

section DmarcEvents

/-- What reports contribute to the histograms of a DMARC summary. -/
structure DmarcEvents where
  orgs : List (String × UInt64)
  domains : List (String × UInt64)
  spfPolicyResults : List (Dmarc.DmarcResultType × UInt64)
  dkimPolicyResults : List (Dmarc.DmarcResultType × UInt64)
  spfAuthResults : List (Dmarc.SpfResultType × UInt64)
  dkimAuthResults : List (Dmarc.DkimResultType × UInt64)

/-- Add events to a DMARC summary. -/
def DmarcSummary.count (dmarc : DmarcSummary) (events : DmarcEvents) : DmarcSummary :=
  { dmarc with
    orgs := bumpAll dmarc.orgs events.orgs
    domains := bumpAll dmarc.domains events.domains
    spfPolicyResults := bumpAll dmarc.spfPolicyResults events.spfPolicyResults
    dkimPolicyResults := bumpAll dmarc.dkimPolicyResults events.dkimPolicyResults
    spfAuthResults := bumpAll dmarc.spfAuthResults events.spfAuthResults
    dkimAuthResults := bumpAll dmarc.dkimAuthResults events.dkimAuthResults }

/-- The SPF results of a record, each with the number of its messages. -/
def spfAuthEvents (record : Dmarc.RecordType) : List (Dmarc.SpfResultType × UInt64) :=
  record.authResults.spf.map fun r => (r.result, record.row.count)

def dkimAuthEvents (record : Dmarc.RecordType) : List (Dmarc.DkimResultType × UInt64) :=
  (record.authResults.dkim.getD []).map fun r => (r.result, record.row.count)

def spfPolicyEvents (record : Dmarc.RecordType) : List (Dmarc.DmarcResultType × UInt64) :=
  record.row.policyEvaluated.spf.toList.map fun result => (result, record.row.count)

def dkimPolicyEvents (record : Dmarc.RecordType) : List (Dmarc.DmarcResultType × UInt64) :=
  record.row.policyEvaluated.dkim.toList.map fun result => (result, record.row.count)

/-- The events of a list of records. -/
def recordEvents (records : List Dmarc.RecordType) : DmarcEvents where
  orgs := []
  domains := []
  spfPolicyResults := records.flatMap spfPolicyEvents
  dkimPolicyResults := records.flatMap dkimPolicyEvents
  spfAuthResults := records.flatMap spfAuthEvents
  dkimAuthResults := records.flatMap dkimAuthEvents

/-- The events of a list of DMARC reports. -/
def dmarcEvents (env : Externals) (reports : List Dmarc.Report) : DmarcEvents where
  orgs := reports.map fun report => (report.reportMetadata.orgName, 1)
  domains := reports.map fun report => (env.toLowercase report.policyPublished.domain, 1)
  spfPolicyResults := reports.flatMap fun report => report.record.flatMap spfPolicyEvents
  dkimPolicyResults := reports.flatMap fun report => report.record.flatMap dkimPolicyEvents
  spfAuthResults := reports.flatMap fun report => report.record.flatMap spfAuthEvents
  dkimAuthResults := reports.flatMap fun report => report.record.flatMap dkimAuthEvents

theorem foldl_spfAuthResults (results : List Dmarc.SpfAuthResultType) (count : UInt64)
    (dmarc : DmarcSummary) :
    results.foldl
        (fun dmarc r => { dmarc with spfAuthResults := bump dmarc.spfAuthResults r.result count })
        dmarc =
      { dmarc with
        spfAuthResults := bumpAll dmarc.spfAuthResults
          (results.map fun r => (r.result, count)) } := by
  induction results generalizing dmarc with
  | nil => rfl
  | cons result results ih => rw [List.foldl_cons, ih, List.map_cons, bumpAll_cons]

theorem foldl_dkimAuthResults (results : List Dmarc.DkimAuthResultType) (count : UInt64)
    (dmarc : DmarcSummary) :
    results.foldl
        (fun dmarc r => { dmarc with dkimAuthResults := bump dmarc.dkimAuthResults r.result count })
        dmarc =
      { dmarc with
        dkimAuthResults := bumpAll dmarc.dkimAuthResults
          (results.map fun r => (r.result, count)) } := by
  induction results generalizing dmarc with
  | nil => rfl
  | cons result results ih => rw [List.foldl_cons, ih, List.map_cons, bumpAll_cons]

theorem addRecord_eq (dmarc : DmarcSummary) (record : Dmarc.RecordType) :
    dmarc.addRecord record = dmarc.count (recordEvents [record]) := by
  simp only [DmarcSummary.addRecord, foldl_spfAuthResults, foldl_dkimAuthResults,
    DmarcSummary.count, recordEvents, List.flatMap_singleton, spfAuthEvents, dkimAuthEvents,
    spfPolicyEvents, dkimPolicyEvents]
  cases record.authResults.dkim <;> cases record.row.policyEvaluated.spf <;>
    cases record.row.policyEvaluated.dkim <;> rfl

theorem foldl_addRecord (records : List Dmarc.RecordType) (dmarc : DmarcSummary) :
    records.foldl DmarcSummary.addRecord dmarc = dmarc.count (recordEvents records) := by
  induction records generalizing dmarc with
  | nil => rfl
  | cons record records ih =>
      rw [List.foldl_cons, ih, addRecord_eq]
      simp [DmarcSummary.count, recordEvents, bumpAll_append]

theorem addReport_eq (env : Externals) (dmarc : DmarcSummary) (report : Dmarc.Report) :
    dmarc.addReport env report = dmarc.count (dmarcEvents env [report]) := by
  simp only [DmarcSummary.addReport, foldl_addRecord]
  simp [DmarcSummary.count, recordEvents, dmarcEvents]

theorem foldl_addReport (env : Externals) (reports : List Dmarc.Report) (dmarc : DmarcSummary) :
    reports.foldl (DmarcSummary.addReport env) dmarc = dmarc.count (dmarcEvents env reports) := by
  induction reports generalizing dmarc with
  | nil => rfl
  | cons report reports ih =>
      rw [List.foldl_cons, ih, addReport_eq]
      simp [DmarcSummary.count, dmarcEvents, bumpAll_append]

/-- A DMARC report passes both filters: it does not end before the threshold,
and it was published for the domain. -/
def dmarcPasses (env : Externals) (threshold : Option UInt64) (domainFilter : Option String)
    (report : Dmarc.Report) : Bool :=
  (threshold.all fun threshold => threshold ≤ report.reportMetadata.dateRange.«end») &&
    domainFilter.all fun df => env.toLowercase report.policyPublished.domain = df

theorem visit_dmarc_eq (env : Externals) (threshold : Option UInt64)
    (domainFilter : Option String) (dmarc : DmarcSummary) (rwi : DmarcReportWithMailId) :
    dmarc.visit env threshold domainFilter rwi =
      if dmarcPasses env threshold domainFilter rwi.report then
        dmarc.addReport env rwi.report
      else
        dmarc := by
  simp only [DmarcSummary.visit, dmarcPasses]
  cases threshold <;> cases domainFilter <;>
    simp only [Option.any_none, Option.any_some, Option.all_none, Option.all_some,
      ← UInt64.not_lt] <;>
    grind

/-- The loop over the DMARC reports counts those which pass the filters. -/
theorem foldl_visit_dmarc (env : Externals) (threshold : Option UInt64)
    (domainFilter : Option String) (reports : List DmarcReportWithMailId) (dmarc : DmarcSummary) :
    reports.foldl (DmarcSummary.visit env threshold domainFilter) dmarc =
      dmarc.count (dmarcEvents env ((reports.map ReportWithMailId.report).filter
        (dmarcPasses env threshold domainFilter))) := by
  rw [← foldl_addReport, List.foldl_filter, List.foldl_map]
  congr
  funext dmarc rwi
  exact visit_dmarc_eq env threshold domainFilter dmarc rwi

end DmarcEvents

section TlsEvents

/-- What reports contribute to the histograms of a TLS summary. -/
structure TlsEvents where
  orgs : List (String × UInt64)
  domains : List (String × UInt64)
  policyTypes : List (Tls.PolicyType × UInt64)
  stsPolicyResults : List (Tls.TlsResultType × UInt64)
  tlsaPolicyResults : List (Tls.TlsResultType × UInt64)
  stsFailureTypes : List (Tls.FailureResultType × UInt64)
  tlsaFailureTypes : List (Tls.FailureResultType × UInt64)

/-- Add events to a TLS summary. -/
def TlsSummary.count (tls : TlsSummary) (events : TlsEvents) : TlsSummary :=
  { tls with
    orgs := bumpAll tls.orgs events.orgs
    domains := bumpAll tls.domains events.domains
    policyTypes := bumpAll tls.policyTypes events.policyTypes
    stsPolicyResults := bumpAll tls.stsPolicyResults events.stsPolicyResults
    tlsaPolicyResults := bumpAll tls.tlsaPolicyResults events.tlsaPolicyResults
    stsFailureTypes := bumpAll tls.stsFailureTypes events.stsFailureTypes
    tlsaFailureTypes := bumpAll tls.tlsaFailureTypes events.tlsaFailureTypes }

/-- The sessions of a policy, if it has the given type. -/
def sessionEvents (policyType : Tls.PolicyType) (policyResult : Tls.PolicyResult) :
    List (Tls.TlsResultType × UInt64) :=
  if policyResult.policy.policyType = policyType then
    [(.successful, policyResult.summary.totalSuccessfulSessionCount),
      (.failure, policyResult.summary.totalFailureSessionCount)]
  else
    []

/-- The failures of a policy, if it has the given type. -/
def failureEvents (policyType : Tls.PolicyType) (policyResult : Tls.PolicyResult) :
    List (Tls.FailureResultType × UInt64) :=
  if policyResult.policy.policyType = policyType then
    (policyResult.failureDetails.getD []).map fun failureDetail =>
      (failureDetail.resultType, failureDetail.failedSessionCount)
  else
    []

/-- The events of a list of policy results. -/
def policyEvents (env : Externals) (policies : List Tls.PolicyResult) : TlsEvents where
  orgs := []
  domains := policies.map fun policyResult =>
    (env.toLowercase policyResult.policy.policyDomain, 1)
  policyTypes := policies.map fun policyResult => (policyResult.policy.policyType, 1)
  stsPolicyResults := policies.flatMap (sessionEvents .sts)
  tlsaPolicyResults := policies.flatMap (sessionEvents .tlsa)
  stsFailureTypes := policies.flatMap (failureEvents .sts)
  tlsaFailureTypes := policies.flatMap (failureEvents .tlsa)

/-- The events of a list of TLS reports. -/
def tlsEvents (env : Externals) (reports : List Tls.Report) : TlsEvents :=
  { policyEvents env (reports.flatMap Tls.Report.policies) with
    orgs := reports.map fun report => (report.organizationName, 1) }

theorem addSessions_eq (policyResults : HashMap Tls.TlsResultType UInt64)
    {policyType : Tls.PolicyType} {policyResult : Tls.PolicyResult}
    (ofType : policyResult.policy.policyType = policyType) :
    TlsSummary.addSessions policyResults policyResult =
      bumpAll policyResults (sessionEvents policyType policyResult) := by
  simp [TlsSummary.addSessions, sessionEvents, ofType]

theorem addFailures_eq (failureTypes : HashMap Tls.FailureResultType UInt64)
    {policyType : Tls.PolicyType} {policyResult : Tls.PolicyResult}
    (ofType : policyResult.policy.policyType = policyType) :
    TlsSummary.addFailures failureTypes policyResult =
      bumpAll failureTypes (failureEvents policyType policyResult) := by
  cases details : policyResult.failureDetails with
  | none => simp [TlsSummary.addFailures, failureEvents, ofType, details]
  | some failureDetails =>
      simp [TlsSummary.addFailures, failureEvents, ofType, details, bumpAll, List.foldl_map]

theorem addPolicyResult_eq (env : Externals) (tls : TlsSummary) (policyResult : Tls.PolicyResult) :
    tls.addPolicyResult env policyResult = tls.count (policyEvents env [policyResult]) := by
  cases ofType : policyResult.policy.policyType <;>
    simp [TlsSummary.addPolicyResult, ofType, TlsSummary.count, policyEvents,
      addSessions_eq _ ofType, addFailures_eq _ ofType] <;>
  simp [sessionEvents, failureEvents, ofType]

theorem foldl_addPolicyResult (env : Externals) (policies : List Tls.PolicyResult)
    (tls : TlsSummary) :
    policies.foldl (TlsSummary.addPolicyResult env) tls =
      tls.count (policyEvents env policies) := by
  induction policies generalizing tls with
  | nil => rfl
  | cons policyResult policies ih =>
      rw [List.foldl_cons, ih, addPolicyResult_eq]
      simp [TlsSummary.count, policyEvents, bumpAll_append]

theorem addReport_tls_eq (env : Externals) (tls : TlsSummary) (report : Tls.Report) :
    tls.addReport env report = tls.count (tlsEvents env [report]) := by
  simp only [TlsSummary.addReport, foldl_addPolicyResult]
  simp [TlsSummary.count, policyEvents, tlsEvents]

theorem foldl_addReport_tls (env : Externals) (reports : List Tls.Report) (tls : TlsSummary) :
    reports.foldl (TlsSummary.addReport env) tls = tls.count (tlsEvents env reports) := by
  induction reports generalizing tls with
  | nil => rfl
  | cons report reports ih =>
      rw [List.foldl_cons, ih, addReport_tls_eq]
      simp [TlsSummary.count, tlsEvents, policyEvents, bumpAll_append]

/-- A TLS report passes both filters: it does not end before the threshold, and
one of its policies belongs to the domain. -/
def tlsPasses (env : Externals) (threshold : Option DateTime) (domainFilter : Option String)
    (report : Tls.Report) : Bool :=
  (threshold.all fun threshold => threshold ≤ report.dateRange.endDatetime) &&
    domainFilter.all fun df =>
      report.policies.any fun p => env.toLowercase p.policy.policyDomain = df

theorem visit_tls_eq (env : Externals) (threshold : Option DateTime)
    (domainFilter : Option String) (tls : TlsSummary) (rwi : TlsReportWithMailId) :
    tls.visit env threshold domainFilter rwi =
      if tlsPasses env threshold domainFilter rwi.report then
        tls.addReport env rwi.report
      else
        tls := by
  simp only [TlsSummary.visit, tlsPasses]
  cases threshold <;> cases domainFilter <;>
    simp only [Option.any_none, Option.any_some, Option.all_none, Option.all_some, ← Int.not_lt] <;>
    grind

/-- The loop over the TLS reports counts those which pass the filters. -/
theorem foldl_visit_tls (env : Externals) (threshold : Option DateTime)
    (domainFilter : Option String) (reports : List TlsReportWithMailId) (tls : TlsSummary) :
    reports.foldl (TlsSummary.visit env threshold domainFilter) tls =
      tls.count (tlsEvents env ((reports.map ReportWithMailId.report).filter
        (tlsPasses env threshold domainFilter))) := by
  rw [← foldl_addReport_tls, List.foldl_filter, List.foldl_map]
  congr
  funext tls rwi
  exact visit_tls_eq env threshold domainFilter tls rwi

end TlsEvents

section Selection

/-- The DMARC reports which a summary counts. -/
def dmarcSelected (env : Externals) (thresholds : Thresholds) (domainFilter : Option String)
    (reports : Reports) : List Dmarc.Report :=
  ((valueList reports.dmarc).map ReportWithMailId.report).filter
    (dmarcPasses env thresholds.seconds (domainFilter.map env.toLowercase))

/-- The TLS reports which a summary counts. -/
def tlsSelected (env : Externals) (thresholds : Thresholds) (domainFilter : Option String)
    (reports : Reports) : List Tls.Report :=
  ((valueList reports.tls).map ReportWithMailId.report).filter
    (tlsPasses env thresholds.datetime (domainFilter.map env.toLowercase))

variable (env : Externals) (mails : Nat) (files : Files) (reports : Reports)
  (lastUpdate nextUpdate : UInt64) (thresholds : Thresholds) (domainFilter : Option String)

/-- The histograms of a DMARC summary are the tallies of the selected reports. -/
theorem dmarc_newSince :
    (Summary.newSince env mails files reports lastUpdate nextUpdate thresholds domainFilter).dmarc =
      (DmarcSummary.empty files.xml reports.dmarc.size).count
        (dmarcEvents env (dmarcSelected env thresholds domainFilter reports)) :=
  foldl_visit_dmarc env thresholds.seconds (domainFilter.map env.toLowercase) _ _

/-- The histograms of a TLS summary are the tallies of the selected reports. -/
theorem tls_newSince :
    (Summary.newSince env mails files reports lastUpdate nextUpdate thresholds domainFilter).tls =
      (TlsSummary.empty files.json reports.tls.size).count
        (tlsEvents env (tlsSelected env thresholds domainFilter reports)) :=
  foldl_visit_tls env thresholds.datetime (domainFilter.map env.toLowercase) _ _

end Selection

section Reference

/-- The sessions of a policy with a given outcome. -/
def sessionCount (summary : Tls.Summary) : Tls.TlsResultType → UInt64
  | .successful => summary.totalSuccessfulSessionCount
  | .failure => summary.totalFailureSessionCount

/-- The sessions with a given outcome in the policies of a type. -/
def sessionSum (policies : List Tls.PolicyResult) (policyType : Tls.PolicyType)
    (result : Tls.TlsResultType) : Nat :=
  ((policies.filter fun p => p.policy.policyType = policyType).map fun p =>
    (sessionCount p.summary result).toNat).sum

/-- The failed sessions for a given reason in the policies of a type. -/
def failureSum (policies : List Tls.PolicyResult) (policyType : Tls.PolicyType)
    (resultType : Tls.FailureResultType) : Nat :=
  ((policies.filter fun p => p.policy.policyType = policyType).map fun p =>
    (((p.failureDetails.getD []).filter fun detail => detail.resultType = resultType).map
      fun detail => detail.failedSessionCount.toNat).sum).sum

/-- The messages of the records which are selected. -/
def messageSum (reports : List Dmarc.Report) (select : Dmarc.RecordType → Bool) : Nat :=
  (reports.map fun report =>
    ((report.record.filter select).map fun record => record.row.count.toNat).sum).sum

/-- What the histograms of a summary stand for, given the reports it counts.
All counters are 64-bit values. -/
structure SummaryReference (env : Externals) (dmarc : List Dmarc.Report) (tls : List Tls.Report)
    (summary : Summary) : Prop where
  dmarcOrgs : ∀ org, (count summary.dmarc.orgs org).toNat =
    dmarc.countP (fun report => report.reportMetadata.orgName = org) % 2 ^ 64
  dmarcDomains : ∀ domain, (count summary.dmarc.domains domain).toNat =
    dmarc.countP (fun report => env.toLowercase report.policyPublished.domain = domain) % 2 ^ 64
  spfAuthResults : ∀ result, (count summary.dmarc.spfAuthResults result).toNat =
    (dmarc.map fun report => (report.record.map fun record =>
      ((record.authResults.spf.filter fun r => r.result = result).map fun _ =>
        record.row.count.toNat).sum).sum).sum % 2 ^ 64
  dkimAuthResults : ∀ result, (count summary.dmarc.dkimAuthResults result).toNat =
    (dmarc.map fun report => (report.record.map fun record =>
      (((record.authResults.dkim.getD []).filter fun r => r.result = result).map fun _ =>
        record.row.count.toNat).sum).sum).sum % 2 ^ 64
  spfPolicyResults : ∀ result, (count summary.dmarc.spfPolicyResults result).toNat =
    messageSum dmarc (fun record => record.row.policyEvaluated.spf = some result) % 2 ^ 64
  dkimPolicyResults : ∀ result, (count summary.dmarc.dkimPolicyResults result).toNat =
    messageSum dmarc (fun record => record.row.policyEvaluated.dkim = some result) % 2 ^ 64
  tlsOrgs : ∀ org, (count summary.tls.orgs org).toNat =
    tls.countP (fun report => report.organizationName = org) % 2 ^ 64
  tlsDomains : ∀ domain, (count summary.tls.domains domain).toNat =
    (tls.flatMap Tls.Report.policies).countP
      (fun p => env.toLowercase p.policy.policyDomain = domain) % 2 ^ 64
  policyTypes : ∀ policyType, (count summary.tls.policyTypes policyType).toNat =
    (tls.flatMap Tls.Report.policies).countP (fun p => p.policy.policyType = policyType) % 2 ^ 64
  stsPolicyResults : ∀ result, (count summary.tls.stsPolicyResults result).toNat =
    sessionSum (tls.flatMap Tls.Report.policies) .sts result % 2 ^ 64
  tlsaPolicyResults : ∀ result, (count summary.tls.tlsaPolicyResults result).toNat =
    sessionSum (tls.flatMap Tls.Report.policies) .tlsa result % 2 ^ 64
  stsFailureTypes : ∀ resultType, (count summary.tls.stsFailureTypes resultType).toNat =
    failureSum (tls.flatMap Tls.Report.policies) .sts resultType % 2 ^ 64
  tlsaFailureTypes : ∀ resultType, (count summary.tls.tlsaFailureTypes resultType).toNat =
    failureSum (tls.flatMap Tls.Report.policies) .tlsa resultType % 2 ^ 64

theorem total_policyEvents (reports : List Dmarc.Report)
    (evaluated : Dmarc.RecordType → Option Dmarc.DmarcResultType)
    (result : Dmarc.DmarcResultType) :
    total (reports.flatMap fun report => report.record.flatMap fun record =>
        (evaluated record).toList.map fun result => (result, record.row.count)) result =
      messageSum reports fun record => evaluated record = some result := by
  rw [messageSum, total_flatMap]
  apply congrArg List.sum
  apply List.map_congr_left
  intro report _
  rw [total_flatMap, sum_map_filter]
  apply congrArg List.sum
  apply List.map_congr_left
  intro record _
  cases evaluated record with
  | none => rfl
  | some other => by_cases same : other = result <;> simp [total, same]

theorem total_sessionEvents (policies : List Tls.PolicyResult) (policyType : Tls.PolicyType)
    (result : Tls.TlsResultType) :
    total (policies.flatMap (sessionEvents policyType)) result =
      sessionSum policies policyType result := by
  rw [sessionSum, total_flatMap, sum_map_filter]
  apply congrArg List.sum
  apply List.map_congr_left
  intro p _
  by_cases ofType : p.policy.policyType = policyType
  · cases result <;> simp [sessionEvents, ofType, total, sessionCount]
  · simp [sessionEvents, ofType, total]

theorem total_failureEvents (policies : List Tls.PolicyResult) (policyType : Tls.PolicyType)
    (resultType : Tls.FailureResultType) :
    total (policies.flatMap (failureEvents policyType)) resultType =
      failureSum policies policyType resultType := by
  rw [failureSum, total_flatMap, sum_map_filter]
  apply congrArg List.sum
  apply List.map_congr_left
  intro p _
  by_cases ofType : p.policy.policyType = policyType
  · simp only [failureEvents, ofType, if_true, total_map]
  · simp [failureEvents, ofType, total]

/-- Every histogram of a summary is the sum that it stands for. -/
theorem summary_reference (env : Externals) (mails : Nat) (files : Files) (reports : Reports)
    (lastUpdate nextUpdate : UInt64) (thresholds : Thresholds) (domainFilter : Option String) :
    SummaryReference env (dmarcSelected env thresholds domainFilter reports)
      (tlsSelected env thresholds domainFilter reports)
      (Summary.newSince env mails files reports lastUpdate nextUpdate thresholds domainFilter) := by
  have dmarc := dmarc_newSince env mails files reports lastUpdate nextUpdate thresholds domainFilter
  have tls := tls_newSince env mails files reports lastUpdate nextUpdate thresholds domainFilter
  generalize dmarcSelected env thresholds domainFilter reports = dmarcReports at dmarc ⊢
  generalize tlsSelected env thresholds domainFilter reports = tlsReports at tls ⊢
  constructor
  case dmarcOrgs =>
    intro org
    rw [dmarc]
    exact toNat_count_tally_map_one _ _ org
  case dmarcDomains =>
    intro domain
    rw [dmarc]
    exact toNat_count_tally_map_one _ _ domain
  case spfAuthResults =>
    intro result
    rw [dmarc]
    have tallied := toNat_count_tally (dmarcEvents env dmarcReports).spfAuthResults result
    simp only [dmarcEvents, total_flatMap, spfAuthEvents, total_map] at tallied
    exact tallied
  case dkimAuthResults =>
    intro result
    rw [dmarc]
    have tallied := toNat_count_tally (dmarcEvents env dmarcReports).dkimAuthResults result
    simp only [dmarcEvents, total_flatMap, dkimAuthEvents, total_map] at tallied
    exact tallied
  case spfPolicyResults =>
    intro result
    rw [dmarc, ← total_policyEvents]
    exact toNat_count_tally (dmarcEvents env dmarcReports).spfPolicyResults result
  case dkimPolicyResults =>
    intro result
    rw [dmarc, ← total_policyEvents]
    exact toNat_count_tally (dmarcEvents env dmarcReports).dkimPolicyResults result
  case tlsOrgs =>
    intro org
    rw [tls]
    exact toNat_count_tally_map_one _ _ org
  case tlsDomains =>
    intro domain
    rw [tls]
    exact toNat_count_tally_map_one _ _ domain
  case policyTypes =>
    intro policyType
    rw [tls]
    exact toNat_count_tally_map_one _ _ policyType
  case stsPolicyResults =>
    intro result
    rw [tls, ← total_sessionEvents]
    exact toNat_count_tally (tlsEvents env tlsReports).stsPolicyResults result
  case tlsaPolicyResults =>
    intro result
    rw [tls, ← total_sessionEvents]
    exact toNat_count_tally (tlsEvents env tlsReports).tlsaPolicyResults result
  case stsFailureTypes =>
    intro resultType
    rw [tls, ← total_failureEvents]
    exact toNat_count_tally (tlsEvents env tlsReports).stsFailureTypes resultType
  case tlsaFailureTypes =>
    intro resultType
    rw [tls, ← total_failureEvents]
    exact toNat_count_tally (tlsEvents env tlsReports).tlsaFailureTypes resultType

end Reference

section Union

/-- The reports of two disjoint sets of files. -/
def Reports.union (left right : Reports) : Reports where
  dmarc := left.dmarc ∪ right.dmarc
  tls := left.tls ∪ right.tls

structure Reports.Disjoint (left right : Reports) : Prop where
  dmarc : ∀ hash : String, hash ∈ left.dmarc → hash ∉ right.dmarc
  tls : ∀ hash : String, hash ∈ left.tls → hash ∉ right.tls

/-- The histograms of one summary are the pointwise sums of those of two others. -/
structure SummarySum (whole left right : Summary) : Prop where
  dmarcOrgs : ∀ org,
    count whole.dmarc.orgs org = count left.dmarc.orgs org + count right.dmarc.orgs org
  dmarcDomains : ∀ domain, count whole.dmarc.domains domain =
    count left.dmarc.domains domain + count right.dmarc.domains domain
  spfPolicyResults : ∀ result, count whole.dmarc.spfPolicyResults result =
    count left.dmarc.spfPolicyResults result + count right.dmarc.spfPolicyResults result
  dkimPolicyResults : ∀ result, count whole.dmarc.dkimPolicyResults result =
    count left.dmarc.dkimPolicyResults result + count right.dmarc.dkimPolicyResults result
  spfAuthResults : ∀ result, count whole.dmarc.spfAuthResults result =
    count left.dmarc.spfAuthResults result + count right.dmarc.spfAuthResults result
  dkimAuthResults : ∀ result, count whole.dmarc.dkimAuthResults result =
    count left.dmarc.dkimAuthResults result + count right.dmarc.dkimAuthResults result
  tlsOrgs : ∀ org, count whole.tls.orgs org = count left.tls.orgs org + count right.tls.orgs org
  tlsDomains : ∀ domain, count whole.tls.domains domain =
    count left.tls.domains domain + count right.tls.domains domain
  policyTypes : ∀ policyType, count whole.tls.policyTypes policyType =
    count left.tls.policyTypes policyType + count right.tls.policyTypes policyType
  stsPolicyResults : ∀ result, count whole.tls.stsPolicyResults result =
    count left.tls.stsPolicyResults result + count right.tls.stsPolicyResults result
  tlsaPolicyResults : ∀ result, count whole.tls.tlsaPolicyResults result =
    count left.tls.tlsaPolicyResults result + count right.tls.tlsaPolicyResults result
  stsFailureTypes : ∀ resultType, count whole.tls.stsFailureTypes resultType =
    count left.tls.stsFailureTypes resultType + count right.tls.stsFailureTypes resultType
  tlsaFailureTypes : ∀ resultType, count whole.tls.tlsaFailureTypes resultType =
    count left.tls.tlsaFailureTypes resultType + count right.tls.tlsaFailureTypes resultType

variable {env : Externals} {thresholds : Thresholds} {domainFilter : Option String}
  {left right : Reports}

theorem dmarcSelected_union_perm (disjoint : left.Disjoint right) :
    (dmarcSelected env thresholds domainFilter (left.union right)).Perm
      (dmarcSelected env thresholds domainFilter left ++
        dmarcSelected env thresholds domainFilter right) := by
  have perm := valueList_union_perm disjoint.dmarc
  simp only [dmarcSelected, ← List.filter_append, ← List.map_append]
  exact (perm.map _).filter _

theorem tlsSelected_union_perm (disjoint : left.Disjoint right) :
    (tlsSelected env thresholds domainFilter (left.union right)).Perm
      (tlsSelected env thresholds domainFilter left ++
        tlsSelected env thresholds domainFilter right) := by
  have perm := valueList_union_perm disjoint.tls
  simp only [tlsSelected, ← List.filter_append, ← List.map_append]
  exact (perm.map _).filter _

theorem count_tally_map {ι κ : Type} [Ord κ] [Std.TransOrd κ] [Std.LawfulEqOrd κ] [DecidableEq κ]
    {whole first second : List ι} (perm : whole.Perm (first ++ second))
    (event : ι → κ × UInt64) (key : κ) :
    count (tally (whole.map event)) key =
      count (tally (first.map event)) key + count (tally (second.map event)) key := by
  apply count_tally_of_perm
  rw [← List.map_append]
  exact perm.map event

theorem count_tally_flatMap {ι κ : Type} [Ord κ] [Std.TransOrd κ] [Std.LawfulEqOrd κ]
    [DecidableEq κ] {whole first second : List ι} (perm : whole.Perm (first ++ second))
    (events : ι → List (κ × UInt64)) (key : κ) :
    count (tally (whole.flatMap events)) key =
      count (tally (first.flatMap events)) key + count (tally (second.flatMap events)) key := by
  apply count_tally_of_perm
  rw [← List.flatMap_append]
  exact perm.flatMap_right events

/-- The histograms of a disjoint union of reports are pointwise sums. -/
theorem summarySum_union (mails : Nat) (files : Files) (lastUpdate nextUpdate : UInt64)
    (disjoint : left.Disjoint right) :
    SummarySum
      (Summary.newSince env mails files (left.union right) lastUpdate nextUpdate thresholds
        domainFilter)
      (Summary.newSince env mails files left lastUpdate nextUpdate thresholds domainFilter)
      (Summary.newSince env mails files right lastUpdate nextUpdate thresholds domainFilter) := by
  have dmarc : ∀ reports, _ := fun reports =>
    dmarc_newSince env mails files reports lastUpdate nextUpdate thresholds domainFilter
  have tls : ∀ reports, _ := fun reports =>
    tls_newSince env mails files reports lastUpdate nextUpdate thresholds domainFilter
  have dmarcPerm : (dmarcSelected env thresholds domainFilter (left.union right)).Perm _ :=
    dmarcSelected_union_perm disjoint
  have tlsPerm : (tlsSelected env thresholds domainFilter (left.union right)).Perm _ :=
    tlsSelected_union_perm disjoint
  have policyPerm : ((tlsSelected env thresholds domainFilter (left.union right)).flatMap
      Tls.Report.policies).Perm
        ((tlsSelected env thresholds domainFilter left).flatMap Tls.Report.policies ++
          (tlsSelected env thresholds domainFilter right).flatMap Tls.Report.policies) := by
    rw [← List.flatMap_append]
    exact tlsPerm.flatMap_right _
  constructor <;> intro key <;> simp only [dmarc, tls]
  · exact count_tally_map dmarcPerm _ key
  · exact count_tally_map dmarcPerm _ key
  · exact count_tally_flatMap dmarcPerm _ key
  · exact count_tally_flatMap dmarcPerm _ key
  · exact count_tally_flatMap dmarcPerm _ key
  · exact count_tally_flatMap dmarcPerm _ key
  · exact count_tally_map tlsPerm _ key
  · exact count_tally_map policyPerm _ key
  · exact count_tally_map policyPerm _ key
  · exact count_tally_flatMap policyPerm _ key
  · exact count_tally_flatMap policyPerm _ key
  · exact count_tally_flatMap policyPerm _ key
  · exact count_tally_flatMap policyPerm _ key

end Union

theorem new_eq_ok_iff {env : Externals} {mails : Nat} {files : Files} {reports : Reports}
    {lastUpdate nextUpdate : UInt64} {timeSpan : Option Duration} {domainFilter : Option String}
    {now later : DateTime} {summary : Summary} :
    Summary.new env mails files reports lastUpdate nextUpdate timeSpan domainFilter now later =
        .ok summary ↔
      ∃ thresholds, Summary.thresholds timeSpan now later = .ok thresholds ∧
        Summary.newSince env mails files reports lastUpdate nextUpdate thresholds domainFilter =
          summary := by
  simp only [Summary.new, Fallible.bind_eq_ok_iff, Fallible.pure_eq_ok_iff]

/-- The thresholds exist unless the time span leads out of the range of dates. -/
theorem exists_thresholds_iff {timeSpan : Option Duration} {now later : DateTime} :
    (∃ thresholds, Summary.thresholds timeSpan now later = .ok thresholds) ↔
      ∀ duration, timeSpan = some duration →
        (∃ begin, subDuration now duration = .ok begin) ∧
          ∃ beginDatetime, subDuration later duration = .ok beginDatetime := by
  cases timeSpan with
  | none =>
      constructor
      · intro _ duration given
        cases given
      · exact fun _ => ⟨_, rfl⟩
  | some duration =>
      simp only [Summary.thresholds, Fallible.bind_eq_ok_iff, Fallible.pure_eq_ok_iff]
      constructor
      · rintro ⟨_, begin, sinceNow, beginDatetime, sinceLater, _⟩ other given
        cases given
        exact ⟨⟨begin, sinceNow⟩, beginDatetime, sinceLater⟩
      · intro inRange
        rcases inRange duration rfl with ⟨⟨begin, sinceNow⟩, beginDatetime, sinceLater⟩
        exact ⟨_, begin, sinceNow, beginDatetime, sinceLater, rfl⟩

/-- Unless the time span leads out of the range of dates, there is a summary of all reports,
and it counts what its histograms stand for, whatever the reports, the time span and the
domain filter are.  The histograms of a disjoint union of reports are the pointwise sums of
the histograms. -/
theorem summary_counts (env : Externals) (mails : Nat) (files : Files)
    (lastUpdate nextUpdate : UInt64) (timeSpan : Option Duration) (domainFilter : Option String)
    (now later : DateTime) :
    ((∃ thresholds, Summary.thresholds timeSpan now later = .ok thresholds) ↔
      ∀ duration, timeSpan = some duration →
        (∃ begin, subDuration now duration = .ok begin) ∧
          ∃ beginDatetime, subDuration later duration = .ok beginDatetime) ∧
    ∀ thresholds, Summary.thresholds timeSpan now later = .ok thresholds →
      (∀ reports : Reports, ∃ summary,
        Summary.new env mails files reports lastUpdate nextUpdate timeSpan domainFilter now
            later = .ok summary ∧
          SummaryReference env (dmarcSelected env thresholds domainFilter reports)
            (tlsSelected env thresholds domainFilter reports) summary) ∧
      ∀ left right : Reports, left.Disjoint right → ∃ whole first second,
        Summary.new env mails files (left.union right) lastUpdate nextUpdate timeSpan
            domainFilter now later = .ok whole ∧
          Summary.new env mails files left lastUpdate nextUpdate timeSpan domainFilter now
            later = .ok first ∧
          Summary.new env mails files right lastUpdate nextUpdate timeSpan domainFilter now
            later = .ok second ∧
          SummarySum whole first second := by
  refine ⟨exists_thresholds_iff, fun thresholds since => ⟨?_, ?_⟩⟩
  · intro reports
    exact ⟨_, new_eq_ok_iff.mpr ⟨thresholds, since, rfl⟩,
      summary_reference env mails files reports lastUpdate nextUpdate thresholds domainFilter⟩
  · intro left right disjoint
    exact ⟨_, _, _, new_eq_ok_iff.mpr ⟨thresholds, since, rfl⟩,
      new_eq_ok_iff.mpr ⟨thresholds, since, rfl⟩, new_eq_ok_iff.mpr ⟨thresholds, since, rfl⟩,
      summarySum_union mails files lastUpdate nextUpdate disjoint⟩

/-- A report in a file of its own. -/
def sampleReports (hash reportId : String) : Reports where
  dmarc := ∅
  tls := (∅ : BTreeMap String TlsReportWithMailId).insert hash
    { mailId := "80PIQSMHanHfacyq6aXj_A", report := sampleReport "Example" reportId }

/-- The reports of the last day, counted at the end of the day of the reports. -/
theorem summary_counts_sample :
    ∃ whole first second,
      Summary.new sampleEnv 1 { xml := 0, json := 2 }
          ((sampleReports "a" "12").union (sampleReports "b" "13")) 0 0
          (some (86400 * nanosPerSecond)) none 1714608000000000000 1714608000000000000 =
        .ok whole ∧
      Summary.new sampleEnv 1 { xml := 0, json := 2 } (sampleReports "a" "12") 0 0
          (some (86400 * nanosPerSecond)) none 1714608000000000000 1714608000000000000 =
        .ok first ∧
      Summary.new sampleEnv 1 { xml := 0, json := 2 } (sampleReports "b" "13") 0 0
          (some (86400 * nanosPerSecond)) none 1714608000000000000 1714608000000000000 =
        .ok second ∧
      SummarySum whole first second := by
  have since : Summary.thresholds (some (86400 * nanosPerSecond)) 1714608000000000000
      1714608000000000000 =
        .ok { seconds := some 1714521600, datetime := some 1714521600000000000 } :=
    rfl
  have disjoint : (sampleReports "a" "12").Disjoint (sampleReports "b" "13") := by
    constructor
    case dmarc =>
      intro hash member
      simp [sampleReports] at member
    case tls =>
      intro hash member other
      simp [sampleReports, Std.ExtTreeMap.mem_insert] at member other
      exact absurd (member.trans other.symm) (by decide)
  exact ((summary_counts sampleEnv 1 { xml := 0, json := 2 } 0 0 (some (86400 * nanosPerSecond))
    none 1714608000000000000 1714608000000000000).2 _ since).2 _ _ disjoint

end DmarcReportViewer
