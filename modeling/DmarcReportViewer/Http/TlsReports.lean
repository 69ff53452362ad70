import DmarcReportViewer.Externals
import DmarcReportViewer.State

/-!
# The list of SMTP TLS reports

The model of `http/tls_reports.rs`.  It differs from the list of DMARC reports in
what a header shows and in that a report can be about several domains.
-/

namespace DmarcReportViewer.TlsReports

open Collections

structure ReportHeader where
  hash : String
  id : String
  org : String
  domains : List String
  dateBegin : DateTime
  dateEnd : DateTime
  records : Nat
  flaggedSts : Bool
  flaggedTlsa : Bool
  flagged : Bool
deriving DecidableEq

namespace ReportHeader

/-- The body of the loop over the policies. -/
def flagPolicyResult (flags : Bool × Bool) (policyResult : Tls.PolicyResult) : Bool × Bool :=
  let (stsFlagged, tlsaFlagged) := flags
  if policyResult.summary.totalFailureSessionCount > 0 then
    if policyResult.policy.policyType = .sts then
      (true, tlsaFlagged)
    else if policyResult.policy.policyType = .tlsa then
      (stsFlagged, true)
    else
      (stsFlagged, tlsaFlagged)
  else
    (stsFlagged, tlsaFlagged)

/-- Whether the report has STS or TLSA issues. -/
def flags (report : Tls.Report) : Bool × Bool :=
  report.policies.foldl flagPolicyResult (false, false)

def fromReport (hash : String) (report : Tls.Report) : ReportHeader :=
  let (flaggedSts, flaggedTlsa) := flags report
  { hash := hash
    id := report.reportId
    org := report.organizationName
    domains := sortDedup (report.policies.map fun p => p.policy.policyDomain)
    dateBegin := report.dateRange.startDatetime
    dateEnd := report.dateRange.endDatetime
    records := report.policies.length
    flagged := flaggedSts || flaggedTlsa
    flaggedSts := flaggedSts
    flaggedTlsa := flaggedTlsa }

end ReportHeader

/-- A filter that is not part of the request is disabled. -/
structure ReportFilters where
  id : Option String := none
  flagged : Option Bool := none
  flaggedSts : Option Bool := none
  flaggedTlsa : Option Bool := none
  domain : Option String := none
  org : Option String := none
  ip : Option String := none

/-- Remove the URL encoding from the texts.  A text that cannot be decoded
disables its filter. -/
def ReportFilters.urlDecode (env : Externals) (filters : ReportFilters) : ReportFilters :=
  { filters with
    domain := (filters.domain.bind env.urlDecode).map env.toLowercase
    org := filters.org.bind env.urlDecode
    ip := filters.ip.bind env.urlDecode }

/-- The handler of the list, a chain of filters over the stored reports. -/
def listHandler (env : Externals) (state : AppState) (filters : ReportFilters) :
    List ReportHeader :=
  let filters := filters.urlDecode env
  let ipFilter := filters.ip.bind env.parseIp
  state.tlsReports.toList
    |>.filter (fun (_, rwi) => filters.id.all fun id => rwi.mailId = id)
    |>.filter (fun (_, rwi) => filters.org.all fun org => rwi.report.organizationName = org)
    |>.filter (fun (_, rwi) => filters.domain.all fun fd =>
        rwi.report.policies.any fun policyResult =>
          env.toLowercase policyResult.policy.policyDomain = fd)
    |>.filter (fun (_, rwi) => ipFilter.all fun ip =>
        rwi.report.policies.any fun p =>
          match p.failureDetails with
          | some failures => failures.any fun f => f.sendingMtaIp = some ip
          | none => false)
    |>.map (fun (hash, rwi) => ReportHeader.fromReport hash rwi.report)
    |>.filter (fun rh => filters.flagged.all fun flagged => rh.flagged = flagged)
    |>.filter (fun rh => filters.flaggedSts.all fun sts => rh.flaggedSts = sts)
    |>.filter (fun rh => filters.flaggedTlsa.all fun tlsa => rh.flaggedTlsa = tlsa)

section Flags

/-- The policy is of the given type and sessions have failed under it. -/
def failed (policyType : Tls.PolicyType) (policyResult : Tls.PolicyResult) : Bool :=
  policyResult.summary.totalFailureSessionCount > 0 && policyResult.policy.policyType = policyType

theorem flagPolicyResult_eq (sts tlsa : Bool) (policyResult : Tls.PolicyResult) :
    ReportHeader.flagPolicyResult (sts, tlsa) policyResult =
      (sts || failed .sts policyResult, tlsa || failed .tlsa policyResult) := by
  cases policyType : policyResult.policy.policyType with
  | sts =>
      by_cases failures : policyResult.summary.totalFailureSessionCount > 0 <;>
        simp [ReportHeader.flagPolicyResult, failed, policyType, failures]
  | tlsa =>
      by_cases failures : policyResult.summary.totalFailureSessionCount > 0 <;>
        simp [ReportHeader.flagPolicyResult, failed, policyType, failures]
  | noPolicyFound =>
      by_cases failures : policyResult.summary.totalFailureSessionCount > 0 <;>
        simp [ReportHeader.flagPolicyResult, failed, policyType, failures]

/-- The flags of a report are those of its policies. -/
theorem flags_eq (report : Tls.Report) :
    ReportHeader.flags report =
      (report.policies.any (failed .sts), report.policies.any (failed .tlsa)) := by
  have run : ∀ (policies : List Tls.PolicyResult) (sts tlsa : Bool),
      policies.foldl ReportHeader.flagPolicyResult (sts, tlsa) =
        (sts || policies.any (failed .sts), tlsa || policies.any (failed .tlsa)) := by
    intro policies
    induction policies with
    | nil => simp
    | cons policyResult policies ih =>
        intro sts tlsa
        rw [List.foldl_cons, flagPolicyResult_eq, ih]
        simp only [List.any_cons, Bool.or_assoc]
  rw [ReportHeader.flags, run]
  simp only [Bool.false_or]

theorem fromReport_flaggedSts (hash : String) (report : Tls.Report) :
    (ReportHeader.fromReport hash report).flaggedSts = report.policies.any (failed .sts) := by
  simp only [ReportHeader.fromReport, flags_eq]

theorem fromReport_flaggedTlsa (hash : String) (report : Tls.Report) :
    (ReportHeader.fromReport hash report).flaggedTlsa = report.policies.any (failed .tlsa) := by
  simp only [ReportHeader.fromReport, flags_eq]

theorem fromReport_flagged (hash : String) (report : Tls.Report) :
    (ReportHeader.fromReport hash report).flagged =
      (report.policies.any (failed .sts) || report.policies.any (failed .tlsa)) := by
  simp only [ReportHeader.fromReport, flags_eq]

end Flags

section Selection

/-- A stored report passes the decoded filters of a request. -/
structure ReportFilters.Passes (env : Externals) (filters : ReportFilters)
    (rwi : TlsReportWithMailId) : Prop where
  id : ∀ id ∈ filters.id, rwi.mailId = id
  org : ∀ org ∈ filters.org, rwi.report.organizationName = org
  domain : ∀ domain ∈ filters.domain,
    ∃ p ∈ rwi.report.policies, env.toLowercase p.policy.policyDomain = domain
  ip : ∀ text ∈ filters.ip, ∀ ip ∈ env.parseIp text,
    ∃ p ∈ rwi.report.policies, ∃ failures ∈ p.failureDetails,
      ∃ f ∈ failures, f.sendingMtaIp = some ip
  flagged : ∀ flagged ∈ filters.flagged,
    (rwi.report.policies.any (failed .sts) || rwi.report.policies.any (failed .tlsa)) = flagged
  flaggedSts : ∀ flagged ∈ filters.flaggedSts, rwi.report.policies.any (failed .sts) = flagged
  flaggedTlsa : ∀ flagged ∈ filters.flaggedTlsa, rwi.report.policies.any (failed .tlsa) = flagged

variable {env : Externals} {state : AppState}

theorem sentFrom_iff {p : Tls.PolicyResult} {ip : IpAddr} :
    (match p.failureDetails with
      | some failures => failures.any fun f => f.sendingMtaIp = some ip
      | none => false) = true ↔
      ∃ failures ∈ p.failureDetails, ∃ f ∈ failures, f.sendingMtaIp = some ip := by
  cases p.failureDetails <;> simp

/-- The list shows exactly the headers of the stored reports which pass. -/
theorem mem_listHandler_iff {filters : ReportFilters} {header : ReportHeader} :
    header ∈ listHandler env state filters ↔
      ∃ hash rwi, state.tlsReports[hash]? = some rwi ∧
        (filters.urlDecode env).Passes env rwi ∧
          ReportHeader.fromReport hash rwi.report = header := by
  simp only [listHandler, List.mem_filter, List.mem_map, Option.all_eq_true,
    decide_eq_true_eq, Prod.exists, Std.ExtTreeMap.mem_toList_iff_getElem?_eq_some,
    List.any_eq_true, sentFrom_iff]
  constructor
  · rintro ⟨⟨⟨⟨hash, rwi, ⟨⟨⟨⟨stored, id⟩, org⟩, domain⟩, ip⟩, rfl⟩, flagged⟩, sts⟩, tlsa⟩
    rw [fromReport_flagged] at flagged
    rw [fromReport_flaggedSts] at sts
    rw [fromReport_flaggedTlsa] at tlsa
    refine ⟨hash, rwi, stored, ⟨id, org, domain, ?_, flagged, sts, tlsa⟩, rfl⟩
    intro text supplied address parsed
    exact ip address (Option.bind_eq_some_iff.mpr ⟨text, supplied, parsed⟩)
  · rintro ⟨hash, rwi, stored, passes, rfl⟩
    rw [fromReport_flagged, fromReport_flaggedSts, fromReport_flaggedTlsa]
    refine ⟨⟨⟨⟨hash, rwi, ⟨⟨⟨⟨stored, passes.id⟩, passes.org⟩, passes.domain⟩, ?_⟩, rfl⟩,
      passes.flagged⟩, passes.flaggedSts⟩, passes.flaggedTlsa⟩
    intro address parsed
    rcases Option.bind_eq_some_iff.mp parsed with ⟨text, supplied, parsed⟩
    exact passes.ip text supplied address parsed

/-- The list for an organization shows its reports. -/
theorem listHandler_org {encoded org : String} (decoded : env.urlDecode encoded = some org) :
    listHandler env state { org := some encoded } =
      (state.tlsReports.toList.filter fun entry => entry.2.report.organizationName = org).map
        fun entry => ReportHeader.fromReport entry.1 entry.2.report := by
  simp [listHandler, ReportFilters.urlDecode, decoded]

/-- The list for a domain shows the reports with a policy for it. -/
theorem listHandler_domain {encoded domain : String}
    (decoded : env.urlDecode encoded = some domain) :
    listHandler env state { domain := some encoded } =
      (state.tlsReports.toList.filter fun entry => entry.2.report.policies.any fun p =>
        env.toLowercase p.policy.policyDomain = env.toLowercase domain).map
          fun entry => ReportHeader.fromReport entry.1 entry.2.report := by
  simp [listHandler, ReportFilters.urlDecode, decoded]

/-- The list for an IP address shows the reports with a failure of it. -/
theorem listHandler_ip {encoded text : String} {ip : IpAddr}
    (decoded : env.urlDecode encoded = some text) (parsed : env.parseIp text = some ip) :
    listHandler env state { ip := some encoded } =
      (state.tlsReports.toList.filter fun entry =>
        entry.2.report.policies.any fun p =>
          match p.failureDetails with
          | some failures => failures.any fun f => f.sendingMtaIp = some ip
          | none => false).map
        fun entry => ReportHeader.fromReport entry.1 entry.2.report := by
  simp [listHandler, ReportFilters.urlDecode, decoded, parsed]

end Selection

end DmarcReportViewer.TlsReports
