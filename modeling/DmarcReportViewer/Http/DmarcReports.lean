import DmarcReportViewer.Externals
import DmarcReportViewer.State

/-!
# The list of DMARC reports

The model of `http/dmarc_reports.rs`.  The list shows a header of every stored
report that passes all filters of the request.
-/

namespace DmarcReportViewer.DmarcReports

open Collections

structure ReportHeader where
  hash : String
  id : String
  org : String
  domain : String
  dateBegin : UInt64
  dateEnd : UInt64
  records : Nat
  flaggedDkim : Bool
  flaggedSpf : Bool
  flaggedDmarc : Bool
  flagged : Bool
deriving DecidableEq

namespace ReportHeader

/-- The body of the loop over the records. -/
def flagRecord (flags : Bool × Bool × Bool) (record : Dmarc.RecordType) : Bool × Bool × Bool :=
  let (dkimFlagged, spfFlagged, dmarcFlagged) := flags
  let dkimFlagged :=
    if record.row.policyEvaluated.dkim.any fun dkim => dkim ≠ .pass then true else dkimFlagged
  let spfFlagged :=
    if record.row.policyEvaluated.spf.any fun spf => spf ≠ .pass then true else spfFlagged
  let dkimFlagged :=
    if record.authResults.dkim.any fun dkim => dkim.any fun x => x.result ≠ .pass then true
    else dkimFlagged
  let spfFlagged :=
    if record.authResults.spf.any fun x => x.result ≠ .pass then true else spfFlagged
  let dkimEvalPass := record.row.policyEvaluated.dkim = some .pass
  let spfEvalPass := record.row.policyEvaluated.spf = some .pass
  let dmarcFlagged := if ¬ dkimEvalPass ∧ ¬ spfEvalPass then true else dmarcFlagged
  (dkimFlagged, spfFlagged, dmarcFlagged)

/-- Whether the report has DKIM, SPF or DMARC issues. -/
def flags (report : Dmarc.Report) : Bool × Bool × Bool :=
  report.record.foldl flagRecord (false, false, false)

def fromReport (hash : String) (report : Dmarc.Report) : ReportHeader :=
  let (flaggedDkim, flaggedSpf, flaggedDmarc) := flags report
  { hash := hash
    id := report.reportMetadata.reportId
    org := report.reportMetadata.orgName
    domain := report.policyPublished.domain
    dateBegin := report.reportMetadata.dateRange.begin
    dateEnd := report.reportMetadata.dateRange.«end»
    records := report.record.length
    flagged := flaggedDkim || flaggedSpf || flaggedDmarc
    flaggedDkim := flaggedDkim
    flaggedSpf := flaggedSpf
    flaggedDmarc := flaggedDmarc }

end ReportHeader

/-- A filter that is not part of the request is disabled. -/
structure ReportFilters where
  id : Option String := none
  flagged : Option Bool := none
  flaggedDkim : Option Bool := none
  flaggedSpf : Option Bool := none
  flaggedDmarc : Option Bool := none
  domain : Option String := none
  org : Option String := none
  ip : Option String := none
  /-- Keep reports whose period ends on or after this Unix timestamp. -/
  begin : Option UInt64 := none
  /-- Keep reports whose period begins on or before this Unix timestamp. -/
  «end» : Option UInt64 := none
  /-- Keep reports with more records than this. -/
  recordsGt : Option Nat := none

/-- Remove the URL encoding from the texts.  A text that cannot be decoded
disables its filter. -/
def ReportFilters.urlDecode (env : Externals) (filters : ReportFilters) : ReportFilters :=
  { filters with
    domain := (filters.domain.bind env.urlDecode).map env.toLowercase
    org := filters.org.bind env.urlDecode
    ip := filters.ip.bind env.urlDecode }

/-- The handler of the list, a chain of filters over the stored reports. -/
def listHandler (env : Externals) (state : AppState) (filters : ReportFilters) :
    List ReportHeader :=
  let filters := filters.urlDecode env
  let ipFilter := filters.ip.bind env.parseIp
  state.dmarcReports.toList
    |>.filter (fun (_, rwi) => filters.id.all fun id => rwi.mailId = id)
    |>.filter (fun (_, rwi) => filters.org.all fun org => rwi.report.reportMetadata.orgName = org)
    |>.filter (fun (_, rwi) => filters.domain.all fun fd =>
        env.toLowercase rwi.report.policyPublished.domain = fd)
    |>.filter (fun (_, rwi) => ipFilter.all fun ip =>
        rwi.report.record.any fun r => r.row.sourceIp = ip)
    |>.map (fun (hash, rwi) => ReportHeader.fromReport hash rwi.report)
    |>.filter (fun rh => filters.flagged.all fun flagged => rh.flagged = flagged)
    |>.filter (fun rh => filters.flaggedDkim.all fun dkim => rh.flaggedDkim = dkim)
    |>.filter (fun rh => filters.flaggedSpf.all fun spf => rh.flaggedSpf = spf)
    |>.filter (fun rh => filters.flaggedDmarc.all fun dm => rh.flaggedDmarc = dm)
    |>.filter (fun rh =>
        filters.begin.all (fun begin => rh.dateEnd ≥ begin) &&
          filters.«end».all (fun endTime => rh.dateBegin ≤ endTime))
    |>.filter (fun rh => filters.recordsGt.all fun threshold => rh.records > threshold)

section Flags

/-- The DKIM policy or a DKIM signature of the record has not passed. -/
def dkimIssue (record : Dmarc.RecordType) : Bool :=
  (record.row.policyEvaluated.dkim.any fun dkim => dkim ≠ .pass) ||
    record.authResults.dkim.any fun dkim => dkim.any fun x => x.result ≠ .pass

/-- The SPF policy or an SPF check of the record has not passed. -/
def spfIssue (record : Dmarc.RecordType) : Bool :=
  (record.row.policyEvaluated.spf.any fun spf => spf ≠ .pass) ||
    record.authResults.spf.any fun x => x.result ≠ .pass

/-- Neither the DKIM nor the SPF policy of the record has passed. -/
def dmarcIssue (record : Dmarc.RecordType) : Bool :=
  record.row.policyEvaluated.dkim ≠ some .pass && record.row.policyEvaluated.spf ≠ some .pass

theorem flagRecord_eq (dkim spf dmarc : Bool) (record : Dmarc.RecordType) :
    ReportHeader.flagRecord (dkim, spf, dmarc) record =
      (dkim || dkimIssue record, spf || spfIssue record, dmarc || dmarcIssue record) := by
  simp only [ReportHeader.flagRecord, dkimIssue, spfIssue, dmarcIssue, Prod.mk.injEq]
  refine ⟨?_, ?_, ?_⟩ <;> split_ifs <;> simp_all

/-- The flags of a report are those of its records. -/
theorem flags_eq (report : Dmarc.Report) :
    ReportHeader.flags report =
      (report.record.any dkimIssue, report.record.any spfIssue, report.record.any dmarcIssue) := by
  have run : ∀ (records : List Dmarc.RecordType) (dkim spf dmarc : Bool),
      records.foldl ReportHeader.flagRecord (dkim, spf, dmarc) =
        (dkim || records.any dkimIssue, spf || records.any spfIssue,
          dmarc || records.any dmarcIssue) := by
    intro records
    induction records with
    | nil => simp
    | cons record records ih =>
        intro dkim spf dmarc
        rw [List.foldl_cons, flagRecord_eq, ih]
        simp only [List.any_cons, Bool.or_assoc]
  rw [ReportHeader.flags, run]
  simp only [Bool.false_or]

end Flags

section Selection

/-- A stored report passes the decoded filters of a request. -/
structure ReportFilters.Passes (env : Externals) (filters : ReportFilters)
    (rwi : DmarcReportWithMailId) : Prop where
  id : ∀ id ∈ filters.id, rwi.mailId = id
  org : ∀ org ∈ filters.org, rwi.report.reportMetadata.orgName = org
  domain : ∀ domain ∈ filters.domain,
    env.toLowercase rwi.report.policyPublished.domain = domain
  ip : ∀ text ∈ filters.ip, ∀ ip ∈ env.parseIp text,
    ∃ record ∈ rwi.report.record, record.row.sourceIp = ip
  flagged : ∀ flagged ∈ filters.flagged,
    (rwi.report.record.any fun record => dkimIssue record || spfIssue record || dmarcIssue record) =
      flagged
  flaggedDkim : ∀ flagged ∈ filters.flaggedDkim, rwi.report.record.any dkimIssue = flagged
  flaggedSpf : ∀ flagged ∈ filters.flaggedSpf, rwi.report.record.any spfIssue = flagged
  flaggedDmarc : ∀ flagged ∈ filters.flaggedDmarc, rwi.report.record.any dmarcIssue = flagged
  begin : ∀ begin ∈ filters.begin, begin ≤ rwi.report.reportMetadata.dateRange.«end»
  «end» : ∀ endTime ∈ filters.«end», rwi.report.reportMetadata.dateRange.begin ≤ endTime
  recordsGt : ∀ threshold ∈ filters.recordsGt, threshold < rwi.report.record.length

variable {env : Externals} {state : AppState}

theorem fromReport_flaggedDkim (hash : String) (report : Dmarc.Report) :
    (ReportHeader.fromReport hash report).flaggedDkim = report.record.any dkimIssue := by
  simp only [ReportHeader.fromReport, flags_eq]

theorem fromReport_flaggedSpf (hash : String) (report : Dmarc.Report) :
    (ReportHeader.fromReport hash report).flaggedSpf = report.record.any spfIssue := by
  simp only [ReportHeader.fromReport, flags_eq]

theorem fromReport_flaggedDmarc (hash : String) (report : Dmarc.Report) :
    (ReportHeader.fromReport hash report).flaggedDmarc = report.record.any dmarcIssue := by
  simp only [ReportHeader.fromReport, flags_eq]

theorem fromReport_flagged (hash : String) (report : Dmarc.Report) :
    (ReportHeader.fromReport hash report).flagged =
      report.record.any fun record => dkimIssue record || spfIssue record || dmarcIssue record := by
  simp only [ReportHeader.fromReport, flags_eq]
  induction report.record with
  | nil => rfl
  | cons record records ih =>
      simp only [List.any_cons, ← ih]
      ac_rfl

/-- The list shows exactly the headers of the stored reports which pass. -/
theorem mem_listHandler_iff {filters : ReportFilters} {header : ReportHeader} :
    header ∈ listHandler env state filters ↔
      ∃ hash rwi, state.dmarcReports[hash]? = some rwi ∧
        (filters.urlDecode env).Passes env rwi ∧
          ReportHeader.fromReport hash rwi.report = header := by
  simp only [listHandler, List.mem_filter, List.mem_map, Option.all_eq_true, Bool.and_eq_true,
    decide_eq_true_eq, Prod.exists, Std.ExtTreeMap.mem_toList_iff_getElem?_eq_some,
    List.any_eq_true]
  constructor
  · rintro ⟨⟨⟨⟨⟨⟨⟨hash, rwi, ⟨⟨⟨⟨stored, id⟩, org⟩, domain⟩, ip⟩, rfl⟩, flagged⟩, dkim⟩, spf⟩,
      dmarc⟩, begin, endTime⟩, records⟩
    rw [fromReport_flagged] at flagged
    rw [fromReport_flaggedDkim] at dkim
    rw [fromReport_flaggedSpf] at spf
    rw [fromReport_flaggedDmarc] at dmarc
    refine ⟨hash, rwi, stored, ⟨id, org, domain, ?_, flagged, dkim, spf, dmarc, begin, endTime,
      records⟩, rfl⟩
    intro text supplied address parsed
    exact ip address (Option.bind_eq_some_iff.mpr ⟨text, supplied, parsed⟩)
  · rintro ⟨hash, rwi, stored, passes, rfl⟩
    rw [fromReport_flagged, fromReport_flaggedDkim, fromReport_flaggedSpf, fromReport_flaggedDmarc]
    refine ⟨⟨⟨⟨⟨⟨⟨hash, rwi, ⟨⟨⟨⟨stored, passes.id⟩, passes.org⟩, passes.domain⟩, ?_⟩, rfl⟩,
      passes.flagged⟩, passes.flaggedDkim⟩, passes.flaggedSpf⟩, passes.flaggedDmarc⟩,
      passes.begin, passes.«end»⟩, passes.recordsGt⟩
    intro address parsed
    rcases Option.bind_eq_some_iff.mp parsed with ⟨text, supplied, parsed⟩
    exact passes.ip text supplied address parsed

/-- The list for an organization shows its reports. -/
theorem listHandler_org {encoded org : String} (decoded : env.urlDecode encoded = some org) :
    listHandler env state { org := some encoded } =
      (state.dmarcReports.toList.filter fun entry =>
        entry.2.report.reportMetadata.orgName = org).map fun entry =>
          ReportHeader.fromReport entry.1 entry.2.report := by
  simp [listHandler, ReportFilters.urlDecode, decoded]

/-- The list for a domain shows the reports published for it. -/
theorem listHandler_domain {encoded domain : String}
    (decoded : env.urlDecode encoded = some domain) :
    listHandler env state { domain := some encoded } =
      (state.dmarcReports.toList.filter fun entry =>
        env.toLowercase entry.2.report.policyPublished.domain = env.toLowercase domain).map
          fun entry => ReportHeader.fromReport entry.1 entry.2.report := by
  simp [listHandler, ReportFilters.urlDecode, decoded]

/-- The list for an IP address shows the reports with a record of it. -/
theorem listHandler_ip {encoded text : String} {ip : IpAddr}
    (decoded : env.urlDecode encoded = some text) (parsed : env.parseIp text = some ip) :
    listHandler env state { ip := some encoded } =
      (state.dmarcReports.toList.filter fun entry =>
        entry.2.report.record.any fun record => record.row.sourceIp = ip).map
          fun entry => ReportHeader.fromReport entry.1 entry.2.report := by
  simp [listHandler, ReportFilters.urlDecode, decoded, parsed]

end Selection

end DmarcReportViewer.DmarcReports
