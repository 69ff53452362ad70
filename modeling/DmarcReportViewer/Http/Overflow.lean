import DmarcReportViewer.Http.Export
import DmarcReportViewer.Http.Histograms
import DmarcReportViewer.Http.Sources
import Mathlib.Data.List.Flatten

/-!
# Totals of more than 64 bits

The senders of reports choose the counts that the summary and the sources view add up.
All additions stay within 64 bits if and only if the exact totals over all stored
reports do, because the filters of a summary only leave reports out.
-/

namespace DmarcReportViewer

open Collections Histogram

section Summaries

/-- All histograms of a DMARC summary are filled with their events without an overflow. -/
structure DmarcSummary.Exact (dmarc : DmarcSummary) (events : DmarcEvents) : Prop where
  orgs : Histogram.Exact dmarc.orgs events.orgs
  domains : Histogram.Exact dmarc.domains events.domains
  spfPolicyResults : Histogram.Exact dmarc.spfPolicyResults events.spfPolicyResults
  dkimPolicyResults : Histogram.Exact dmarc.dkimPolicyResults events.dkimPolicyResults
  spfAuthResults : Histogram.Exact dmarc.spfAuthResults events.spfAuthResults
  dkimAuthResults : Histogram.Exact dmarc.dkimAuthResults events.dkimAuthResults

structure TlsSummary.Exact (tls : TlsSummary) (events : TlsEvents) : Prop where
  orgs : Histogram.Exact tls.orgs events.orgs
  domains : Histogram.Exact tls.domains events.domains
  policyTypes : Histogram.Exact tls.policyTypes events.policyTypes
  stsPolicyResults : Histogram.Exact tls.stsPolicyResults events.stsPolicyResults
  tlsaPolicyResults : Histogram.Exact tls.tlsaPolicyResults events.tlsaPolicyResults
  stsFailureTypes : Histogram.Exact tls.stsFailureTypes events.stsFailureTypes
  tlsaFailureTypes : Histogram.Exact tls.tlsaFailureTypes events.tlsaFailureTypes

/-- The exact totals of all histograms of a DMARC summary are 64-bit numbers. -/
structure DmarcEvents.Fit (events : DmarcEvents) : Prop where
  orgs : Fits events.orgs
  domains : Fits events.domains
  spfPolicyResults : Fits events.spfPolicyResults
  dkimPolicyResults : Fits events.dkimPolicyResults
  spfAuthResults : Fits events.spfAuthResults
  dkimAuthResults : Fits events.dkimAuthResults

structure TlsEvents.Fit (events : TlsEvents) : Prop where
  orgs : Fits events.orgs
  domains : Fits events.domains
  policyTypes : Fits events.policyTypes
  stsPolicyResults : Fits events.stsPolicyResults
  tlsaPolicyResults : Fits events.tlsaPolicyResults
  stsFailureTypes : Fits events.stsFailureTypes
  tlsaFailureTypes : Fits events.tlsaFailureTypes

variable {env : Externals} {thresholds : Thresholds} {domainFilter : Option String}
  {reports : Reports}

theorem exact_count_dmarc_iff (files stored : Nat) (events : DmarcEvents) :
    ((DmarcSummary.empty files stored).count events).Exact events ↔ events.Fit := by
  constructor
  · intro exact
    constructor
    · exact exact_tally_iff.mp exact.orgs
    · exact exact_tally_iff.mp exact.domains
    · exact exact_tally_iff.mp exact.spfPolicyResults
    · exact exact_tally_iff.mp exact.dkimPolicyResults
    · exact exact_tally_iff.mp exact.spfAuthResults
    · exact exact_tally_iff.mp exact.dkimAuthResults
  · intro fit
    constructor
    · exact exact_tally_iff.mpr fit.orgs
    · exact exact_tally_iff.mpr fit.domains
    · exact exact_tally_iff.mpr fit.spfPolicyResults
    · exact exact_tally_iff.mpr fit.dkimPolicyResults
    · exact exact_tally_iff.mpr fit.spfAuthResults
    · exact exact_tally_iff.mpr fit.dkimAuthResults

theorem exact_count_tls_iff (files stored : Nat) (events : TlsEvents) :
    ((TlsSummary.empty files stored).count events).Exact events ↔ events.Fit := by
  constructor
  · intro exact
    constructor
    · exact exact_tally_iff.mp exact.orgs
    · exact exact_tally_iff.mp exact.domains
    · exact exact_tally_iff.mp exact.policyTypes
    · exact exact_tally_iff.mp exact.stsPolicyResults
    · exact exact_tally_iff.mp exact.tlsaPolicyResults
    · exact exact_tally_iff.mp exact.stsFailureTypes
    · exact exact_tally_iff.mp exact.tlsaFailureTypes
  · intro fit
    constructor
    · exact exact_tally_iff.mpr fit.orgs
    · exact exact_tally_iff.mpr fit.domains
    · exact exact_tally_iff.mpr fit.policyTypes
    · exact exact_tally_iff.mpr fit.stsPolicyResults
    · exact exact_tally_iff.mpr fit.tlsaPolicyResults
    · exact exact_tally_iff.mpr fit.stsFailureTypes
    · exact exact_tally_iff.mpr fit.tlsaFailureTypes

theorem fit_dmarcEvents_of_sublist {few many : List Dmarc.Report} (sublist : few.Sublist many)
    (fit : (dmarcEvents env many).Fit) : (dmarcEvents env few).Fit where
  orgs := fit.orgs.of_sublist (sublist.map _)
  domains := fit.domains.of_sublist (sublist.map _)
  spfPolicyResults := fit.spfPolicyResults.of_sublist (sublist.flatMap _)
  dkimPolicyResults := fit.dkimPolicyResults.of_sublist (sublist.flatMap _)
  spfAuthResults := fit.spfAuthResults.of_sublist (sublist.flatMap _)
  dkimAuthResults := fit.dkimAuthResults.of_sublist (sublist.flatMap _)

theorem fit_tlsEvents_of_sublist {few many : List Tls.Report} (sublist : few.Sublist many)
    (fit : (tlsEvents env many).Fit) : (tlsEvents env few).Fit where
  orgs := fit.orgs.of_sublist (sublist.map _)
  domains := fit.domains.of_sublist ((sublist.flatMap _).map _)
  policyTypes := fit.policyTypes.of_sublist ((sublist.flatMap _).map _)
  stsPolicyResults := fit.stsPolicyResults.of_sublist ((sublist.flatMap _).flatMap _)
  tlsaPolicyResults := fit.tlsaPolicyResults.of_sublist ((sublist.flatMap _).flatMap _)
  stsFailureTypes := fit.stsFailureTypes.of_sublist ((sublist.flatMap _).flatMap _)
  tlsaFailureTypes := fit.tlsaFailureTypes.of_sublist ((sublist.flatMap _).flatMap _)

end Summaries

section Views

/-- The messages and failed sessions which the stored reports count for an address. -/
def sourceTotal (state : AppState) (ip : IpAddr) : ℕ :=
  (((Sources.records state).filter fun record => record.row.sourceIp = ip).map fun record =>
      record.row.count.toNat).sum +
    (((Sources.failures state).filter fun failure => failure.sendingMtaIp = some ip).map
      fun failure => failure.failedSessionCount.toNat).sum

/-- The count of an address which a map of sources holds, or the zero it starts with. -/
def sourceCount (ipMap : HashMap IpAddr SourceDetails) (ip : IpAddr) : UInt64 :=
  (ipMap[ip]?.map SourceDetails.count).getD 0

/-- No addition for a summary or for the sources view overflows, whatever the filters are,
and all totals are exact. -/
structure NoOverflow (env : Externals) (state : AppState) : Prop where
  summary : ∀ mails files lastUpdate nextUpdate timeSpan domainFilter now later thresholds summary,
    Summary.thresholds timeSpan now later = .ok thresholds →
    Summary.new env mails files { dmarc := state.dmarcReports, tls := state.tlsReports } lastUpdate
      nextUpdate timeSpan domainFilter now later = .ok summary →
    summary.dmarc.Exact (dmarcEvents env (dmarcSelected env thresholds domainFilter
      { dmarc := state.dmarcReports, tls := state.tlsReports })) ∧
    summary.tls.Exact (tlsEvents env (tlsSelected env thresholds domainFilter
      { dmarc := state.dmarcReports, tls := state.tlsReports }))
  sourceAdditions : ∀ before occurrence after,
    Sources.occurrences state = before ++ occurrence :: after →
      (sourceCount (before.foldl Sources.addOccurrence ∅) occurrence.ip).toNat +
        occurrence.count.toNat < 2 ^ 64
  sourceTotals : ∀ order, ∀ source ∈ Sources.handler order state,
    source.details.count.toNat = sourceTotal state source.ip

/-- The exact totals over all stored reports are 64-bit numbers. -/
structure TotalsFit (env : Externals) (state : AppState) : Prop where
  dmarc : (dmarcEvents env ((valueList state.dmarcReports).map ReportWithMailId.report)).Fit
  tls : (tlsEvents env ((valueList state.tlsReports).map ReportWithMailId.report)).Fit
  sources : ∀ ip, sourceTotal state ip < 2 ^ 64

/-- What the occurrences add to the counts of the sources. -/
def sourceEvents (occurrences : List Sources.Occurrence) : List (IpAddr × UInt64) :=
  occurrences.map fun occurrence => (occurrence.ip, occurrence.count)

variable {env : Externals} {state : AppState}

theorem total_sourceEvents (ip : IpAddr) :
    total (sourceEvents (Sources.occurrences state)) ip = sourceTotal state ip := by
  have counts := congrArg (List.map UInt64.toNat) (@Sources.counts_occurrencesOf state ip)
  simp only [List.map_map, List.map_append] at counts
  rw [sourceEvents, total_map, sourceTotal, ← List.sum_append]
  exact congrArg List.sum counts

/-- The counts of the sources are a tally. -/
theorem sourceCount_foldl (occurrences : List Sources.Occurrence) (ip : IpAddr) :
    sourceCount (occurrences.foldl Sources.addOccurrence ∅) ip =
      count (tally (sourceEvents occurrences)) ip := by
  have entry := Grouping.getElem?_group Sources.Occurrence.ip Sources.Occurrence.start
    Sources.Occurrence.update occurrences ip
  have grouped : occurrences.foldl Sources.addOccurrence ∅ =
      Grouping.group Sources.Occurrence.ip Sources.Occurrence.start Sources.Occurrence.update
        occurrences := rfl
  rw [count_tally, weightOf, sourceEvents, List.filter_map, List.map_map, sourceCount, grouped,
    entry]
  have same : (fun event : IpAddr × UInt64 => decide (event.1 = ip)) ∘
      (fun occurrence : Sources.Occurrence => (occurrence.ip, occurrence.count)) =
        fun occurrence => decide (occurrence.ip = ip) := rfl
  rw [same]
  cases occurrences.filter fun occurrence => decide (occurrence.ip = ip) with
  | nil => rfl
  | cons first rest =>
      have merged := Sources.after_count (first :: rest) first.start
      rw [Sources.Occurrence.start, Sources.newDetails, zero_add] at merged
      exact merged

/-- The additions for the sources view are those of a tally. -/
theorem sourceAdditions_iff :
    (∀ before occurrence after, Sources.occurrences state = before ++ occurrence :: after →
      (sourceCount (before.foldl Sources.addOccurrence ∅) occurrence.ip).toNat +
        occurrence.count.toNat < 2 ^ 64) ↔
      InRange (sourceEvents (Sources.occurrences state)) := by
  constructor
  · intro additions before key weight after split
    rcases List.map_eq_append_iff.mp split with ⟨visited, remaining, whole, rfl, rest⟩
    rcases List.map_eq_cons_iff.mp rest with ⟨occurrence, later, rfl, event, _⟩
    cases event
    have addition := additions visited occurrence later whole
    rwa [sourceCount_foldl] at addition
  · intro inRange before occurrence after split
    rw [sourceCount_foldl]
    refine inRange (sourceEvents before) occurrence.ip occurrence.count (sourceEvents after) ?_
    rw [split, sourceEvents, List.map_append, List.map_cons]
    rfl

/-- Without filters, all reports are counted. -/
theorem selected_all (reports : Reports) :
    dmarcSelected env { seconds := none, datetime := none } none reports =
        (valueList reports.dmarc).map ReportWithMailId.report ∧
      tlsSelected env { seconds := none, datetime := none } none reports =
        (valueList reports.tls).map ReportWithMailId.report :=
  ⟨List.filter_eq_self.mpr fun _ _ => rfl, List.filter_eq_self.mpr fun _ _ => rfl⟩

/-- All additions stay within 64 bits if and only if the exact totals over all stored
reports do. -/
theorem noOverflow_iff (env : Externals) (state : AppState) :
    NoOverflow env state ↔ TotalsFit env state := by
  have sources : InRange (sourceEvents (Sources.occurrences state)) ↔
      ∀ ip, sourceTotal state ip < 2 ^ 64 := by
    rw [inRange_iff]
    exact forall_congr' fun ip => by rw [total_sourceEvents]
  constructor
  · intro noOverflow
    have shown := noOverflow.summary 0 { xml := 0, json := 0 } 0 0 none none 0 0 _ _ rfl rfl
    rw [dmarc_newSince, tls_newSince, exact_count_dmarc_iff, exact_count_tls_iff,
      (selected_all _).1, (selected_all _).2] at shown
    exact ⟨shown.1, shown.2, sources.mp (sourceAdditions_iff.mp noOverflow.sourceAdditions)⟩
  · intro fit
    constructor
    case summary =>
      intro mails files lastUpdate nextUpdate timeSpan domainFilter now later thresholds summary
        since created
      rcases new_eq_ok_iff.mp created with ⟨_, sinceToo, rfl⟩
      rw [since] at sinceToo
      cases sinceToo
      rw [dmarc_newSince, tls_newSince, exact_count_dmarc_iff, exact_count_tls_iff]
      exact ⟨fit_dmarcEvents_of_sublist List.filter_sublist fit.dmarc,
        fit_tlsEvents_of_sublist List.filter_sublist fit.tls⟩
    case sourceAdditions => exact sourceAdditions_iff.mpr (sources.mpr fit.sources)
    case sourceTotals =>
      intro order source listed
      have modulo := (Sources.handler_reference env state order).count source listed
      exact modulo.trans (Nat.mod_eq_of_lt (fit.sources source.ip))

end Views

section Samples

open Export Serde Text

def overflowRecordText (count : String) : String :=
  "<record><row><source_ip>192.0.2.235</source_ip><count>" ++ count ++ "</count>" ++
  "<policy_evaluated><disposition>none</disposition></policy_evaluated></row><identifiers>" ++
  "<header_from>mail.example</header_from></identifiers><auth_results><spf>" ++
  "<domain>mail.example</domain><result>fail</result></spf></auth_results></record>"

/-- A report with one message more than a 64-bit number can count. -/
def overflowText : String :=
  "<feedback><report_metadata><org_name>Example</org_name><email>dmarc@mail.example</email>" ++
  "<report_id>1</report_id><date_range><begin>1714521600</begin><end>1714608000</end>" ++
  "</date_range></report_metadata><policy_published><domain>mail.example</domain><p>none</p>" ++
  "</policy_published>" ++ overflowRecordText "1" ++ overflowRecordText "18446744073709551615" ++
  "</feedback>"

def overflowRecordTree (count : String) : Xml :=
  .element "" [
    ("row", .element "" [
      ("source_ip", .element "192.0.2.235" []),
      ("count", .element count []),
      ("policy_evaluated", .element "" [("disposition", .element "none" [])])]),
    ("identifiers", .element "" [("header_from", .element "mail.example" [])]),
    ("auth_results", .element "" [
      ("spf", .element "" [
        ("domain", .element "mail.example" []),
        ("result", .element "fail" [])])])]

def overflowTree : Xml :=
  .element "" [
    ("report_metadata", .element "" [
      ("org_name", .element "Example" []),
      ("email", .element "dmarc@mail.example" []),
      ("report_id", .element "1" []),
      ("date_range", .element "" [
        ("begin", .element "1714521600" []),
        ("end", .element "1714608000" [])])]),
    ("policy_published", .element "" [
      ("domain", .element "mail.example" []),
      ("p", .element "none" [])]),
    ("record", overflowRecordTree "1"),
    ("record", overflowRecordTree "18446744073709551615")]

def overflowXml : QuickXml where
  parse bytes :=
    if bytes = asBytes overflowText then
      .ok { name := "feedback", root := overflowTree }
    else
      .error "unexpected document"
  write _ _ _ := overflowText

def overflowRecord (count : UInt64) : Dmarc.RecordType where
  row := {
    sourceIp := .v4 3221226219
    count := count
    policyEvaluated := { disposition := .none, dkim := none, spf := none, reason := none } }
  identifiers := { envelopeTo := none, envelopeFrom := none, headerFrom := "mail.example" }
  authResults := {
    dkim := none
    spf := [{ domain := "mail.example", scope := none, result := .fail }] }

def overflowReport : Dmarc.Report :=
  { Dmarc.sampleReport "mail.example" (.v4 3221226219) with
    record := [overflowRecord 1, overflowRecord 18446744073709551615] }

def overflowState : AppState :=
  { AppState.new 0 with
    dmarcReports := (∅ : BTreeMap String DmarcReportWithMailId).insert "80PIQSMHanHfacyq6aXj_A"
      { mailId := "1", report := overflowReport } }

/-- The report is accepted, and the second addition to its source overflows. -/
theorem not_noOverflow_sample :
    Dmarc.Report.fromSlice (fromReader sampleEnv_keepsLowerCase sampleIpAddr overflowXml)
        (asBytes overflowText) = .ok overflowReport ∧
      ¬ NoOverflow sampleEnv overflowState := by
  constructor
  · have parsed : overflowXml.parse (asBytes overflowText) =
        .ok { name := "feedback", root := overflowTree } := by
      simp only [overflowXml, if_true]
    rw [Dmarc.Report.fromSlice, fromReader, parsed]
    decide +kernel
  · intro noOverflow
    have addition := noOverflow.sourceAdditions
      [Sources.Occurrence.ofRecord overflowReport (overflowRecord 1)]
      (Sources.Occurrence.ofRecord overflowReport (overflowRecord 18446744073709551615)) [] rfl
    revert addition
    decide +kernel

end Samples

end DmarcReportViewer
