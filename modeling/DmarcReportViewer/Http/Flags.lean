import DmarcReportViewer.Http.Sources

/-!
# Flags of reports and issues of sources

The list of DMARC reports flags a report for its DKIM and SPF results, and the list of
sources shows issues of an address.  Both look at the same records.
-/

namespace DmarcReportViewer.Sources

open Collections DmarcReports

/-- The list of DMARC reports has the flags for which the sources have issues. -/
structure FlagsAgree (env : Externals) : Prop where
  dkim : ∀ report : Dmarc.Report, (ReportHeader.flags report).1 = true ↔
    ∃ record ∈ report.record, .dkimPolicy ∈ detectDmarcIssues record ∅ ∨
      .dkimAuth ∈ detectDmarcIssues record ∅
  spf : ∀ report : Dmarc.Report, (ReportHeader.flags report).2.1 = true ↔
    ∃ record ∈ report.record, .spfPolicy ∈ detectDmarcIssues record ∅ ∨
      .spfAuth ∈ detectDmarcIssues record ∅
  dkimListed : ∀ state order, ∀ source ∈ handler order state,
    .dkimPolicy ∈ source.details.issues ∨ .dkimAuth ∈ source.details.issues →
      ∀ encoded text, env.urlDecode encoded = some text → env.parseIp text = some source.ip →
        listHandler env state { ip := some encoded, flaggedDkim := some true } ≠ []
  spfListed : ∀ state order, ∀ source ∈ handler order state,
    .spfPolicy ∈ source.details.issues ∨ .spfAuth ∈ source.details.issues →
      ∀ encoded text, env.urlDecode encoded = some text → env.parseIp text = some source.ip →
        listHandler env state { ip := some encoded, flaggedSpf := some true } ≠ []

section Records

variable {record : Dmarc.RecordType}

theorem dkimIssue_iff :
    dkimIssue record = true ↔
      .dkimPolicy ∈ detectDmarcIssues record ∅ ∨ .dkimAuth ∈ detectDmarcIssues record ∅ := by
  simp [mem_detectDmarcIssues, HasIssue, dkimIssue, Option.any_eq_true]

theorem spfIssue_iff :
    spfIssue record = true ↔
      .spfPolicy ∈ detectDmarcIssues record ∅ ∨ .spfAuth ∈ detectDmarcIssues record ∅ := by
  simp [mem_detectDmarcIssues, HasIssue, spfIssue, Option.any_eq_true]

end Records

section Listed

variable {env : Externals} {state : AppState} {order : IterationOrder IpAddr SourceDetails}
  {source : Source}

/-- Issues of a source which no TLS failure can cause stem from a stored record. -/
theorem exists_record_of_issue {first second : Issue} (listed : source ∈ handler order state)
    (dmarc : ∀ resultType, issueOf resultType ≠ first ∧ issueOf resultType ≠ second)
    (present : first ∈ source.details.issues ∨ second ∈ source.details.issues) :
    ∃ (hash : String) (rwi : DmarcReportWithMailId), state.dmarcReports[hash]? = some rwi ∧
      ∃ record ∈ rwi.report.record, record.row.sourceIp = source.ip ∧
        (first ∈ detectDmarcIssues record ∅ ∨ second ∈ detectDmarcIssues record ∅) := by
  have found : ∃ occurrence ∈ occurrencesOf state source.ip,
      first ∈ occurrence.issues ∨ second ∈ occurrence.issues := by
    rw [(mergedFrom_of_mem listed).issues, (mergedFrom_of_mem listed).issues] at present
    rcases present with ⟨occurrence, member, issue⟩ | ⟨occurrence, member, issue⟩
    · exact ⟨occurrence, member, .inl issue⟩
    · exact ⟨occurrence, member, .inr issue⟩
  rw [exists_occurrencesOf] at found
  rcases found with dmarcRecord | ⟨_, _, _, _, failure, _, _, found⟩
  · rcases exists_mem_valueList.mp dmarcRecord with ⟨entry, stored, record⟩
    exact ⟨entry.1, entry.2, Std.ExtTreeMap.mem_toList_iff_getElem?_eq_some.mp stored, record⟩
  · rcases found with found | found
    · exact absurd (Finset.mem_singleton.mp found).symm (dmarc failure.resultType).1
    · exact absurd (Finset.mem_singleton.mp found).symm (dmarc failure.resultType).2

/-- A stored report with a record of an address is in the list for the address, if it has
the flags which are asked for. -/
theorem listHandler_ne_nil {hash : String} {rwi : DmarcReportWithMailId}
    (stored : state.dmarcReports[hash]? = some rwi) {filters : ReportFilters}
    (passes : (filters.urlDecode env).Passes env rwi) : listHandler env state filters ≠ [] :=
  List.ne_nil_of_mem (mem_listHandler_iff.mpr ⟨hash, rwi, stored, passes, rfl⟩)

end Listed

theorem flagsAgree (env : Externals) : FlagsAgree env where
  dkim report := by
    rw [flags_eq, List.any_eq_true]
    simp only [dkimIssue_iff]
  spf report := by
    rw [flags_eq, List.any_eq_true]
    simp only [spfIssue_iff]
  dkimListed := by
    intro state order source listed issues encoded text decoded parsed
    rcases exists_record_of_issue listed (by rintro ⟨⟩ <;> simp [issueOf]) issues with
      ⟨hash, rwi, stored, record, member, sender, issue⟩
    have flagged := dkimIssue_iff.mpr issue
    apply listHandler_ne_nil stored
    constructor <;> simp [ReportFilters.urlDecode, decoded, parsed]
    · exact ⟨record, member, sender⟩
    · exact ⟨record, member, flagged⟩
  spfListed := by
    intro state order source listed issues encoded text decoded parsed
    rcases exists_record_of_issue listed (by rintro ⟨⟩ <;> simp [issueOf]) issues with
      ⟨hash, rwi, stored, record, member, sender, issue⟩
    have flagged := spfIssue_iff.mpr issue
    apply listHandler_ne_nil stored
    constructor <;> simp [ReportFilters.urlDecode, decoded, parsed]
    · exact ⟨record, member, sender⟩
    · exact ⟨record, member, flagged⟩

end DmarcReportViewer.Sources
