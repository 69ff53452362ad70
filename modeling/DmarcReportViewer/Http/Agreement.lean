import DmarcReportViewer.Http.DmarcReports
import DmarcReportViewer.Http.Histograms
import DmarcReportViewer.Http.TlsReports

/-!
# Summary and report lists

The charts of a summary link to the report lists.  `lists_agree` says that a
list has as many entries as the chart has counted.
-/

namespace DmarcReportViewer

open Collections Histogram

/-- A counter shows the length of a list.  It wraps around at `2 ^ 64`, which no
vector reaches. -/
def Shows {α : Type} (counter : UInt64) (entries : List α) : Prop :=
  counter = UInt64.ofNat entries.length ∧
    (entries.length < 2 ^ 64 → counter.toNat = entries.length)

/-- The report lists for an organization or a domain agree with a summary. -/
structure ListsAgree (env : Externals) (state : AppState) (summary : Summary) : Prop where
  dmarcOrgs : ∀ encoded org, env.urlDecode encoded = some org →
    Shows (count summary.dmarc.orgs org)
      (DmarcReports.listHandler env state { org := some encoded })
  tlsOrgs : ∀ encoded org, env.urlDecode encoded = some org →
    Shows (count summary.tls.orgs org) (TlsReports.listHandler env state { org := some encoded })
  dmarcDomains : ∀ encoded domain, env.urlDecode encoded = some domain →
    Shows (count summary.dmarc.domains (env.toLowercase domain))
      (DmarcReports.listHandler env state { domain := some encoded })
  tlsDomains : ∀ encoded domain, env.urlDecode encoded = some domain →
    (env.toLowercase domain ∈ summary.tls.domains ↔
      TlsReports.listHandler env state { domain := some encoded } ≠ [])

/-- Counting the reports of all entries under their names gives, for each name,
the length of the list of the entries with that name. -/
theorem shows_count_tally {ι ρ α : Type} (stored : List ι) (report : ι → ρ) (name : ρ → String)
    (header : ι → α) (key : String) :
    Shows (count (tally ((stored.map report).map fun report => (name report, (1 : UInt64)))) key)
      ((stored.filter fun entry => name (report entry) = key).map header) := by
  have counted :
      (count (tally ((stored.map report).map fun report => (name report, (1 : UInt64))))
        key).toNat =
          ((stored.filter fun entry => name (report entry) = key).map header).length % 2 ^ 64 := by
    rw [toNat_count_tally, total_map_one, List.countP_map, List.length_map,
      List.countP_eq_length_filter]
    rfl
  refine ⟨?_, ?_⟩
  · apply UInt64.toNat_inj.mp
    rw [counted, UInt64.toNat_ofNat']
  · intro bound
    rw [counted, Nat.mod_eq_of_lt bound]

section Unfiltered

variable (env : Externals)

theorem dmarcSelected_all (reports : Reports) :
    dmarcSelected env { seconds := none, datetime := none } none reports =
      reports.dmarc.toList.map fun entry => entry.2.report := by
  have passes : ∀ report ∈ (valueList reports.dmarc).map ReportWithMailId.report,
      dmarcPasses env none none report = true := fun _ _ => rfl
  refine (List.filter_eq_self.mpr passes).trans ?_
  rw [valueList, List.map_map]
  rfl

theorem tlsSelected_all (reports : Reports) :
    tlsSelected env { seconds := none, datetime := none } none reports =
      reports.tls.toList.map fun entry => entry.2.report := by
  have passes : ∀ report ∈ (valueList reports.tls).map ReportWithMailId.report,
      tlsPasses env none none report = true := fun _ _ => rfl
  refine (List.filter_eq_self.mpr passes).trans ?_
  rw [valueList, List.map_map]
  rfl

/-- Without a time span and a domain, the summary counts all stored reports. -/
theorem handler_all (state : AppState) (now later : DateTime) :
    Summary.handler env state { timeSpan := none, domain := none } now later =
      .ok (Summary.newSince env state.mails.size { xml := state.xmlFiles, json := state.jsonFiles }
        { dmarc := state.dmarcReports, tls := state.tlsReports } state.lastUpdate state.nextUpdate
        { seconds := none, datetime := none } none) :=
  rfl

end Unfiltered

/-- The lists of either kind of reports show what the summary of all reports
counts for an organization and for a domain. -/
theorem lists_agree (env : Externals) (state : AppState) (now later : DateTime) :
    ∃ summary,
      Summary.handler env state { timeSpan := none, domain := none } now later = .ok summary ∧
        ListsAgree env state summary := by
  refine ⟨_, handler_all env state now later, ?_⟩
  constructor
  case dmarcOrgs =>
    intro encoded org decoded
    rw [dmarc_newSince, dmarcSelected_all, DmarcReports.listHandler_org decoded]
    exact shows_count_tally _ _ _ _ _
  case tlsOrgs =>
    intro encoded org decoded
    rw [tls_newSince, tlsSelected_all, TlsReports.listHandler_org decoded]
    exact shows_count_tally _ _ _ _ _
  case dmarcDomains =>
    intro encoded domain decoded
    rw [dmarc_newSince, dmarcSelected_all, DmarcReports.listHandler_domain decoded]
    exact shows_count_tally _ _ _ _ _
  case tlsDomains =>
    intro encoded domain decoded
    rw [tls_newSince, tlsSelected_all, TlsReports.listHandler_domain decoded]
    have counted : env.toLowercase domain ∈ tally (tlsEvents env
        (state.tlsReports.toList.map fun entry => entry.2.report)).domains ↔
          ∃ entry ∈ state.tlsReports.toList, ∃ p ∈ entry.2.report.policies,
            env.toLowercase p.policy.policyDomain = env.toLowercase domain := by
      rw [mem_tally]
      simp only [tlsEvents, policyEvents, List.map_map, List.mem_map, List.mem_flatMap]
      constructor
      · rintro ⟨p, ⟨_, ⟨entry, stored, rfl⟩, member⟩, same⟩
        exact ⟨entry, stored, p, member, same⟩
      · rintro ⟨entry, stored, p, member, same⟩
        exact ⟨p, ⟨_, ⟨entry, stored, rfl⟩, member⟩, same⟩
    refine counted.trans ?_
    rw [ne_eq, List.map_eq_nil_iff, List.filter_eq_nil_iff]
    simp

end DmarcReportViewer
