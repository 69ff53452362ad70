import DmarcReportViewer.Background.Accounting
import DmarcReportViewer.Http.Histograms

/-!
# The domain filter of a summary

The filter selects whole TLS reports, but the histograms count their policies.
`domainIsolated_iff` says for which reports the filter counts nothing but its
own domain.
-/

namespace DmarcReportViewer

open Collections Histogram

/-- The policy results of one domain in a report. -/
def Tls.Report.restrict (env : Externals) (domain : String) (report : Tls.Report) : Tls.Report :=
  { report with
    policies := report.policies.filter fun p =>
      env.toLowercase p.policy.policyDomain = env.toLowercase domain }

def restrictEntry (env : Externals) (domain : String) (rwi : TlsReportWithMailId) :
    TlsReportWithMailId :=
  { rwi with report := rwi.report.restrict env domain }

/-- The DMARC reports published for a domain and the TLS reports with nothing but
their policy results for it. -/
def Reports.restrict (env : Externals) (domain : String) (reports : Reports) : Reports where
  dmarc := reports.dmarc.filter fun _ rwi =>
    env.toLowercase rwi.report.policyPublished.domain = env.toLowercase domain
  tls := (reports.tls.map fun _ rwi => restrictEntry env domain rwi).filter fun _ rwi =>
    !rwi.report.policies.isEmpty

/-- Two summaries have the same histograms. -/
structure SameHistograms (left right : Summary) : Prop where
  dmarcOrgs : left.dmarc.orgs = right.dmarc.orgs
  dmarcDomains : left.dmarc.domains = right.dmarc.domains
  spfPolicyResults : left.dmarc.spfPolicyResults = right.dmarc.spfPolicyResults
  dkimPolicyResults : left.dmarc.dkimPolicyResults = right.dmarc.dkimPolicyResults
  spfAuthResults : left.dmarc.spfAuthResults = right.dmarc.spfAuthResults
  dkimAuthResults : left.dmarc.dkimAuthResults = right.dmarc.dkimAuthResults
  tlsOrgs : left.tls.orgs = right.tls.orgs
  tlsDomains : left.tls.domains = right.tls.domains
  policyTypes : left.tls.policyTypes = right.tls.policyTypes
  stsPolicyResults : left.tls.stsPolicyResults = right.tls.stsPolicyResults
  tlsaPolicyResults : left.tls.tlsaPolicyResults = right.tls.tlsaPolicyResults
  stsFailureTypes : left.tls.stsFailureTypes = right.tls.stsFailureTypes
  tlsaFailureTypes : left.tls.tlsaFailureTypes = right.tls.tlsaFailureTypes

/-- The summary with a domain filter has the histograms which the summary
without filter has for the reports of the domain alone. -/
def DomainIsolated (env : Externals) (mails : Nat) (files : Files) (reports : Reports)
    (lastUpdate nextUpdate : UInt64) (thresholds : Thresholds) (domain : String) : Prop :=
  SameHistograms
    (Summary.newSince env mails files reports lastUpdate nextUpdate thresholds (some domain))
    (Summary.newSince env mails files (reports.restrict env domain) lastUpdate nextUpdate
      thresholds none)

/-- A TLS report of the time span that has a policy for the domain has no policy
for another one. -/
def DomainsSeparate (env : Externals) (reports : Reports) (thresholds : Thresholds)
    (domain : String) : Prop :=
  ∀ rwi ∈ valueList reports.tls,
    (thresholds.datetime.all fun threshold => threshold ≤ rwi.report.dateRange.endDatetime) = true →
      (∃ p ∈ rwi.report.policies,
        env.toLowercase p.policy.policyDomain = env.toLowercase domain) →
      ∀ p ∈ rwi.report.policies, env.toLowercase p.policy.policyDomain = env.toLowercase domain

variable {env : Externals} {mails : Nat} {files : Files} {reports : Reports}
  {lastUpdate nextUpdate : UInt64} {thresholds : Thresholds} {domain : String}

/-- The domain filter selects exactly the DMARC reports of the domain. -/
theorem dmarcSelected_restrict :
    dmarcSelected env thresholds none (reports.restrict env domain) =
      dmarcSelected env thresholds (some domain) reports := by
  have restricted : valueList (reports.restrict env domain).dmarc =
      (valueList reports.dmarc).filter fun rwi =>
        env.toLowercase rwi.report.policyPublished.domain = env.toLowercase domain :=
    valueList_filter reports.dmarc fun rwi =>
      env.toLowercase rwi.report.policyPublished.domain = env.toLowercase domain
  rw [dmarcSelected, dmarcSelected, restricted, List.filter_map, List.filter_map,
    List.filter_filter]
  apply congrArg (List.map ReportWithMailId.report)
  apply List.filter_congr
  intro rwi _
  simp [dmarcPasses]

theorem valueList_restrict :
    valueList (reports.restrict env domain).tls =
      ((valueList reports.tls).map (restrictEntry env domain)).filter fun rwi =>
        !rwi.report.policies.isEmpty := by
  have mapped : valueList (reports.tls.map fun _ rwi => restrictEntry env domain rwi) =
      (valueList reports.tls).map (restrictEntry env domain) := by
    simp only [valueList, Std.ExtTreeMap.toList_map, List.map_map]
    rfl
  rw [← mapped]
  exact valueList_filter _ fun rwi : TlsReportWithMailId => !rwi.report.policies.isEmpty

theorem restrict_of_all {report : Tls.Report}
    (all : ∀ p ∈ report.policies,
      env.toLowercase p.policy.policyDomain = env.toLowercase domain) :
    report.restrict env domain = report := by
  have unchanged : report.policies.filter (fun p =>
      env.toLowercase p.policy.policyDomain = env.toLowercase domain) = report.policies := by
    apply List.filter_eq_self.mpr
    intro p member
    simpa using all p member
  simp only [Tls.Report.restrict, unchanged]

/-- The restricted reports of the time span are the restrictions of the reports
which the filter selects. -/
theorem tlsSelected_restrict :
    tlsSelected env thresholds none (reports.restrict env domain) =
      (tlsSelected env thresholds (some domain) reports).map (Tls.Report.restrict env domain) := by
  have nonempty : ∀ rwi : TlsReportWithMailId,
      (!(restrictEntry env domain rwi).report.policies.isEmpty) = rwi.report.policies.any fun p =>
        env.toLowercase p.policy.policyDomain = env.toLowercase domain := by
    intro rwi
    rw [Bool.eq_iff_iff]
    simp [restrictEntry, Tls.Report.restrict]
  rw [tlsSelected, tlsSelected, valueList_restrict]
  simp only [List.filter_map, List.map_map, List.filter_filter]
  congr 1
  apply List.filter_congr
  intro rwi _
  have sameDates : (restrictEntry env domain rwi).report.dateRange = rwi.report.dateRange := rfl
  simp only [Function.comp_apply, nonempty, tlsPasses, Option.map_none, Option.map_some,
    Option.all_none, Option.all_some, Bool.and_true, sameDates]

theorem mem_tlsSelected_iff {report : Tls.Report} :
    report ∈ tlsSelected env thresholds (some domain) reports ↔
      ∃ rwi ∈ valueList reports.tls, rwi.report = report ∧
        (thresholds.datetime.all fun threshold => threshold ≤ report.dateRange.endDatetime) = true ∧
        ∃ p ∈ report.policies, env.toLowercase p.policy.policyDomain = env.toLowercase domain := by
  simp only [tlsSelected, List.mem_filter, List.mem_map, tlsPasses, Bool.and_eq_true,
    Option.map_some, Option.all_some, List.any_eq_true, decide_eq_true_eq]
  constructor
  · rintro ⟨⟨rwi, member, same⟩, passes⟩
    exact ⟨rwi, member, same, passes⟩
  · rintro ⟨rwi, member, same, passes⟩
    exact ⟨⟨rwi, member, same⟩, passes⟩

/-- If the domains are separate, then restricting the TLS reports changes none of
those which the filter selects. -/
theorem DomainsSeparate.tlsSelected_eq
    (separate : DomainsSeparate env reports thresholds domain) :
    tlsSelected env thresholds none (reports.restrict env domain) =
      tlsSelected env thresholds (some domain) reports := by
  have unchanged : ∀ report ∈ tlsSelected env thresholds (some domain) reports,
      report.restrict env domain = id report := by
    intro report selected
    rcases mem_tlsSelected_iff.mp selected with ⟨rwi, member, rfl, inTime, has⟩
    exact restrict_of_all (separate rwi member inTime has)
  rw [tlsSelected_restrict, List.map_congr_left unchanged, List.map_id]

theorem isolated_of_separate (separate : DomainsSeparate env reports thresholds domain) :
    DomainIsolated env mails files reports lastUpdate nextUpdate thresholds domain := by
  have dmarc : dmarcSelected env thresholds none (reports.restrict env domain) =
      dmarcSelected env thresholds (some domain) reports := dmarcSelected_restrict
  have tls := separate.tlsSelected_eq
  constructor <;> simp only [dmarc_newSince, tls_newSince, dmarc, tls] <;> rfl

/-- A policy for another domain in a selected report is counted by the summary
with filter, but not by that of the restricted reports. -/
theorem separate_of_isolated
    (isolated : DomainIsolated env mails files reports lastUpdate nextUpdate thresholds domain) :
    DomainsSeparate env reports thresholds domain := by
  intro rwi member inTime has p policyMem
  have selected : rwi.report ∈ tlsSelected env thresholds (some domain) reports :=
    mem_tlsSelected_iff.mpr ⟨rwi, member, rfl, inTime, has⟩
  have domains : tally (tlsEvents env (tlsSelected env thresholds (some domain) reports)).domains =
      tally (tlsEvents env
        (tlsSelected env thresholds none (reports.restrict env domain))).domains := by
    have same := isolated.tlsDomains
    rwa [tls_newSince, tls_newSince] at same
  have counted : env.toLowercase p.policy.policyDomain ∈
      tally (tlsEvents env (tlsSelected env thresholds (some domain) reports)).domains := by
    rw [mem_tally]
    simp only [tlsEvents, policyEvents, List.map_map, List.mem_map, List.mem_flatMap]
    exact ⟨p, ⟨rwi.report, selected, policyMem⟩, rfl⟩
  rw [domains, mem_tally, tlsSelected_restrict] at counted
  simp only [tlsEvents, policyEvents, List.map_map, List.mem_map, List.mem_flatMap] at counted
  rcases counted with ⟨other, ⟨_, ⟨report, _, rfl⟩, otherMem⟩, same⟩
  have restricted := (List.mem_filter.mp otherMem).2
  rw [← same]
  simpa using restricted

/-- A domain filter isolates its domain if and only if no report of the time span
mixes policies of the domain with policies of others. -/
theorem domainIsolated_iff (env : Externals) (mails : Nat) (files : Files) (reports : Reports)
    (lastUpdate nextUpdate : UInt64) (thresholds : Thresholds) (domain : String) :
    DomainIsolated env mails files reports lastUpdate nextUpdate thresholds domain ↔
      DomainsSeparate env reports thresholds domain :=
  ⟨separate_of_isolated, isolated_of_separate⟩

def samplePolicyResult (domain : String) : Tls.PolicyResult where
  policy := { policyType := .sts, policyString := none, policyDomain := domain, mxHost := none }
  summary := { totalSuccessfulSessionCount := 7, totalFailureSessionCount := 0 }
  failureDetails := none

/-- One TLS report about two domains. -/
def sampleMixedReports : Reports where
  dmarc := ∅
  tls := (∅ : BTreeMap String TlsReportWithMailId).insert "DshSdlQ4FFmWjFkfdG8kcw"
    { mailId := "80PIQSMHanHfacyq6aXj_A"
      report := { sampleReport "Example" "12" with
        policies := [samplePolicyResult "example.org", samplePolicyResult "example.com"] } }

theorem not_domainIsolated_sample :
    ¬ DomainIsolated sampleEnv 1 { xml := 0, json := 1 } sampleMixedReports 0 0
      { seconds := none, datetime := none } "example.org" := by
  intro isolated
  have separate := separate_of_isolated isolated
  have stored : ∃ rwi ∈ valueList sampleMixedReports.tls, rwi.report.policies =
      [samplePolicyResult "example.org", samplePolicyResult "example.com"] :=
    ⟨_, mem_valueList.mpr ⟨_, Std.ExtTreeMap.getElem?_insert_self⟩, rfl⟩
  rcases stored with ⟨rwi, member, policies⟩
  have same := separate rwi member rfl
  simp only [policies, List.mem_cons, List.not_mem_nil, or_false, exists_eq_or_imp,
    forall_eq_or_imp, exists_eq_left, forall_eq] at same
  exact absurd (same (Or.inl rfl)).2 (by decide +kernel)

end DmarcReportViewer
