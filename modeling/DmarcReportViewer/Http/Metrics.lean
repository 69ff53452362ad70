import DmarcReportViewer.Background.Accounting
import DmarcReportViewer.Http.Agreement
import DmarcReportViewer.Lib.Grouping

/-!
# The metrics

The model of `http/metrics.rs`.  The metrics count the reports of each domain like
the summary does, but under the domain as it is written in the report.
-/

namespace DmarcReportViewer

open Collections Histogram

namespace Metrics

def getDmarcPerDomain (state : AppState) : BTreeMap String UInt64 :=
  (valueList state.dmarcReports).foldl (fun result report =>
    Grouping.upsert result report.report.policyPublished.domain 0 fun value => value + 1) ∅

def getTlsPerDomain (state : AppState) : BTreeMap String UInt64 :=
  (valueList state.tlsReports).foldl (fun result report =>
    report.report.policies.foldl (fun result p =>
      Grouping.upsert result p.policy.policyDomain 0 fun value => value + 1) result) ∅

def formatLabeledMetric (data : BTreeMap String UInt64) (metricName labelName : String) : String :=
  data.toList.foldl (fun result entry =>
    result ++ (metricName ++ "\x7b" ++ labelName ++ "=\"" ++ entry.1 ++ "\"\x7d " ++
      toString entry.2 ++ "\n")) ""

/-- The text of the metrics at a time, in seconds since the Unix epoch.  How a
floating-point number is printed is a parameter. -/
def handler (showFloat : Float → String) (now : UInt64) (state : AppState) : String :=
  let uptime := now - state.startTime
  let dmarcDomains := formatLabeledMetric (getDmarcPerDomain state) "dmarc_reports" "domain"
  let tlsDomains := formatLabeledMetric (getTlsPerDomain state) "tls_reports" "domain"
  "mails " ++ toString state.mails.size ++ "\n" ++
    "xml_files " ++ toString state.xmlFiles ++ "\n" ++
    "json_files " ++ toString state.jsonFiles ++ "\n" ++
    "dmarc_reports " ++ toString state.dmarcReports.size ++ "\n" ++
    dmarcDomains ++
    "tls_reports " ++ toString state.tlsReports.size ++ "\n" ++
    tlsDomains ++
    "last_update " ++ toString state.lastUpdate ++ "\n" ++
    "last_update_duration " ++ showFloat state.lastUpdateDuration ++ "\n" ++
    "start_time " ++ toString state.startTime ++ "\n" ++
    "uptime " ++ toString uptime ++ "\n"

section Tallies

def dmarcDomains (state : AppState) : List String :=
  (valueList state.dmarcReports).map fun rwi => rwi.report.policyPublished.domain

def tlsDomains (state : AppState) : List String :=
  (valueList state.tlsReports).flatMap fun rwi =>
    rwi.report.policies.map fun p => p.policy.policyDomain

/-- One event for each domain of a list. -/
def ones (domains : List String) : List (String × UInt64) :=
  domains.map fun domain => (domain, 1)

theorem upsert_eq_bump (histogram : HashMap String UInt64) (key : String) :
    Grouping.upsert histogram key 0 (fun value => value + 1) = bump histogram key 1 := by
  simp only [Grouping.upsert, bump]
  cases histogram[key]? <;> rfl

theorem foldl_upsert (domains : List String) (histogram : HashMap String UInt64) :
    domains.foldl (fun result domain =>
        Grouping.upsert result domain 0 fun value => value + 1) histogram =
      bumpAll histogram (ones domains) := by
  simp only [upsert_eq_bump, bumpAll, ones, List.foldl_map]

theorem getDmarcPerDomain_eq (state : AppState) :
    getDmarcPerDomain state = tally (ones (dmarcDomains state)) := by
  rw [tally, ← foldl_upsert, dmarcDomains, List.foldl_map]
  rfl

theorem getTlsPerDomain_eq (state : AppState) :
    getTlsPerDomain state = tally (ones (tlsDomains state)) := by
  rw [tally, ← foldl_upsert, tlsDomains, List.foldl_flatMap]
  simp only [List.foldl_map]
  rfl

variable (env : Externals) (state : AppState) (now later : DateTime)

/-- The summary of all reports counts the domains in lower case. -/
theorem handler_domains :
    ∃ summary,
      Summary.handler env state { timeSpan := none, domain := none } now later = .ok summary ∧
        summary.dmarc.domains = tally (ones ((dmarcDomains state).map env.toLowercase)) ∧
          summary.tls.domains = tally (ones ((tlsDomains state).map env.toLowercase)) := by
  refine ⟨_, handler_all env state now later, ?_, ?_⟩
  · rw [dmarc_newSince, dmarcSelected_all]
    simp only [dmarcEvents, dmarcDomains, ones, valueList, List.map_map]
    rfl
  · rw [tls_newSince, tlsSelected_all]
    simp only [tlsEvents, policyEvents, tlsDomains, ones, valueList, List.map_flatMap,
      List.flatMap_map, List.map_map]
    rfl

end Tallies

section Agreement

/-- The metrics show the domains of a summary with the same values, and domains that
differ only in letter case are one domain. -/
structure Agree (env : Externals) (state : AppState) (summary : Summary) : Prop where
  dmarc : ∀ domain : String, (getDmarcPerDomain state)[domain]? = summary.dmarc.domains[domain]?
  tls : ∀ domain : String, (getTlsPerDomain state)[domain]? = summary.tls.domains[domain]?
  dmarcCase : ∀ domain ∈ getDmarcPerDomain state, ∀ other ∈ getDmarcPerDomain state,
    env.toLowercase domain = env.toLowercase other → domain = other
  tlsCase : ∀ domain ∈ getTlsPerDomain state, ∀ other ∈ getTlsPerDomain state,
    env.toLowercase domain = env.toLowercase other → domain = other

/-- All domains of the stored reports are written in lower case. -/
structure LowerCase (env : Externals) (state : AppState) : Prop where
  dmarc : ∀ rwi ∈ valueList state.dmarcReports,
    env.toLowercase rwi.report.policyPublished.domain = rwi.report.policyPublished.domain
  tls : ∀ rwi ∈ valueList state.tlsReports, ∀ p ∈ rwi.report.policies,
    env.toLowercase p.policy.policyDomain = p.policy.policyDomain

variable {env : Externals} {state : AppState}

theorem mem_tally_ones {domains : List String} {domain : String} :
    domain ∈ tally (ones domains) ↔ domain ∈ domains := by
  simp [ones]

theorem lowerCase_iff :
    LowerCase env state ↔
      (∀ domain ∈ dmarcDomains state, env.toLowercase domain = domain) ∧
        ∀ domain ∈ tlsDomains state, env.toLowercase domain = domain := by
  simp only [dmarcDomains, tlsDomains, List.mem_flatMap, List.mem_map]
  constructor
  · rintro ⟨dmarc, tls⟩
    refine ⟨?_, ?_⟩
    · rintro _ ⟨rwi, stored, rfl⟩
      exact dmarc rwi stored
    · rintro _ ⟨rwi, stored, p, inReport, rfl⟩
      exact tls rwi stored p inReport
  · rintro ⟨dmarc, tls⟩
    refine ⟨fun rwi stored => dmarc _ ⟨rwi, stored, rfl⟩, ?_⟩
    intro rwi stored p inReport
    exact tls _ ⟨rwi, stored, p, inReport, rfl⟩

/-- Counting domains as they are written and in lower case shows the same domains
only if all of them are in lower case. -/
theorem lower_of_same_keys
    (idempotent : ∀ text, env.toLowercase (env.toLowercase text) = env.toLowercase text)
    {domains : List String}
    (same : ∀ domain : String, (tally (ones domains))[domain]? =
      (tally (ones (domains.map env.toLowercase)))[domain]?) {domain : String}
    (member : domain ∈ domains) : env.toLowercase domain = domain := by
  have shown : domain ∈ tally (ones (domains.map env.toLowercase)) := by
    rw [Std.ExtTreeMap.mem_iff_isSome_getElem?, ← same, ← Std.ExtTreeMap.mem_iff_isSome_getElem?]
    exact mem_tally_ones.mpr member
  rcases List.mem_map.mp (mem_tally_ones.mp shown) with ⟨other, _, rfl⟩
  exact idempotent other

theorem map_toLowercase_of_lower {domains : List String}
    (lower : ∀ domain ∈ domains, env.toLowercase domain = domain) :
    domains.map env.toLowercase = domains := by
  conv_rhs => rw [← List.map_id domains]
  exact List.map_congr_left lower

/-- The metrics agree with the summary of all reports exactly if all domains are
written in lower case. -/
theorem agree_iff
    (idempotent : ∀ text, env.toLowercase (env.toLowercase text) = env.toLowercase text)
    (state : AppState) (now later : DateTime) :
    ∃ summary,
      Summary.handler env state { timeSpan := none, domain := none } now later = .ok summary ∧
        (Agree env state summary ↔ LowerCase env state) := by
  rcases handler_domains env state now later with ⟨summary, shown, dmarc, tls⟩
  refine ⟨summary, shown, ?_⟩
  rw [lowerCase_iff]
  constructor
  · intro agree
    have sameDmarc := agree.dmarc
    have sameTls := agree.tls
    rw [getDmarcPerDomain_eq, dmarc] at sameDmarc
    rw [getTlsPerDomain_eq, tls] at sameTls
    exact ⟨fun domain => lower_of_same_keys idempotent sameDmarc,
      fun domain => lower_of_same_keys idempotent sameTls⟩
  · rintro ⟨lowerDmarc, lowerTls⟩
    constructor
    case dmarc =>
      intro domain
      rw [getDmarcPerDomain_eq, dmarc, map_toLowercase_of_lower lowerDmarc]
    case tls =>
      intro domain
      rw [getTlsPerDomain_eq, tls, map_toLowercase_of_lower lowerTls]
    case dmarcCase =>
      intro domain listed other otherListed same
      rw [getDmarcPerDomain_eq, mem_tally_ones] at listed otherListed
      rw [← lowerDmarc domain listed, ← lowerDmarc other otherListed, same]
    case tlsCase =>
      intro domain listed other otherListed same
      rw [getTlsPerDomain_eq, mem_tally_ones] at listed otherListed
      rw [← lowerTls domain listed, ← lowerTls other otherListed, same]

theorem toLower_toLower (c : Char) : c.toLower.toLower = c.toLower := by
  unfold Char.toLower
  split
  · next upper =>
      rw [dif_neg]
      rintro ⟨_, small⟩
      have lower := upper.1
      have bound := upper.2
      simp only [UInt32.le_iff_toNat_le, UInt32.toNat_add] at *
      simp at *
      omega
  · rfl

theorem sampleEnv_toLowercase_idempotent (text : String) :
    sampleEnv.toLowercase (sampleEnv.toLowercase text) = sampleEnv.toLowercase text := by
  simp only [sampleEnv, String.map_map]
  congr 1
  funext c
  exact toLower_toLower c

/-- Reports for a domain which is written in two ways. -/
def sampleMixedCase : AppState :=
  { AppState.new 0 with
    dmarcReports := (∅ : BTreeMap String DmarcReportWithMailId).insertMany [
      ("80PIQSMHanHfacyq6aXj_A",
        { mailId := "1", report := Dmarc.sampleReport "Example.org" (.v4 3221226219) }),
      ("sfOZPQKuwzuMb9NBo6st9A",
        { mailId := "2", report := Dmarc.sampleReport "example.org" (.v4 3221226219) })] }

theorem agree_iff_sample :
    ∃ summary,
      Summary.handler sampleEnv sampleMixedCase { timeSpan := none, domain := none } 0 0 =
          .ok summary ∧
        (Agree sampleEnv sampleMixedCase summary ↔ LowerCase sampleEnv sampleMixedCase) :=
  agree_iff sampleEnv_toLowercase_idempotent sampleMixedCase 0 0

theorem not_agree_sample :
    ¬ ∃ summary,
      Summary.handler sampleEnv sampleMixedCase { timeSpan := none, domain := none } 0 0 =
          .ok summary ∧
        Agree sampleEnv sampleMixedCase summary := by
  rintro ⟨summary, shown, agree⟩
  rw [handler_all] at shown
  cases shown
  exact absurd (agree.dmarc "Example.org") (by decide +kernel)

end Agreement

end Metrics

end DmarcReportViewer
