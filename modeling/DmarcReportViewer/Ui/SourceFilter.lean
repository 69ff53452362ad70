import DmarcReportViewer.Background.Accounting
import DmarcReportViewer.Http.Sources

/-!
# Filtering the sources

The filters which `ui/components/sources.js` applies to the sources it has loaded.
The domain filter compares with the one domain of each source, so an address that
is used for several domains is shown for the first of them only.
-/

namespace DmarcReportViewer

open Collections

namespace Sources

/-- The parameters of the view, as found in the address of the page. -/
structure Params where
  domain : Option String := none
  issues : Option String := none
  type : Option String := none
deriving DecidableEq

/-- A parameter which is missing or empty is falsy. -/
def truthy (param : Option String) : Option String :=
  param.filter fun text => text ≠ ""

/-- The text which stands for a report type in the JSON of the sources. -/
def typeText : ReportType → String
  | .dmarc => "Dmarc"
  | .tls => "Tls"

/-- The filters of `updateSources`.  The lower-case mapping of the browser is the
one of the server. -/
def filterSources (env : Externals) (params : Params) (sources : List Source) : List Source :=
  let sources :=
    match truthy params.domain with
    | some domain => sources.filter fun s =>
        env.toLowercase s.details.domain = env.toLowercase domain
    | none => sources
  let sources :=
    match truthy params.issues with
    | some _ => sources.filter fun s => s.details.issues.card > 0
    | none => sources
  match truthy params.type with
  | some type => sources.filter fun s => decide (∃ t ∈ s.details.types, typeText t = type)
  | none => sources

/-- The addresses which the view shows for a domain. -/
def shownFor (env : Externals) (order : IterationOrder IpAddr SourceDetails) (state : AppState)
    (domain : String) : List IpAddr :=
  (filterSources env { domain := some domain } (handler order state)).map Source.ip

/-- An address occurs in a DMARC report published for a domain or in a failure of a
TLS policy for it. -/
def OccursFor (env : Externals) (state : AppState) (domain : String) (ip : IpAddr) : Prop :=
  (∃ rwi ∈ valueList state.dmarcReports,
    env.toLowercase rwi.report.policyPublished.domain = env.toLowercase domain ∧
      ∃ record ∈ rwi.report.record, record.row.sourceIp = ip) ∨
  ∃ rwi ∈ valueList state.tlsReports, ∃ p ∈ rwi.report.policies,
    env.toLowercase p.policy.policyDomain = env.toLowercase domain ∧
      ∃ failures ∈ p.failureDetails, ∃ failure ∈ failures, failure.sendingMtaIp = some ip

/-- The view shows exactly the addresses which occur for the domain. -/
def CompleteFor (env : Externals) (order : IterationOrder IpAddr SourceDetails) (state : AppState)
    (domain : String) : Prop :=
  ∀ ip, ip ∈ shownFor env order state domain ↔ OccursFor env state domain ip

/-- Each address which occurs for the domain is found for this domain first, with
the DMARC reports searched before the TLS reports and either kind in the order of
the hashes.  The empty domain selects everything, so there is nothing else then. -/
def FoundFirst (env : Externals) (state : AppState) (domain : String) : Prop :=
  if domain = "" then
    ∀ ip, occurrencesOf state ip ≠ [] → OccursFor env state domain ip
  else
    ∀ ip, OccursFor env state domain ip →
      ∃ first, (occurrencesOf state ip).head? = some first ∧
        env.toLowercase first.domain = env.toLowercase domain

variable {env : Externals} {order : IterationOrder IpAddr SourceDetails} {state : AppState}
variable {domain : String} {ip : IpAddr}

theorem occursFor_iff :
    OccursFor env state domain ip ↔
      ∃ occurrence ∈ occurrencesOf state ip,
        env.toLowercase occurrence.domain = env.toLowercase domain := by
  rw [exists_occurrencesOf]
  simp only [OccursFor, Occurrence.ofRecord, Occurrence.ofFailure, ← exists_mem_getD]
  constructor
  · rintro (⟨rwi, stored, same, record, member, sender⟩ |
      ⟨rwi, stored, p, inReport, same, failure, member, sender⟩)
    · exact Or.inl ⟨rwi, stored, record, member, sender, same⟩
    · exact Or.inr ⟨rwi, stored, p, inReport, failure, member, sender, same⟩
  · rintro (⟨rwi, stored, record, member, sender, same⟩ |
      ⟨rwi, stored, p, inReport, failure, member, sender, same⟩)
    · exact Or.inl ⟨rwi, stored, same, record, member, sender⟩
    · exact Or.inr ⟨rwi, stored, p, inReport, same, failure, member, sender⟩

theorem mem_shownFor_empty : ip ∈ shownFor env order state "" ↔ occurrencesOf state ip ≠ [] := by
  have listed : ip ∈ (handler order state).map Source.ip ↔ occurrencesOf state ip ≠ [] :=
    mem_ips_iff
  exact listed

/-- The view for a domain shows the addresses that are found for it first. -/
theorem mem_shownFor (named : domain ≠ "") :
    ip ∈ shownFor env order state domain ↔
      ∃ first, (occurrencesOf state ip).head? = some first ∧
        env.toLowercase first.domain = env.toLowercase domain := by
  have selected : truthy (some domain) = some domain := by
    simp [truthy, Option.filter, named]
  have unselected : truthy none = none := rfl
  simp only [shownFor, filterSources, selected, unselected, List.mem_map, List.mem_filter,
    decide_eq_true_eq]
  constructor
  · rintro ⟨source, ⟨listed, same⟩, rfl⟩
    rcases Option.map_eq_some_iff.mp (mergedFrom_of_mem listed).domain with ⟨first, found, equal⟩
    exact ⟨first, found, equal ▸ same⟩
  · rintro ⟨first, found, same⟩
    have present : occurrencesOf state ip ≠ [] := by
      intro nothing
      rw [nothing] at found
      cases found
    have shown : ip ∈ (handler order state).map Source.ip := mem_ips_iff.mpr present
    rcases List.mem_map.mp shown with ⟨source, listed, rfl⟩
    have equal := (mergedFrom_of_mem listed).domain
    rw [found, Option.map_some] at equal
    exact ⟨source, ⟨listed, Option.some.inj equal ▸ same⟩, rfl⟩

/-- The view for a domain is complete exactly if no address of the domain has been
found for another domain before. -/
theorem completeFor_iff (env : Externals) (order : IterationOrder IpAddr SourceDetails)
    (state : AppState) (domain : String) :
    CompleteFor env order state domain ↔ FoundFirst env state domain := by
  by_cases named : domain = ""
  · subst named
    simp only [CompleteFor, FoundFirst, mem_shownFor_empty, if_true]
    refine forall_congr' fun ip => ⟨Iff.mp, fun complete => ⟨complete, ?_⟩⟩
    intro occurs
    rcases occursFor_iff.mp occurs with ⟨occurrence, member, _⟩
    exact List.ne_nil_of_mem member
  · simp only [CompleteFor, FoundFirst, mem_shownFor named, if_neg named]
    refine forall_congr' fun ip => ⟨Iff.mpr, fun complete => ⟨?_, complete⟩⟩
    rintro ⟨first, found, same⟩
    exact occursFor_iff.mpr ⟨first, List.mem_of_head? found, same⟩

/-- Two DMARC reports about different domains with mails from the same address. -/
def sampleSharedSender : AppState :=
  { AppState.new 0 with
    dmarcReports := (∅ : BTreeMap String DmarcReportWithMailId).insertMany [
      ("80PIQSMHanHfacyq6aXj_A",
        { mailId := "1", report := Dmarc.sampleReport "example.com" (.v4 3221226219) }),
      ("sfOZPQKuwzuMb9NBo6st9A",
        { mailId := "2", report := Dmarc.sampleReport "example.org" (.v4 3221226219) })] }

theorem not_completeFor_sample :
    ¬ CompleteFor sampleEnv (.byKey IpAddr SourceDetails) sampleSharedSender "example.org" := by
  intro complete
  have hidden : (.v4 3221226219 : IpAddr) ∉
      shownFor sampleEnv (.byKey IpAddr SourceDetails) sampleSharedSender "example.org" := by
    decide +kernel
  apply hidden
  have stored : ({ mailId := "2", report := Dmarc.sampleReport "example.org" (.v4 3221226219) } :
      DmarcReportWithMailId) ∈ valueList sampleSharedSender.dmarcReports :=
    mem_valueList.mpr ⟨"sfOZPQKuwzuMb9NBo6st9A", by decide +kernel⟩
  exact (complete _).mpr (Or.inl ⟨_, stored, rfl, _, List.mem_cons_self, rfl⟩)

end Sources

end DmarcReportViewer
