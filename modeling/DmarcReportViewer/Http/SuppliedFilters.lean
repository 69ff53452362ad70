import DmarcReportViewer.Http.Histograms
import DmarcReportViewer.Http.Metrics
import DmarcReportViewer.Http.Query
import DmarcReportViewer.Lib.Filters

/-!
# Filters which were supplied

Whether the handlers show only what satisfies the filters of a request.  A value which
cannot be decoded, or which is no IP address, disables its filter.
-/

namespace DmarcReportViewer

open Collections Filters

section Meanings

variable (env : Externals)

def DmarcReports.ReportFilters.supplied (filters : ReportFilters) :
    List (ValueFilter DmarcReportWithMailId) :=
  [ { value := filters.org
      meaning := fun value => (env.urlDecode value).map fun org rwi =>
        rwi.report.reportMetadata.orgName = org },
    { value := filters.domain
      meaning := fun value => (env.urlDecode value).map fun domain rwi =>
        env.toLowercase rwi.report.policyPublished.domain = env.toLowercase domain },
    { value := filters.ip
      meaning := fun value => ((env.urlDecode value).bind env.parseIp).map fun ip rwi =>
        ∃ record ∈ rwi.report.record, record.row.sourceIp = ip } ]

def TlsReports.ReportFilters.supplied (filters : ReportFilters) :
    List (ValueFilter TlsReportWithMailId) :=
  [ { value := filters.org
      meaning := fun value => (env.urlDecode value).map fun org rwi =>
        rwi.report.organizationName = org },
    { value := filters.domain
      meaning := fun value => (env.urlDecode value).map fun domain rwi =>
        ∃ p ∈ rwi.report.policies,
          env.toLowercase p.policy.policyDomain = env.toLowercase domain },
    { value := filters.ip
      meaning := fun value => ((env.urlDecode value).bind env.parseIp).map fun ip rwi =>
        ∃ p ∈ rwi.report.policies, ∃ failures ∈ p.failureDetails,
          ∃ f ∈ failures, f.sendingMtaIp = some ip } ]

def Mails.MailFilters.supplied (filters : MailFilters) : List (ValueFilter Mail) :=
  [ { value := filters.sender
      meaning := fun value => (env.urlDecode value).map fun sender m =>
        env.toLowercase m.sender = env.toLowercase sender } ]

/-- The filter of the summary, for the reports of either kind. -/
def SummaryFilters.supplied (filters : SummaryFilters) :
    List (ValueFilter (Dmarc.Report ⊕ Tls.Report)) :=
  [ { value := filters.domain
      meaning := fun value => (env.urlDecode value).map fun domain =>
        Sum.elim
          (fun report => env.toLowercase report.policyPublished.domain = env.toLowercase domain)
          (fun report => ∃ p ∈ report.policies,
            env.toLowercase p.policy.policyDomain = env.toLowercase domain) } ]

end Meanings

section Summaries

/-- The time span of a request.  No hours stand for everything. -/
def SummaryFilters.span (filters : SummaryFilters) : Result (Option Duration) :=
  match filters.timeSpan with
  | some hours =>
      if 0 < hours then do
        let span ← Duration.hours (asI64 hours)
        pure (some span)
      else
        pure none
  | none => pure none

/-- The thresholds which the handler of the summary computes. -/
def SummaryFilters.thresholds (filters : SummaryFilters) (now later : DateTime) :
    Result Thresholds := do
  Summary.thresholds (← filters.span) now later

variable (env : Externals) (state : AppState)

def storedReports : Reports where
  dmarc := state.dmarcReports
  tls := state.tlsReports

/-- The reports which the summary counts for given thresholds. -/
def SummaryFilters.Counted (filters : SummaryFilters) (thresholds : Thresholds) :
    Dmarc.Report ⊕ Tls.Report → Prop
  | .inl report => report ∈ dmarcSelected env thresholds (filters.urlDecode env).domain
      (storedReports state)
  | .inr report => report ∈ tlsSelected env thresholds (filters.urlDecode env).domain
      (storedReports state)

end Summaries

section Endpoints

inductive Endpoint where
  | dmarcReports
  | tlsReports
  | mails
  | summary
deriving DecidableEq

variable (env : Externals) (state : AppState) (query : String) (now later : DateTime)

/-- What an endpoint lists or counts for a request satisfies the supplied filters. -/
def Honours : Endpoint → Prop
  | .dmarcReports => ∀ filters, DmarcReports.ReportFilters.fromQuery env query = some filters →
      ∀ header ∈ DmarcReports.listHandler env state filters,
        ∃ hash rwi, state.dmarcReports[hash]? = some rwi ∧
          DmarcReports.ReportHeader.fromReport hash rwi.report = header ∧
            ∀ filter ∈ filters.supplied env, filter.Satisfied rwi
  | .tlsReports => ∀ filters, TlsReports.ReportFilters.fromQuery env query = some filters →
      ∀ header ∈ TlsReports.listHandler env state filters,
        ∃ hash rwi, state.tlsReports[hash]? = some rwi ∧
          TlsReports.ReportHeader.fromReport hash rwi.report = header ∧
            ∀ filter ∈ filters.supplied env, filter.Satisfied rwi
  | .mails => ∀ filters, Mails.MailFilters.fromQuery env query = some filters →
      ∀ m ∈ Mails.listHandler env state filters,
        ∀ filter ∈ filters.supplied env, filter.Satisfied m
  | .summary => ∀ filters, SummaryFilters.fromQuery env query = some filters →
      ∀ summary, Summary.handler env state filters now later = .ok summary →
        ∃ thresholds, filters.thresholds now later = .ok thresholds ∧
          Summary.newSince env state.mails.size { xml := state.xmlFiles, json := state.jsonFiles }
            (storedReports state) state.lastUpdate state.nextUpdate thresholds
            (filters.urlDecode env).domain = summary ∧
          ∀ report, filters.Counted env state thresholds report →
            ∀ filter ∈ filters.supplied env, filter.Satisfied report

/-- All values of a request can be read, or what can be read excludes everything. -/
def ReadableOrExcluded : Endpoint → Prop
  | .dmarcReports => ∀ filters, DmarcReports.ReportFilters.fromQuery env query = some filters →
      (∀ filter ∈ filters.supplied env, filter.Readable) ∨
        ∀ rwi ∈ valueList state.dmarcReports, ¬ (filters.urlDecode env).Passes env rwi
  | .tlsReports => ∀ filters, TlsReports.ReportFilters.fromQuery env query = some filters →
      (∀ filter ∈ filters.supplied env, filter.Readable) ∨
        ∀ rwi ∈ valueList state.tlsReports, ¬ (filters.urlDecode env).Passes env rwi
  | .mails => ∀ filters, Mails.MailFilters.fromQuery env query = some filters →
      (∀ filter ∈ filters.supplied env, filter.Readable) ∨
        ∀ m ∈ valueList state.mails, ¬ (filters.urlDecode env).Passes env m
  | .summary => ∀ filters, SummaryFilters.fromQuery env query = some filters →
      ∀ thresholds, filters.thresholds now later = .ok thresholds →
        (∀ filter ∈ filters.supplied env, filter.Readable) ∨
          (∀ rwi ∈ valueList state.dmarcReports, ¬ dmarcPasses env thresholds.seconds
            ((filters.urlDecode env).domain.map env.toLowercase) rwi.report) ∧
          (∀ rwi ∈ valueList state.tlsReports, ¬ tlsPasses env thresholds.datetime
            ((filters.urlDecode env).domain.map env.toLowercase) rwi.report)

end Endpoints

section Lists

variable {env : Externals} {state : AppState} {query : String} {now later : DateTime}

/-- The list of DMARC reports applies the filters which can be read. -/
theorem dmarc_applies {filters : DmarcReports.ReportFilters} {rwi : DmarcReportWithMailId}
    (passes : (filters.urlDecode env).Passes env rwi) :
    ∀ filter ∈ filters.supplied env, filter.Applies rwi := by
  intro filter member value supplied property read
  simp only [DmarcReports.ReportFilters.supplied, List.mem_cons, List.not_mem_nil, or_false]
    at member
  rcases member with rfl | rfl | rfl
  · rcases Option.map_eq_some_iff.mp read with ⟨org, decoded, rfl⟩
    exact passes.org org (by simp_all [DmarcReports.ReportFilters.urlDecode])
  · rcases Option.map_eq_some_iff.mp read with ⟨domain, decoded, rfl⟩
    exact passes.domain _ (by simp_all [DmarcReports.ReportFilters.urlDecode])
  · rcases Option.map_eq_some_iff.mp read with ⟨ip, parsed, rfl⟩
    rcases Option.bind_eq_some_iff.mp parsed with ⟨text, decoded, parsed⟩
    exact passes.ip text (by simp_all [DmarcReports.ReportFilters.urlDecode]) ip parsed

theorem honours_dmarcReports :
    Honours env state query now later .dmarcReports ↔
      ReadableOrExcluded env state query now later .dmarcReports := by
  refine forall_congr' fun filters => forall_congr' fun _ => ?_
  have selected := @satisfied_iff DmarcReportWithMailId (filters.supplied env)
    (fun rwi => rwi ∈ valueList state.dmarcReports ∧ (filters.urlDecode env).Passes env rwi)
    fun rwi selected => dmarc_applies selected.2
  simp only [not_and] at selected
  rw [← selected]
  constructor
  · rintro honours rwi ⟨stored, passes⟩
    rcases mem_valueList.mp stored with ⟨hash, found⟩
    rcases honours _ (DmarcReports.mem_listHandler_iff.mpr ⟨hash, rwi, found, passes, rfl⟩) with
      ⟨other, shown, otherFound, same, satisfied⟩
    -- The header shows the key of its report.
    obtain rfl : other = hash := congrArg DmarcReports.ReportHeader.hash same
    rw [found] at otherFound
    cases otherFound
    exact satisfied
  · intro satisfied header listed
    rcases DmarcReports.mem_listHandler_iff.mp listed with ⟨hash, rwi, found, passes, rfl⟩
    exact ⟨hash, rwi, found, rfl, satisfied rwi ⟨mem_valueList.mpr ⟨hash, found⟩, passes⟩⟩

/-- The list of TLS reports applies the filters which can be read. -/
theorem tls_applies {filters : TlsReports.ReportFilters} {rwi : TlsReportWithMailId}
    (passes : (filters.urlDecode env).Passes env rwi) :
    ∀ filter ∈ filters.supplied env, filter.Applies rwi := by
  intro filter member value supplied property read
  simp only [TlsReports.ReportFilters.supplied, List.mem_cons, List.not_mem_nil, or_false]
    at member
  rcases member with rfl | rfl | rfl
  · rcases Option.map_eq_some_iff.mp read with ⟨org, decoded, rfl⟩
    exact passes.org org (by simp_all [TlsReports.ReportFilters.urlDecode])
  · rcases Option.map_eq_some_iff.mp read with ⟨domain, decoded, rfl⟩
    exact passes.domain _ (by simp_all [TlsReports.ReportFilters.urlDecode])
  · rcases Option.map_eq_some_iff.mp read with ⟨ip, parsed, rfl⟩
    rcases Option.bind_eq_some_iff.mp parsed with ⟨text, decoded, parsed⟩
    exact passes.ip text (by simp_all [TlsReports.ReportFilters.urlDecode]) ip parsed

theorem honours_tlsReports :
    Honours env state query now later .tlsReports ↔
      ReadableOrExcluded env state query now later .tlsReports := by
  refine forall_congr' fun filters => forall_congr' fun _ => ?_
  have selected := @satisfied_iff TlsReportWithMailId (filters.supplied env)
    (fun rwi => rwi ∈ valueList state.tlsReports ∧ (filters.urlDecode env).Passes env rwi)
    fun rwi selected => tls_applies selected.2
  simp only [not_and] at selected
  rw [← selected]
  constructor
  · rintro honours rwi ⟨stored, passes⟩
    rcases mem_valueList.mp stored with ⟨hash, found⟩
    rcases honours _ (TlsReports.mem_listHandler_iff.mpr ⟨hash, rwi, found, passes, rfl⟩) with
      ⟨other, shown, otherFound, same, satisfied⟩
    obtain rfl : other = hash := congrArg TlsReports.ReportHeader.hash same
    rw [found] at otherFound
    cases otherFound
    exact satisfied
  · intro satisfied header listed
    rcases TlsReports.mem_listHandler_iff.mp listed with ⟨hash, rwi, found, passes, rfl⟩
    exact ⟨hash, rwi, found, rfl, satisfied rwi ⟨mem_valueList.mpr ⟨hash, found⟩, passes⟩⟩

theorem mails_applies {filters : Mails.MailFilters} {m : Mail}
    (passes : (filters.urlDecode env).Passes env m) :
    ∀ filter ∈ filters.supplied env, filter.Applies m := by
  intro filter member value supplied property read
  rw [List.mem_singleton.mp member] at supplied read
  rcases Option.map_eq_some_iff.mp read with ⟨sender, decoded, rfl⟩
  exact passes.sender _ (by simp_all [Mails.MailFilters.urlDecode])

theorem honours_mails :
    Honours env state query now later .mails ↔
      ReadableOrExcluded env state query now later .mails := by
  refine forall_congr' fun filters => forall_congr' fun _ => ?_
  have selected := @satisfied_iff Mail (filters.supplied env)
    (fun m => m ∈ valueList state.mails ∧ (filters.urlDecode env).Passes env m)
    fun m selected => mails_applies selected.2
  simp only [not_and] at selected
  rw [← selected]
  exact forall_congr' fun m => imp_congr_left Mails.mem_listHandler_iff

end Lists

section Summary

variable {env : Externals} {state : AppState} {query : String} {now later : DateTime}

theorem handler_eq_ok_iff {filters : SummaryFilters} {summary : Summary} :
    Summary.handler env state filters now later = .ok summary ↔
      ∃ thresholds, filters.thresholds now later = .ok thresholds ∧
        Summary.newSince env state.mails.size { xml := state.xmlFiles, json := state.jsonFiles }
          (storedReports state) state.lastUpdate state.nextUpdate thresholds
          (filters.urlDecode env).domain = summary := by
  have handled : Summary.handler env state filters now later = filters.span >>= fun timeSpan =>
      Summary.new env state.mails.size { xml := state.xmlFiles, json := state.jsonFiles }
        (storedReports state) state.lastUpdate state.nextUpdate timeSpan
        (filters.urlDecode env).domain now later := by
    rcases filters with ⟨timeSpan, domain⟩
    cases timeSpan with
    | none => rfl
    | some hours =>
        by_cases positive : 0 < hours
        · simp only [Summary.handler, SummaryFilters.urlDecode, SummaryFilters.span,
            if_pos positive]
          cases Duration.hours (asI64 hours) <;> rfl
        · simp only [Summary.handler, SummaryFilters.urlDecode, SummaryFilters.span,
            if_neg positive]
          rfl
  rw [handled]
  simp only [SummaryFilters.thresholds, Fallible.bind_eq_ok_iff, new_eq_ok_iff]
  constructor
  · rintro ⟨span, computed, thresholds, since, same⟩
    exact ⟨thresholds, ⟨span, computed, since⟩, same⟩
  · rintro ⟨thresholds, ⟨span, computed, since⟩, same⟩
    exact ⟨span, computed, thresholds, since, same⟩

theorem summary_applies {filters : SummaryFilters} {thresholds : Thresholds}
    {report : Dmarc.Report ⊕ Tls.Report} (counted : filters.Counted env state thresholds report) :
    ∀ filter ∈ filters.supplied env, filter.Applies report := by
  intro filter member value supplied property read
  rw [List.mem_singleton.mp member] at supplied read
  rcases Option.map_eq_some_iff.mp read with ⟨domain, decoded, rfl⟩
  have selected : (filters.urlDecode env).domain = some domain := by
    simp_all [SummaryFilters.urlDecode]
  cases report with
  | inl report =>
      have passes := (List.mem_filter.mp counted).2
      simpa [dmarcPasses, selected] using (Bool.and_eq_true_iff.mp passes).2
  | inr report =>
      have passes := (List.mem_filter.mp counted).2
      simpa [tlsPasses, selected] using (Bool.and_eq_true_iff.mp passes).2

/-- Nothing is counted if no stored report passes. -/
theorem not_counted_iff {filters : SummaryFilters} {thresholds : Thresholds} :
    (∀ report, ¬ filters.Counted env state thresholds report) ↔
      (∀ rwi ∈ valueList state.dmarcReports, ¬ dmarcPasses env thresholds.seconds
        ((filters.urlDecode env).domain.map env.toLowercase) rwi.report) ∧
      (∀ rwi ∈ valueList state.tlsReports, ¬ tlsPasses env thresholds.datetime
        ((filters.urlDecode env).domain.map env.toLowercase) rwi.report) := by
  simp only [Sum.forall, SummaryFilters.Counted, dmarcSelected, tlsSelected, storedReports,
    List.mem_filter, List.mem_map, not_and, forall_exists_index, and_imp, forall_apply_eq_imp_iff₂]

theorem honours_summary :
    Honours env state query now later .summary ↔
      ReadableOrExcluded env state query now later .summary := by
  refine forall_congr' fun filters => forall_congr' fun _ => ?_
  have selected := fun thresholds => @satisfied_iff _ (filters.supplied env)
    (filters.Counted env state thresholds) fun report counted => summary_applies counted
  simp only [← not_counted_iff, ← selected]
  constructor
  · intro honours thresholds computed
    rcases honours _ (handler_eq_ok_iff.mpr ⟨thresholds, computed, rfl⟩) with
      ⟨other, otherComputed, _, satisfied⟩
    rw [computed] at otherComputed
    cases otherComputed
    exact satisfied
  · intro satisfied summary handled
    rcases handler_eq_ok_iff.mp handled with ⟨thresholds, computed, same⟩
    exact ⟨thresholds, computed, same, satisfied thresholds computed⟩

end Summary

section Result

/-- An endpoint honours the supplied filters if and only if it can read all their values, or
what it can read excludes everything. -/
theorem honours_iff (env : Externals) (state : AppState) (query : String) (now later : DateTime)
    (endpoint : Endpoint) :
    Honours env state query now later endpoint ↔
      ReadableOrExcluded env state query now later endpoint := by
  cases endpoint with
  | dmarcReports => exact honours_dmarcReports
  | tlsReports => exact honours_tlsReports
  | mails => exact honours_mails
  | summary => exact honours_summary

/-- A text which is no IP address shows all reports. -/
theorem not_honours_sample :
    ¬ Honours decodingEnv Metrics.sampleMixedCase "ip=foo" 0 0 .dmarcReports := by
  intro honours
  have accepted : DmarcReports.ReportFilters.fromQuery decodingEnv "ip=foo" =
      some { ip := some "foo" } :=
    rfl
  have shown : DmarcReports.listHandler decodingEnv Metrics.sampleMixedCase
      { ip := some "foo" } ≠ [] := by
    decide +kernel
  rcases List.exists_mem_of_ne_nil _ shown with ⟨header, listed⟩
  rcases honours _ accepted header listed with ⟨hash, rwi, _, _, satisfied⟩
  have byAddress := satisfied _ (List.mem_cons_of_mem _ (List.mem_cons_of_mem _ List.mem_cons_self))
  rcases byAddress "foo" rfl (by decide) with ⟨property, read, _⟩
  have unread : (decodingEnv.urlDecode "foo").bind decodingEnv.parseIp = none := by
    decide +kernel
  simp only [Option.mem_def, unread, Option.map_none] at read
  cases read

end Result

end DmarcReportViewer
