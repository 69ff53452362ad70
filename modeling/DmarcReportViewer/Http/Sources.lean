import DmarcReportViewer.Http.DmarcReports
import DmarcReportViewer.Http.TlsReports
import DmarcReportViewer.Lib.Grouping
import DmarcReportViewer.Lib.Histogram
import Mathlib.Data.Finset.Lattice.Fold

/-!
# The sources of mails

The model of `http/sources.rs`.  The records of all DMARC reports and the failures
of all SMTP TLS reports are grouped by IP address.  A source takes its domain from
the first record or failure with its address.
-/

namespace DmarcReportViewer

open Collections

inductive Issue where
  -- DMARC
  | spfPolicy
  | dkimPolicy
  | spfAuth
  | dkimAuth
  -- TLS
  | starttlsNotSupported
  | certificateHostMismatch
  | certificateExpired
  | certificateNotTrusted
  | validationFailure
  | tlsaInvalid
  | dnssecInvalid
  | daneRequired
  | stsPolicyFetchError
  | stsPolicyInvalid
  | stsWebpkiInvalid
deriving DecidableEq

inductive ReportType where
  | dmarc
  | tls
deriving DecidableEq

structure SourceDetails where
  count : UInt64
  domain : String
  issues : Finset Issue
  types : Finset ReportType
deriving DecidableEq

structure Source where
  ip : IpAddr
  details : SourceDetails
deriving DecidableEq

namespace Sources

/-- The details of an address which has just been found in a report. -/
def newDetails (domain : String) : SourceDetails where
  count := 0
  domain := domain
  issues := ∅
  types := ∅

def detectDmarcIssues (record : Dmarc.RecordType) (issues : Finset Issue) : Finset Issue :=
  let issues :=
    if record.row.policyEvaluated.dkim.any fun dkim => dkim ≠ .pass then insert .dkimPolicy issues
    else issues
  let issues :=
    if record.row.policyEvaluated.spf.any fun spf => spf ≠ .pass then insert .spfPolicy issues
    else issues
  let issues :=
    if record.authResults.dkim.any fun dkim => dkim.any fun x => x.result ≠ .pass then
      insert .dkimAuth issues
    else issues
  if record.authResults.spf.any fun x => x.result ≠ .pass then insert .spfAuth issues else issues

def issueOf : Tls.FailureResultType → Issue
  | .starttlsNotSupported => .starttlsNotSupported
  | .certificateHostMismatch => .certificateHostMismatch
  | .certificateExpired => .certificateExpired
  | .certificateNotTrusted => .certificateNotTrusted
  | .validationFailure => .validationFailure
  | .tlsaInvalid => .tlsaInvalid
  | .dnssecInvalid => .dnssecInvalid
  | .daneRequired => .daneRequired
  | .stsPolicyFetchError => .stsPolicyFetchError
  | .stsPolicyInvalid => .stsPolicyInvalid
  | .stsWebpkiInvalid => .stsWebpkiInvalid

/-- The body of the loop over the records of a DMARC report. -/
def addRecord (report : Dmarc.Report) (ipMap : HashMap IpAddr SourceDetails)
    (record : Dmarc.RecordType) : HashMap IpAddr SourceDetails :=
  Grouping.upsert ipMap record.row.sourceIp (newDetails report.policyPublished.domain)
    fun details =>
      { details with
        count := details.count + record.row.count
        issues := detectDmarcIssues record details.issues
        types := insert .dmarc details.types }

/-- The body of the loop over the failures of a TLS policy.  A failure without an
address is skipped. -/
def addFailure (policy : Tls.PolicyResult) (ipMap : HashMap IpAddr SourceDetails)
    (failure : Tls.FailureDetails) : HashMap IpAddr SourceDetails :=
  match failure.sendingMtaIp with
  | none => ipMap
  | some ip =>
      Grouping.upsert ipMap ip (newDetails policy.policy.policyDomain) fun details =>
        { details with
          count := details.count + failure.failedSessionCount
          issues := insert (issueOf failure.resultType) details.issues
          types := insert .tls details.types }

/-- The body of the loop over the policies of a TLS report. -/
def addPolicy (ipMap : HashMap IpAddr SourceDetails) (policy : Tls.PolicyResult) :
    HashMap IpAddr SourceDetails :=
  match policy.failureDetails with
  | none => ipMap
  | some failures => failures.foldl (addFailure policy) ipMap

def ipMap (state : AppState) : HashMap IpAddr SourceDetails :=
  let ipMap := (valueList state.dmarcReports).foldl (fun ipMap report =>
    report.report.record.foldl (addRecord report.report) ipMap) ∅
  (valueList state.tlsReports).foldl (fun ipMap report =>
    report.report.policies.foldl addPolicy ipMap) ipMap

/-- The list of sources, the most frequent ones first. -/
def handler (order : IterationOrder IpAddr SourceDetails) (state : AppState) : List Source :=
  ((iterate order (ipMap state)).map fun entry => { ip := entry.1, details := entry.2 }).mergeSort
    fun first second => second.details.count ≤ first.details.count

section Occurrences

/-- What a record or a failure adds to the source of its address. -/
structure Occurrence where
  ip : IpAddr
  domain : String
  count : UInt64
  issues : Finset Issue
  reportType : ReportType

namespace Occurrence

def start (occurrence : Occurrence) : SourceDetails :=
  newDetails occurrence.domain

def update (occurrence : Occurrence) (details : SourceDetails) : SourceDetails :=
  { details with
    count := details.count + occurrence.count
    issues := details.issues ∪ occurrence.issues
    types := insert occurrence.reportType details.types }

def ofRecord (report : Dmarc.Report) (record : Dmarc.RecordType) : Occurrence where
  ip := record.row.sourceIp
  domain := report.policyPublished.domain
  count := record.row.count
  issues := detectDmarcIssues record ∅
  reportType := .dmarc

def ofFailure (policy : Tls.PolicyResult) (failure : Tls.FailureDetails) (ip : IpAddr) :
    Occurrence where
  ip := ip
  domain := policy.policy.policyDomain
  count := failure.failedSessionCount
  issues := {issueOf failure.resultType}
  reportType := .tls

end Occurrence

def dmarcOccurrences (state : AppState) : List Occurrence :=
  (valueList state.dmarcReports).flatMap fun rwi =>
    rwi.report.record.map (Occurrence.ofRecord rwi.report)

/-- The failures of a policy which name an address. -/
def policyOccurrences (policy : Tls.PolicyResult) : List Occurrence :=
  (policy.failureDetails.getD []).filterMap fun failure =>
    failure.sendingMtaIp.map (Occurrence.ofFailure policy failure)

def tlsOccurrences (state : AppState) : List Occurrence :=
  (valueList state.tlsReports).flatMap fun rwi => rwi.report.policies.flatMap policyOccurrences

/-- All occurrences of addresses, in the order in which the handler visits them. -/
def occurrences (state : AppState) : List Occurrence :=
  dmarcOccurrences state ++ tlsOccurrences state

def addOccurrence (ipMap : HashMap IpAddr SourceDetails) (occurrence : Occurrence) :
    HashMap IpAddr SourceDetails :=
  Grouping.upsert ipMap occurrence.ip occurrence.start occurrence.update

theorem detectDmarcIssues_eq (record : Dmarc.RecordType) (issues : Finset Issue) :
    detectDmarcIssues record issues = issues ∪ detectDmarcIssues record ∅ := by
  ext issue
  simp only [detectDmarcIssues]
  split_ifs <;> simp only [Finset.mem_union, Finset.mem_insert, Finset.notMem_empty] <;> tauto

theorem addRecord_eq (report : Dmarc.Report) (ipMap : HashMap IpAddr SourceDetails)
    (record : Dmarc.RecordType) :
    addRecord report ipMap record = addOccurrence ipMap (Occurrence.ofRecord report record) := by
  simp only [addRecord, addOccurrence]
  congr 1
  funext details
  simp only [Occurrence.update, Occurrence.ofRecord, ← detectDmarcIssues_eq]

theorem addFailure_of_ip (policy : Tls.PolicyResult) (ipMap : HashMap IpAddr SourceDetails)
    {failure : Tls.FailureDetails} {ip : IpAddr} (sender : failure.sendingMtaIp = some ip) :
    addFailure policy ipMap failure =
      addOccurrence ipMap (Occurrence.ofFailure policy failure ip) := by
  simp only [addFailure, sender]
  simp only [addOccurrence]
  congr 1
  funext details
  simp only [Occurrence.update, Occurrence.ofFailure, Finset.insert_eq, Finset.union_comm]

theorem addPolicy_eq (ipMap : HashMap IpAddr SourceDetails) (policy : Tls.PolicyResult) :
    addPolicy ipMap policy = (policyOccurrences policy).foldl addOccurrence ipMap := by
  simp only [addPolicy, policyOccurrences]
  cases policy.failureDetails with
  | none => rfl
  | some failures =>
      simp only [Option.getD_some]
      induction failures generalizing ipMap with
      | nil => rfl
      | cons failure failures ih =>
          rw [List.foldl_cons, ih]
          cases sender : failure.sendingMtaIp with
          | none => simp only [addFailure, sender, Option.map_none, List.filterMap_cons]
          | some ip =>
              simp only [addFailure_of_ip policy ipMap sender, sender, Option.map_some,
                List.filterMap_cons, List.foldl_cons]

/-- The loops of the handler visit the occurrences. -/
theorem ipMap_eq (state : AppState) :
    ipMap state =
      Grouping.group Occurrence.ip Occurrence.start Occurrence.update (occurrences state) := by
  have visited : ipMap state = (occurrences state).foldl addOccurrence ∅ := by
    simp only [ipMap, occurrences, dmarcOccurrences, tlsOccurrences, List.foldl_append,
      List.foldl_flatMap, List.foldl_map, ← addRecord_eq, ← addPolicy_eq]
  rw [visited]
  rfl

/-- The handler lists the entries of the map. -/
theorem mem_handler {order : IterationOrder IpAddr SourceDetails} {state : AppState}
    {source : Source} :
    source ∈ handler order state ↔ (ipMap state)[source.ip]? = some source.details := by
  rw [handler, List.mem_mergeSort, List.mem_map, ← Std.ExtTreeMap.mem_toList_iff_getElem?_eq_some]
  constructor
  · rintro ⟨entry, listed, rfl⟩
    exact (iterate_perm order _).mem_iff.mp listed
  · intro listed
    exact ⟨_, (iterate_perm order _).mem_iff.mpr listed, rfl⟩

theorem nodup_ips_handler {order : IterationOrder IpAddr SourceDetails} {state : AppState} :
    ((handler order state).map Source.ip).Nodup := by
  have perm : ((handler order state).map Source.ip).Perm ((ipMap state).toList.map Prod.fst) := by
    have sorted := (List.mergeSort_perm ((iterate order (ipMap state)).map fun entry =>
      ({ ip := entry.1, details := entry.2 } : Source))
        fun first second => second.details.count ≤ first.details.count).map Source.ip
    rw [List.map_map] at sorted
    exact sorted.trans ((iterate_perm order (ipMap state)).map _)
  exact perm.nodup_iff.mpr (nodup_keys_toList _)

theorem pairwise_handler {order : IterationOrder IpAddr SourceDetails} {state : AppState} :
    (handler order state).Pairwise fun first second =>
      second.details.count ≤ first.details.count := by
  have sorted := @List.pairwise_mergeSort Source
    (fun first second => decide (second.details.count ≤ first.details.count)) ?_ ?_
    ((iterate order (ipMap state)).map fun entry => { ip := entry.1, details := entry.2 })
  · exact sorted.imp fun ordered => of_decide_eq_true ordered
  · intro first second third ordered next
    exact decide_eq_true (UInt64.le_trans (of_decide_eq_true next) (of_decide_eq_true ordered))
  · intro first second
    rw [Bool.or_eq_true, decide_eq_true_eq, decide_eq_true_eq]
    exact UInt64.le_total _ _

/-- The occurrences of an address, in the order in which the handler visits them. -/
def occurrencesOf (state : AppState) (ip : IpAddr) : List Occurrence :=
  (occurrences state).filter fun occurrence => occurrence.ip = ip

theorem getElem?_ipMap (state : AppState) (ip : IpAddr) :
    (ipMap state)[ip]? =
      Grouping.merged Occurrence.start Occurrence.update (occurrencesOf state ip) := by
  rw [ipMap_eq, Grouping.getElem?_group, occurrencesOf]

theorem mem_ips_iff {order : IterationOrder IpAddr SourceDetails} {state : AppState}
    {ip : IpAddr} :
    ip ∈ (handler order state).map Source.ip ↔ occurrencesOf state ip ≠ [] := by
  rw [List.mem_map, ne_eq, ← Grouping.merged_eq_none_iff Occurrence.start Occurrence.update,
    ← getElem?_ipMap]
  constructor
  · rintro ⟨source, listed, rfl⟩
    rw [mem_handler.mp listed]
    exact Option.some_ne_none _
  · intro present
    rcases Option.ne_none_iff_exists'.mp present with ⟨details, found⟩
    exact ⟨{ ip := ip, details := details }, mem_handler.mpr found, rfl⟩

section Merging

variable (items : List Occurrence) (details : SourceDetails)

def after : SourceDetails :=
  items.foldl (fun details occurrence => occurrence.update details) details

theorem after_count : (after items details).count = details.count + (items.map (·.count)).sum := by
  induction items generalizing details with
  | nil => simp [after]
  | cons occurrence items ih =>
      rw [after, List.foldl_cons, ← after, ih, List.map_cons, List.sum_cons, ← add_assoc]
      rfl

theorem after_domain : (after items details).domain = details.domain := by
  induction items generalizing details with
  | nil => rfl
  | cons occurrence items ih => exact ih (occurrence.update details)

theorem mem_after_issues {issue : Issue} :
    issue ∈ (after items details).issues ↔
      issue ∈ details.issues ∨ ∃ occurrence ∈ items, issue ∈ occurrence.issues := by
  induction items generalizing details with
  | nil => simp [after]
  | cons occurrence items ih =>
      rw [after, List.foldl_cons, ← after, ih, Occurrence.update, Finset.mem_union,
        List.exists_mem_cons_iff, or_assoc]

theorem mem_after_types {reportType : ReportType} :
    reportType ∈ (after items details).types ↔
      reportType ∈ details.types ∨ ∃ occurrence ∈ items, occurrence.reportType = reportType := by
  induction items generalizing details with
  | nil => simp [after]
  | cons occurrence items ih =>
      rw [after, List.foldl_cons, ← after, ih, Occurrence.update, Finset.mem_insert,
        List.exists_mem_cons_iff, eq_comm, or_comm (a := occurrence.reportType = reportType),
        or_assoc]

end Merging

/-- What a source shows, in terms of the occurrences of its address. -/
structure MergedFrom (items : List Occurrence) (details : SourceDetails) : Prop where
  count : details.count = (items.map (·.count)).sum
  domain : items.head?.map (·.domain) = some details.domain
  issues : ∀ issue, issue ∈ details.issues ↔ ∃ occurrence ∈ items, issue ∈ occurrence.issues
  types : ∀ reportType, reportType ∈ details.types ↔
    ∃ occurrence ∈ items, occurrence.reportType = reportType

theorem mergedFrom_of_mem {order : IterationOrder IpAddr SourceDetails} {state : AppState}
    {source : Source} (listed : source ∈ handler order state) :
    MergedFrom (occurrencesOf state source.ip) source.details := by
  have found := mem_handler.mp listed
  rw [getElem?_ipMap] at found
  cases visited : occurrencesOf state source.ip with
  | nil =>
      rw [visited] at found
      cases found
  | cons first rest =>
      rw [visited] at found
      have result : after (first :: rest) first.start = source.details := Option.some.inj found
      rw [← result]
      constructor
      case count => rw [after_count, Occurrence.start, newDetails, zero_add]
      case domain => rw [after_domain]; rfl
      case issues =>
        intro issue
        rw [mem_after_issues, Occurrence.start, newDetails]
        simp only [Finset.notMem_empty, false_or]
      case types =>
        intro reportType
        rw [mem_after_types, Occurrence.start, newDetails]
        simp only [Finset.notMem_empty, false_or]

end Occurrences

section Reference

def records (state : AppState) : List Dmarc.RecordType :=
  (valueList state.dmarcReports).flatMap fun rwi => rwi.report.record

def failures (state : AppState) : List Tls.FailureDetails :=
  (valueList state.tlsReports).flatMap fun rwi =>
    rwi.report.policies.flatMap fun p => p.failureDetails.getD []

/-- A DMARC record has an issue. -/
def HasIssue (record : Dmarc.RecordType) : Issue → Prop
  | .dkimPolicy => ∃ dkim ∈ record.row.policyEvaluated.dkim, dkim ≠ .pass
  | .spfPolicy => ∃ spf ∈ record.row.policyEvaluated.spf, spf ≠ .pass
  | .dkimAuth => ∃ dkim ∈ record.authResults.dkim, ∃ x ∈ dkim, x.result ≠ .pass
  | .spfAuth => ∃ x ∈ record.authResults.spf, x.result ≠ .pass
  | _ => False

/-- The sources are the records and failures of the stored reports, grouped by IP
address, and their types agree with the lists of reports. -/
structure Reference (env : Externals) (state : AppState) (sources : List Source) : Prop where
  distinct : (sources.map Source.ip).Nodup
  occurs : ∀ ip, ip ∈ sources.map Source.ip ↔
    (∃ record ∈ records state, record.row.sourceIp = ip) ∨
      ∃ failure ∈ failures state, failure.sendingMtaIp = some ip
  count : ∀ source ∈ sources, source.details.count.toNat =
    ((((records state).filter fun record => record.row.sourceIp = source.ip).map fun record =>
        record.row.count.toNat).sum +
      (((failures state).filter fun failure => failure.sendingMtaIp = some source.ip).map
        fun failure => failure.failedSessionCount.toNat).sum) % 2 ^ 64
  issues : ∀ source ∈ sources, ∀ issue, issue ∈ source.details.issues ↔
    (∃ record ∈ records state, record.row.sourceIp = source.ip ∧ HasIssue record issue) ∨
      ∃ failure ∈ failures state,
        failure.sendingMtaIp = some source.ip ∧ issueOf failure.resultType = issue
  dmarc : ∀ source ∈ sources, ∀ encoded text,
    env.urlDecode encoded = some text → env.parseIp text = some source.ip →
      (.dmarc ∈ source.details.types ↔
        DmarcReports.listHandler env state { ip := some encoded } ≠ [])
  tls : ∀ source ∈ sources, ∀ encoded text,
    env.urlDecode encoded = some text → env.parseIp text = some source.ip →
      (.tls ∈ source.details.types ↔
        TlsReports.listHandler env state { ip := some encoded } ≠ [])
  sorted : sources.Pairwise fun first second => second.details.count ≤ first.details.count

variable {state : AppState}

theorem mem_ite_insert {condition : Prop} [Decidable condition] {issues : Finset Issue}
    {found issue : Issue} :
    issue ∈ (if condition then insert found issues else issues) ↔
      (condition ∧ issue = found) ∨ issue ∈ issues := by
  split_ifs with holds <;> simp [holds]

theorem mem_detectDmarcIssues {record : Dmarc.RecordType} {issue : Issue} :
    issue ∈ detectDmarcIssues record ∅ ↔ HasIssue record issue := by
  simp only [detectDmarcIssues, mem_ite_insert]
  cases issue <;> simp [HasIssue, Option.any_eq_true]

theorem exists_dmarcOccurrences {holds : Occurrence → Prop} :
    (∃ occurrence ∈ dmarcOccurrences state, holds occurrence) ↔
      ∃ rwi ∈ valueList state.dmarcReports, ∃ record ∈ rwi.report.record,
        holds (Occurrence.ofRecord rwi.report record) := by
  simp only [dmarcOccurrences, List.mem_flatMap, List.mem_map]
  constructor
  · rintro ⟨_, ⟨rwi, stored, record, member, rfl⟩, held⟩
    exact ⟨rwi, stored, record, member, held⟩
  · rintro ⟨rwi, stored, record, member, held⟩
    exact ⟨_, ⟨rwi, stored, record, member, rfl⟩, held⟩

theorem exists_tlsOccurrences {holds : Occurrence → Prop} :
    (∃ occurrence ∈ tlsOccurrences state, holds occurrence) ↔
      ∃ rwi ∈ valueList state.tlsReports, ∃ p ∈ rwi.report.policies,
        ∃ failure ∈ p.failureDetails.getD [], ∃ ip, failure.sendingMtaIp = some ip ∧
          holds (Occurrence.ofFailure p failure ip) := by
  simp only [tlsOccurrences, policyOccurrences, List.mem_flatMap, List.mem_filterMap,
    Option.map_eq_some_iff]
  constructor
  · rintro ⟨_, ⟨rwi, stored, p, inReport, failure, member, ip, sender, rfl⟩, held⟩
    exact ⟨rwi, stored, p, inReport, failure, member, ip, sender, held⟩
  · rintro ⟨rwi, stored, p, inReport, failure, member, ip, sender, held⟩
    exact ⟨_, ⟨rwi, stored, p, inReport, failure, member, ip, sender, rfl⟩, held⟩

theorem exists_records {holds : Dmarc.RecordType → Prop} :
    (∃ record ∈ records state, holds record) ↔
      ∃ rwi ∈ valueList state.dmarcReports, ∃ record ∈ rwi.report.record, holds record := by
  simp only [records, List.mem_flatMap]
  constructor
  · rintro ⟨record, ⟨rwi, stored, member⟩, held⟩
    exact ⟨rwi, stored, record, member, held⟩
  · rintro ⟨rwi, stored, record, member, held⟩
    exact ⟨record, ⟨rwi, stored, member⟩, held⟩

theorem exists_failures {holds : Tls.FailureDetails → Prop} :
    (∃ failure ∈ failures state, holds failure) ↔
      ∃ rwi ∈ valueList state.tlsReports, ∃ p ∈ rwi.report.policies,
        ∃ failure ∈ p.failureDetails.getD [], holds failure := by
  simp only [failures, List.mem_flatMap]
  constructor
  · rintro ⟨failure, ⟨rwi, stored, p, inReport, member⟩, held⟩
    exact ⟨rwi, stored, p, inReport, failure, member, held⟩
  · rintro ⟨rwi, stored, p, inReport, failure, member, held⟩
    exact ⟨failure, ⟨rwi, stored, p, inReport, member⟩, held⟩

/-- An occurrence of an address is a record or a failure with this address. -/
theorem exists_occurrencesOf {ip : IpAddr} {holds : Occurrence → Prop} :
    (∃ occurrence ∈ occurrencesOf state ip, holds occurrence) ↔
      (∃ rwi ∈ valueList state.dmarcReports, ∃ record ∈ rwi.report.record,
        record.row.sourceIp = ip ∧ holds (Occurrence.ofRecord rwi.report record)) ∨
      ∃ rwi ∈ valueList state.tlsReports, ∃ p ∈ rwi.report.policies,
        ∃ failure ∈ p.failureDetails.getD [], failure.sendingMtaIp = some ip ∧
          holds (Occurrence.ofFailure p failure ip) := by
  have split : (∃ occurrence ∈ occurrencesOf state ip, holds occurrence) ↔
      (∃ occurrence ∈ dmarcOccurrences state, occurrence.ip = ip ∧ holds occurrence) ∨
        ∃ occurrence ∈ tlsOccurrences state, occurrence.ip = ip ∧ holds occurrence := by
    simp only [occurrencesOf, occurrences, List.mem_filter, List.mem_append, decide_eq_true_eq,
      and_assoc, or_and_right, exists_or]
  rw [split, exists_dmarcOccurrences, exists_tlsOccurrences]
  refine or_congr Iff.rfl ?_
  constructor
  · rintro ⟨rwi, stored, p, inReport, failure, member, _, sender, rfl, held⟩
    exact ⟨rwi, stored, p, inReport, failure, member, sender, held⟩
  · rintro ⟨rwi, stored, p, inReport, failure, member, sender, held⟩
    exact ⟨rwi, stored, p, inReport, failure, member, ip, sender, rfl, held⟩

theorem exists_mem_getD {α : Type} {items : Option (List α)} {holds : α → Prop} :
    (∃ item ∈ items.getD [], holds item) ↔ ∃ list ∈ items, ∃ item ∈ list, holds item := by
  cases items <;> simp

theorem counts_policyOccurrences (p : Tls.PolicyResult) (ip : IpAddr) :
    ((policyOccurrences p).filter fun occurrence => occurrence.ip = ip).map (·.count) =
      ((p.failureDetails.getD []).filter fun failure => failure.sendingMtaIp = some ip).map
        (·.failedSessionCount) := by
  rw [policyOccurrences]
  induction p.failureDetails.getD [] with
  | nil => rfl
  | cons failure failures ih =>
      cases sender : failure.sendingMtaIp with
      | none => simp [sender, ih]
      | some other =>
          by_cases same : other = ip
          · simp [sender, same, Occurrence.ofFailure, ih]
          · simp [sender, same, Occurrence.ofFailure, ih]

/-- The counts that are added to a source are those of its records and failures. -/
theorem counts_occurrencesOf (ip : IpAddr) :
    (occurrencesOf state ip).map (·.count) =
      ((records state).filter fun record => record.row.sourceIp = ip).map (·.row.count) ++
        ((failures state).filter fun failure => failure.sendingMtaIp = some ip).map
          (·.failedSessionCount) := by
  have dmarc : ((dmarcOccurrences state).filter fun occurrence => occurrence.ip = ip).map
      (·.count) =
      ((records state).filter fun record => record.row.sourceIp = ip).map (·.row.count) := by
    simp only [dmarcOccurrences, records, List.filter_flatMap, List.map_flatMap, List.filter_map,
      List.map_map]
    rfl
  have tls : ((tlsOccurrences state).filter fun occurrence => occurrence.ip = ip).map (·.count) =
      ((failures state).filter fun failure => failure.sendingMtaIp = some ip).map
        (·.failedSessionCount) := by
    simp only [tlsOccurrences, failures, List.filter_flatMap, List.map_flatMap,
      counts_policyOccurrences]
  rw [occurrencesOf, occurrences, List.filter_append, List.map_append, dmarc, tls]

theorem sum_count_occurrencesOf (ip : IpAddr) :
    ((occurrencesOf state ip).map (·.count)).sum =
      (((records state).filter fun record => record.row.sourceIp = ip).map (·.row.count)).sum +
        (((failures state).filter fun failure => failure.sendingMtaIp = some ip).map
          (·.failedSessionCount)).sum := by
  rw [counts_occurrencesOf, List.sum_append]

theorem dmarc_listHandler_ip {env : Externals} {encoded text : String} {ip : IpAddr}
    (decoded : env.urlDecode encoded = some text) (parsed : env.parseIp text = some ip) :
    DmarcReports.listHandler env state { ip := some encoded } ≠ [] ↔
      ∃ record ∈ records state, record.row.sourceIp = ip := by
  rw [DmarcReports.listHandler_ip decoded parsed, exists_records, exists_mem_valueList, ne_eq,
    List.map_eq_nil_iff, List.filter_eq_nil_iff]
  simp only [List.any_eq_true, decide_eq_true_eq, not_forall, not_not, exists_prop]

theorem tls_listHandler_ip {env : Externals} {encoded text : String} {ip : IpAddr}
    (decoded : env.urlDecode encoded = some text) (parsed : env.parseIp text = some ip) :
    TlsReports.listHandler env state { ip := some encoded } ≠ [] ↔
      ∃ failure ∈ failures state, failure.sendingMtaIp = some ip := by
  rw [TlsReports.listHandler_ip decoded parsed, exists_failures, exists_mem_valueList, ne_eq,
    List.map_eq_nil_iff, List.filter_eq_nil_iff]
  simp only [List.any_eq_true, TlsReports.sentFrom_iff, not_forall, not_not, exists_prop,
    exists_mem_getD]

end Reference

/-- The sources view equals its reference and agrees with the lists of reports. -/
theorem handler_reference (env : Externals) (state : AppState)
    (order : IterationOrder IpAddr SourceDetails) :
    Reference env state (handler order state) := by
  constructor
  case distinct => exact nodup_ips_handler
  case occurs =>
    intro ip
    have some_iff : occurrencesOf state ip ≠ [] ↔ ∃ occurrence ∈ occurrencesOf state ip, True := by
      simp [← List.length_pos_iff, List.length_pos_iff_exists_mem]
    rw [mem_ips_iff, some_iff, exists_occurrencesOf, exists_records, exists_failures]
    simp only [and_true]
  case count =>
    intro source listed
    rw [(mergedFrom_of_mem listed).count, sum_count_occurrencesOf, UInt64.toNat_add,
      Histogram.toNat_sum, Histogram.toNat_sum, List.map_map, List.map_map, ← Nat.add_mod]
    rfl
  case issues =>
    intro source listed issue
    rw [(mergedFrom_of_mem listed).issues, exists_occurrencesOf, exists_records, exists_failures]
    simp only [Occurrence.ofRecord, Occurrence.ofFailure, mem_detectDmarcIssues,
      Finset.mem_singleton, eq_comm]
  case dmarc =>
    intro source listed encoded text decoded parsed
    rw [(mergedFrom_of_mem listed).types, exists_occurrencesOf, dmarc_listHandler_ip decoded parsed,
      exists_records]
    simp [Occurrence.ofRecord, Occurrence.ofFailure]
  case tls =>
    intro source listed encoded text decoded parsed
    rw [(mergedFrom_of_mem listed).types, exists_occurrencesOf, tls_listHandler_ip decoded parsed,
      exists_failures]
    simp [Occurrence.ofRecord, Occurrence.ofFailure]
  case sorted => exact pairwise_handler

end Sources

end DmarcReportViewer
