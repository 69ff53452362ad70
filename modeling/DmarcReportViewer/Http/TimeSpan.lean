import DmarcReportViewer.Background.Accounting
import DmarcReportViewer.Http.Histograms

/-!
# Time spans

A time span goes through a signed number of hours, a duration, a point in time and an
unsigned number of seconds before it is compared with a report.  All of these steps are
exact as long as the time span does not begin before the Unix epoch.
-/

namespace DmarcReportViewer

open Collections Fallible Histogram

section Spans

/-- What a clock can show since the Unix epoch. -/
def ClockReading (time : DateTime) : Prop :=
  0 ≤ time ∧ time < 8210266876800 * nanosPerSecond

/-- The reports that end within the last hours and pass the domain filter. -/
def dmarcWithin (env : Externals) (now : DateTime) (hours : UInt64) (domain : Option String)
    (state : AppState) : List Dmarc.Report :=
  ((valueList state.dmarcReports).map ReportWithMailId.report).filter fun report =>
    decide (timestamp now ≤ report.reportMetadata.dateRange.«end».toNat + 3600 * hours.toNat) &&
      dmarcPasses env none ((domain.bind env.urlDecode).map env.toLowercase) report

def tlsWithin (env : Externals) (now : DateTime) (hours : UInt64) (domain : Option String)
    (state : AppState) : List Tls.Report :=
  ((valueList state.tlsReports).map ReportWithMailId.report).filter fun report =>
    decide (now ≤ report.dateRange.endDatetime + 3600 * hours.toNat * nanosPerSecond) &&
      tlsPasses env none ((domain.bind env.urlDecode).map env.toLowercase) report

/-- The summary of the last hours succeeds, and it counts the reports that end within
them. -/
def CountsWithin (env : Externals) (now later : DateTime) (hours : UInt64) : Prop :=
  ∀ (state : AppState) (domain : Option String), ∃ summary,
    Summary.handler env state { timeSpan := some hours, domain := domain } now later =
        .ok summary ∧
      summary.dmarc = (DmarcSummary.empty state.xmlFiles state.dmarcReports.size).count
        (dmarcEvents env (dmarcWithin env now hours domain state)) ∧
      summary.tls = (TlsSummary.empty state.jsonFiles state.tlsReports.size).count
        (tlsEvents env (tlsWithin env later hours domain state))

/-- A time span is filtered exactly, and so are all shorter ones, which count no other
reports. -/
structure ExactSpan (env : Externals) (now later : DateTime) (hours : UInt64) : Prop where
  counts : CountsWithin env now later hours
  monotone : ∀ fewer, 0 < fewer → fewer ≤ hours →
    CountsWithin env now later fewer ∧ ∀ domain state,
      (dmarcWithin env now fewer domain state).Sublist (dmarcWithin env now hours domain state) ∧
        (tlsWithin env later fewer domain state).Sublist (tlsWithin env later hours domain state)

end Spans

section Steps

variable {time now later : DateTime} {hours : UInt64} {env : Externals}

theorem asI64_of_lt (small : hours.toNat < 2 ^ 63) : asI64 hours = hours.toNat :=
  if_pos small

theorem toNat_asU64 {number : Int} (positive : 0 ≤ number) (small : number < 2 ^ 64) :
    (asU64 number).toNat = number.toNat := by
  rw [asU64, Int.emod_eq_of_lt positive small, UInt64.toNat_ofNat', Nat.mod_eq_of_lt (by omega)]

theorem timestamp_sub (time : DateTime) (seconds : Int) :
    timestamp (time - seconds * nanosPerSecond) = timestamp time - seconds := by
  unfold timestamp nanosPerSecond
  omega

theorem timestamp_nonneg (reading : ClockReading time) : 0 ≤ timestamp time :=
  Int.ediv_nonneg reading.1 (by decide)

theorem timestamp_lt (reading : ClockReading time) : timestamp time < 8210266876800 :=
  Int.ediv_lt_of_lt_mul (by decide) reading.2

/-- A time span which began after the epoch is not out of bounds. -/
theorem hours_eq_ok {hours : Int} (positive : 0 ≤ hours) (short : hours * 3600 < 8210266876800) :
    Duration.hours hours = .ok (hours * 3600 * nanosPerSecond) :=
  if_pos (by omega)

theorem subDuration_eq_ok {time duration : Int} (reading : ClockReading time)
    (positive : 0 ≤ duration) (short : duration < 8210266876800 * nanosPerSecond) :
    subDuration time duration = .ok (time - duration) := by
  have lower : (0 : Int) ≤ time := reading.1
  have upper : (8210266876800 * 1000000000 : Int) > time := reading.2
  have below : (8210266876800 * 1000000000 : Int) > duration := short
  have inside : -8334601228800 * 1000000000 ≤ time - duration ∧
      time - duration < 8210266876800 * 1000000000 := by
    omega
  exact if_pos inside

/-- What the handler does if the time span begins after the epoch. -/
theorem handler_eq_ok (state : AppState) (domain : Option String) (reading : ClockReading now)
    (laterReading : ClockReading later) (positive : 0 < hours)
    (after : 3600 * (hours.toNat : Int) ≤ timestamp now) :
    Summary.handler env state { timeSpan := some hours, domain := domain } now later =
      .ok (Summary.newSince env state.mails.size
        { xml := state.xmlFiles, json := state.jsonFiles }
        { dmarc := state.dmarcReports, tls := state.tlsReports } state.lastUpdate state.nextUpdate
        { seconds := some (asU64 (timestamp now - hours.toNat * 3600))
          datetime := some (later - hours.toNat * 3600 * nanosPerSecond) }
        (domain.bind env.urlDecode)) := by
  have short := timestamp_lt reading
  have span : Duration.hours (asI64 hours) = .ok (hours.toNat * 3600 * nanosPerSecond) := by
    rw [asI64_of_lt (by omega), hours_eq_ok (by omega) (by omega)]
  have long : (hours.toNat : Int) * 3600 * nanosPerSecond < 8210266876800 * nanosPerSecond := by
    unfold nanosPerSecond
    omega
  have nonneg : (0 : Int) ≤ hours.toNat * 3600 * nanosPerSecond := by
    unfold nanosPerSecond
    omega
  simp only [Summary.handler, SummaryFilters.urlDecode, positive, if_true, span, Summary.new,
    Summary.thresholds, bind, Except.bind, pure, Except.pure, subDuration_eq_ok reading nonneg long,
    subDuration_eq_ok laterReading nonneg long, timestamp_sub]

theorem dmarcSelected_eq_dmarcWithin (state : AppState) (domain : Option String)
    (datetime : Option DateTime) (reading : ClockReading now)
    (after : 3600 * (hours.toNat : Int) ≤ timestamp now) :
    dmarcSelected env
        { seconds := some (asU64 (timestamp now - hours.toNat * 3600)), datetime := datetime }
        (domain.bind env.urlDecode) { dmarc := state.dmarcReports, tls := state.tlsReports } =
      dmarcWithin env now hours domain state := by
  have short := timestamp_lt reading
  refine List.filter_congr fun report _ => ?_
  have same : asU64 (timestamp now - hours.toNat * 3600) ≤ report.reportMetadata.dateRange.«end» ↔
      timestamp now ≤ report.reportMetadata.dateRange.«end».toNat + 3600 * hours.toNat := by
    rw [UInt64.le_iff_toNat_le, toNat_asU64 (by omega) (by omega)]
    omega
  simp [dmarcPasses, same]

theorem tlsSelected_eq_tlsWithin (state : AppState) (domain : Option String)
    (seconds : Option UInt64) :
    tlsSelected env
        { seconds := seconds, datetime := some (later - hours.toNat * 3600 * nanosPerSecond) }
        (domain.bind env.urlDecode) { dmarc := state.dmarcReports, tls := state.tlsReports } =
      tlsWithin env later hours domain state := by
  refine List.filter_congr fun report _ => ?_
  have same : later - hours.toNat * 3600 * nanosPerSecond ≤ report.dateRange.endDatetime ↔
      later ≤ report.dateRange.endDatetime + 3600 * hours.toNat * nanosPerSecond := by
    rw [mul_comm (3600 : Int)]
    exact ⟨Int.le_add_of_sub_right_le, Int.sub_right_le_of_le_add⟩
  simp [tlsPasses, same]

/-- A time span which begins after the epoch is filtered exactly. -/
theorem countsWithin_of_le (reading : ClockReading now) (laterReading : ClockReading later)
    (positive : 0 < hours) (after : 3600 * (hours.toNat : Int) ≤ timestamp now) :
    CountsWithin env now later hours := by
  intro state domain
  refine ⟨_, handler_eq_ok state domain reading laterReading positive after, ?_, ?_⟩
  · rw [dmarc_newSince, dmarcSelected_eq_dmarcWithin state domain _ reading after]
  · rw [tls_newSince, tlsSelected_eq_tlsWithin]

end Steps

section Wrapping

/-- A state with one report, which ended at the epoch. -/
def oldReport : Dmarc.Report :=
  let report := Dmarc.sampleReport "example.com" (.v4 0)
  { report with
    reportMetadata := { report.reportMetadata with dateRange := { begin := 0, «end» := 0 } } }

def oldState : AppState :=
  { AppState.new 0 with
    dmarcReports := (∅ : BTreeMap String DmarcReportWithMailId).insert "80PIQSMHanHfacyq6aXj_A"
      { mailId := "1", report := oldReport } }

theorem valueList_oldState :
    (valueList oldState.dmarcReports).map ReportWithMailId.report = [oldReport] := by
  decide

variable {now later : DateTime} {hours : UInt64} {env : Externals}

theorem toNat_asU64_pos {number : Int} (lower : -2 ^ 64 < number) (upper : number < 2 ^ 64)
    (different : number ≠ 0) : 0 < (asU64 number).toNat := by
  rw [asU64, UInt64.toNat_ofNat']
  omega

theorem hours_of_eq_ok {hours : Int} {span : Duration}
    (succeeded : Duration.hours hours = .ok span) : span = hours * 3600 * nanosPerSecond := by
  unfold Duration.hours at succeeded
  split at succeeded
  · exact (Except.ok.inj succeeded).symm
  · cases succeeded

theorem subDuration_of_eq_ok {time duration : Int} {begin : DateTime}
    (succeeded : subDuration time duration = .ok begin) :
    begin = time - duration ∧ -8334601228800 * nanosPerSecond ≤ time - duration ∧
      time - duration < 8210266876800 * nanosPerSecond := by
  simp only [subDuration] at succeeded
  split at succeeded
  · next inside => exact ⟨(Except.ok.inj succeeded).symm, inside⟩
  · cases succeeded

/-- What a successful request with a time span has computed. -/
theorem thresholds_of_handler {state : AppState} {domain : Option String} {summary : Summary}
    (positive : 0 < hours)
    (succeeded : Summary.handler env state { timeSpan := some hours, domain := domain } now later =
      .ok summary) :
    ∃ begin datetime, subDuration now (asI64 hours * 3600 * nanosPerSecond) = .ok begin ∧
      summary = Summary.newSince env state.mails.size
        { xml := state.xmlFiles, json := state.jsonFiles }
        { dmarc := state.dmarcReports, tls := state.tlsReports } state.lastUpdate state.nextUpdate
        { seconds := some (asU64 (timestamp begin)), datetime := some datetime }
        (domain.bind env.urlDecode) := by
  simp only [Summary.handler, SummaryFilters.urlDecode, positive, if_true, bind_eq_ok_iff,
    pure_eq_ok_iff] at succeeded
  rcases succeeded with ⟨span, spanOk, _, rfl, created⟩
  rcases new_eq_ok_iff.mp created with ⟨thresholds, since, rfl⟩
  simp only [Summary.thresholds, bind_eq_ok_iff, pure_eq_ok_iff] at since
  rcases since with ⟨begin, subtracted, datetime, _, rfl⟩
  rw [hours_of_eq_ok spanOk] at subtracted
  exact ⟨begin, datetime, subtracted, rfl⟩

/-- The threshold of a time span which begins before the epoch lies behind the epoch. -/
theorem toNat_threshold_pos (reading : ClockReading now)
    (before : timestamp now < 3600 * (hours.toNat : Int)) {begin : DateTime}
    (subtracted : subDuration now (asI64 hours * 3600 * nanosPerSecond) = .ok begin) :
    0 < (asU64 (timestamp begin)).toNat := by
  rcases subDuration_of_eq_ok subtracted with ⟨rfl, lower, upper⟩
  have nonneg := timestamp_nonneg reading
  have threshold := timestamp_sub now (asI64 hours * 3600)
  -- The threshold lies before the epoch, or in the future if the hours wrap around.
  have different : timestamp now - asI64 hours * 3600 ≠ 0 := by
    have bound := hours.toNat_lt
    unfold asI64
    split <;> omega
  have inRange : -2 ^ 64 < timestamp now - asI64 hours * 3600 ∧
      timestamp now - asI64 hours * 3600 < 2 ^ 64 := by
    rw [← threshold]
    unfold timestamp
    unfold nanosPerSecond at lower upper ⊢
    omega
  rw [threshold]
  exact toNat_asU64_pos inRange.1 inRange.2 different

/-- A time span which begins before the epoch counts none of the reports. -/
theorem not_countsWithin_of_lt (reading : ClockReading now) (positive : 0 < hours)
    (before : timestamp now < 3600 * (hours.toNat : Int)) : ¬ CountsWithin env now later hours := by
  intro counts
  rcases counts oldState none with ⟨summary, succeeded, dmarc, _⟩
  rcases thresholds_of_handler positive succeeded with ⟨begin, datetime, subtracted, rfl⟩
  have above := toNat_threshold_pos reading before subtracted
  have within : dmarcWithin env now hours none oldState = [oldReport] := by
    rw [dmarcWithin, valueList_oldState]
    have ends : timestamp now ≤ 3600 * hours.toNat := Int.le_of_lt before
    simp [dmarcPasses, oldReport, ends]
  have hidden : dmarcPasses env (some (asU64 (timestamp begin))) none oldReport = false := by
    have later : ¬ asU64 (timestamp begin) ≤ oldReport.reportMetadata.dateRange.«end» := by
      rw [UInt64.le_iff_toNat_le]
      exact Nat.not_le.mpr above
    rw [dmarcPasses, Option.all_some, decide_eq_false later, Bool.false_and]
  have counted := congrArg DmarcSummary.orgs dmarc
  rw [dmarc_newSince, dmarcSelected, valueList_oldState, within, Option.bind_none, Option.map_none,
    List.filter_singleton, hidden] at counted
  have listed : oldReport.reportMetadata.orgName ∈
      ((DmarcSummary.empty oldState.xmlFiles oldState.dmarcReports.size).count
        (dmarcEvents env [oldReport])).orgs :=
    mem_bumpAll.mpr (Or.inl List.mem_cons_self)
  rw [← counted] at listed
  rcases mem_bumpAll.mp listed with absent | absent
  · cases absent
  · exact absurd absent Std.ExtTreeMap.not_mem_empty

/-- A time span is filtered exactly if and only if it does not begin before the epoch. -/
theorem exactSpan_iff (env : Externals) (reading : ClockReading now)
    (laterReading : ClockReading later) (positive : 0 < hours) :
    ExactSpan env now later hours ↔ 3600 * (hours.toNat : Int) ≤ timestamp now := by
  constructor
  · intro exact
    by_contra before
    exact not_countsWithin_of_lt reading positive (Int.not_le.mp before) exact.counts
  · intro after
    constructor
    case counts => exact countsWithin_of_le reading laterReading positive after
    case monotone =>
      intro fewer some less
      have bound := UInt64.le_iff_toNat_le.mp less
      refine ⟨countsWithin_of_le reading laterReading some (by omega), fun domain state => ⟨?_, ?_⟩⟩
      · refine List.monotone_filter_right _ fun report => ?_
        simp only [Bool.and_eq_true, decide_eq_true_eq]
        exact fun passes => ⟨by omega, passes.2⟩
      · refine List.monotone_filter_right _ fun report => ?_
        simp only [Bool.and_eq_true, decide_eq_true_eq]
        refine fun passes => ⟨Int.le_trans passes.1 ?_, passes.2⟩
        unfold nanosPerSecond
        omega

theorem clockReading_sample : ClockReading 1714608000000000000 :=
  ⟨by decide, by decide⟩

theorem exactSpan_iff_sample :
    ExactSpan sampleEnv 1714608000000000000 1714608000000000000 24 ↔
      3600 * ((24 : UInt64).toNat : Int) ≤ timestamp 1714608000000000000 :=
  exactSpan_iff sampleEnv clockReading_sample clockReading_sample (by decide)

/-- A million hours before May 2024, there was no Unix epoch yet. -/
theorem not_exactSpan_sample :
    ¬ ExactSpan sampleEnv 1714608000000000000 1714608000000000000 1000000 :=
  fun exact => not_countsWithin_of_lt clockReading_sample (by decide) (by decide) exact.counts

end Wrapping

end DmarcReportViewer
