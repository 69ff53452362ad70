import DmarcReportViewer.Dmarc.Serde
import DmarcReportViewer.Http.DmarcReports
import DmarcReportViewer.Http.Export
import DmarcReportViewer.Lib.Serde.Json

/-!
# The details of a DMARC report

The record filter of `ui/components/dmarc-report.js`, on the JSON in which the server
sends a report.  A policy result which is missing from a record is missing from the JSON.
-/

namespace DmarcReportViewer.DetailView

open Collections Serde Json DmarcReports

/-- The literals other than `false` are `true` and numbers which are not zero. -/
def truthy : Option Json → Bool
  | none => false
  | some .null => false
  | some (.literal text) => text ≠ "false"
  | some (.number value) => value ≠ 0
  | some (.string text) => text ≠ ""
  | some (.array _) => true
  | some (.object _) => true

def isString (value : Option Json) (text : String) : Bool :=
  match value with
  | some (.string other) => other = text
  | _ => false

/-- The records of the report, if one was loaded. -/
def records (report : Option Json) : List Json :=
  match report.bind (get "record") with
  | some (.array records) => records
  | _ => []

def policyOf (record : Json) : Json :=
  let row := get "row" record
  let policyEvaluated := row.bind (get "policy_evaluated")
  if truthy (some record) ∧ truthy row ∧ truthy policyEvaluated then
    policyEvaluated.getD (.object [])
  else
    .object []

def getFilteredRecords (report : Option Json) (recordFilter : String) : List Json :=
  if recordFilter = "" ∨ recordFilter = "all" then
    records report
  else
    (records report).filter fun record =>
      let policy := policyOf record
      let spf := get "spf" policy
      let dkim := get "dkim" policy
      match recordFilter with
      | "spf-fail" => isString spf "fail"
      | "dkim-fail" => isString dkim "fail"
      | "dmarc-fail" => isString spf "fail" && isString dkim "fail"
      | _ => true

structure Stats where
  all : Nat := 0
  spfFail : Nat := 0
  dkimFail : Nat := 0
  dmarcFail : Nat := 0
deriving DecidableEq

/-- The body of the loop over the records. -/
def countRecord (stats : Stats) (record : Json) : Stats :=
  let policy := policyOf record
  let spf := get "spf" policy
  let dkim := get "dkim" policy
  let stats := if isString spf "fail" then { stats with spfFail := stats.spfFail + 1 } else stats
  let stats :=
    if isString dkim "fail" then { stats with dkimFail := stats.dkimFail + 1 } else stats
  if isString spf "fail" ∧ isString dkim "fail" then
    { stats with dmarcFail := stats.dmarcFail + 1 }
  else
    stats

def getRecordFilterStats (report : Option Json) : Stats :=
  (records report).foldl countRecord { all := (records report).length }

section Loading

variable {env : Externals} (lower : Dmarc.KeepsLowerCase env) (ipAddr : TextForm IpAddr)

def reportWithMailId : Codec Export.AnyFormat DmarcReportWithMailId :=
  .struct
    ((Fields.required "mail_id" (one .text)).and
      (Fields.required "report" (one (Dmarc.Report.codec lower ipAddr))))
    (fun (mailId, report) => { mailId, report })
    (fun value => (value.mailId, value.report))
    (fun _ => rfl) (by simp)

/-- The report which the view has loaded, from the JSON which `single_handler` sends. -/
def loaded (rwi : DmarcReportWithMailId) : Option Json :=
  get "report" (ofValue (reportWithMailId lower ipAddr) rwi)

def recordJson (record : Dmarc.RecordType) : Json :=
  ofValue (P := Export.AnyFormat) (Dmarc.RecordType.codec lower ipAddr) record

/-- The details of a report agree with its flag: a record which makes the server flag the
report is counted as failed and shown by the filter, and no other record is. -/
structure Agrees (rwi : DmarcReportWithMailId) : Prop where
  counted : (ReportHeader.flags rwi.report).2.2 = true ↔
    0 < (getRecordFilterStats (loaded lower ipAddr rwi)).dmarcFail
  selected : getFilteredRecords (loaded lower ipAddr rwi) "dmarc-fail" =
    (rwi.report.record.filter fun record =>
      (ReportHeader.flagRecord (false, false, false) record).2.2).map (recordJson lower ipAddr)

end Loading

section Records

variable {env : Externals} {lower : Dmarc.KeepsLowerCase env} {ipAddr : TextForm IpAddr}

/-- Both policy results of the record are failures. -/
def bothFail (record : Dmarc.RecordType) : Bool :=
  record.row.policyEvaluated.spf == some .fail && record.row.policyEvaluated.dkim == some .fail

theorem records_loaded (rwi : DmarcReportWithMailId) :
    records (loaded lower ipAddr rwi) = rwi.report.record.map (recordJson lower ipAddr) := by
  rcases rwi with ⟨_, ⟨_ | _, _, _, _⟩⟩
  · rfl
  · rfl

/-- A missing result is no failure in the JSON either. -/
theorem isString_policyOf (record : Dmarc.RecordType) :
    (isString (get "spf" (policyOf (recordJson lower ipAddr record))) "fail" &&
      isString (get "dkim" (policyOf (recordJson lower ipAddr record))) "fail") =
        bothFail record := by
  rcases record with ⟨⟨_, _, ⟨_, _ | ⟨⟨⟩⟩, _ | ⟨⟨⟩⟩, _ | _⟩⟩, _, _⟩ <;> rfl

theorem getFilteredRecords_loaded (rwi : DmarcReportWithMailId) :
    getFilteredRecords (loaded lower ipAddr rwi) "dmarc-fail" =
      (rwi.report.record.filter bothFail).map (recordJson lower ipAddr) := by
  rw [getFilteredRecords, if_neg (by decide), records_loaded, List.filter_map]
  congr 1
  apply List.filter_congr
  intro record _
  exact isString_policyOf record

theorem dmarcFail_countRecord (stats : Stats) (record : Dmarc.RecordType) :
    (countRecord stats (recordJson lower ipAddr record)).dmarcFail =
      stats.dmarcFail + if bothFail record then 1 else 0 := by
  rw [← @isString_policyOf env lower ipAddr record, countRecord]
  simp only [Bool.and_eq_true]
  split_ifs <;> rfl

theorem dmarcFail_stats (rwi : DmarcReportWithMailId) :
    (getRecordFilterStats (loaded lower ipAddr rwi)).dmarcFail =
      rwi.report.record.countP bothFail := by
  have run : ∀ (found : List Dmarc.RecordType) (stats : Stats),
      ((found.map (recordJson lower ipAddr)).foldl countRecord stats).dmarcFail =
        stats.dmarcFail + found.countP bothFail := by
    intro found
    induction found with
    | nil => simp
    | cons record found ih =>
        intro stats
        rw [List.map_cons, List.foldl_cons, ih, dmarcFail_countRecord, List.countP_cons]
        omega
  rw [getRecordFilterStats, records_loaded, run, Nat.zero_add]

theorem dmarcIssue_of_bothFail {record : Dmarc.RecordType} (failed : bothFail record = true) :
    dmarcIssue record = true := by
  simp only [bothFail, Bool.and_eq_true, beq_iff_eq] at failed
  simp [dmarcIssue, failed]

/-- The rules of the server and of the view differ where a result is missing and none is a
pass. -/
theorem bothFail_eq_iff (record : Dmarc.RecordType) :
    bothFail record = dmarcIssue record ↔
      (record.row.policyEvaluated.dkim = none ∨ record.row.policyEvaluated.spf = none →
        record.row.policyEvaluated.dkim = some .pass ∨
          record.row.policyEvaluated.spf = some .pass) := by
  rcases record with ⟨⟨_, _, ⟨_, _ | ⟨⟨⟩⟩, _ | ⟨⟨⟩⟩, _⟩⟩, _, _⟩ <;> simp [dmarcIssue, bothFail]

theorem flagRecord_dmarc (record : Dmarc.RecordType) :
    (ReportHeader.flagRecord (false, false, false) record).2.2 = dmarcIssue record := by
  rw [flagRecord_eq, Bool.false_or, Bool.false_or, Bool.false_or]

/-- A filter which keeps no more than another one keeps as much only if it agrees with it. -/
theorem eq_of_length_filter {α : Type} {keep wider : α → Bool} {items : List α}
    (implies : ∀ item, keep item = true → wider item = true)
    (same : (items.filter keep).length = (items.filter wider).length) {item : α}
    (member : item ∈ items) : keep item = wider item := by
  have equal : items.filter keep = items.filter wider :=
    (List.monotone_filter_right items implies).eq_of_length same
  have iff := congrArg (item ∈ ·) equal
  simp only [List.mem_filter, member, true_and, eq_iff_iff] at iff
  exact Bool.eq_iff_iff.mpr iff

end Records

section Results

/-- The view agrees with the server if and only if every record which lacks a policy result
has passed by the other one. -/
theorem agrees_iff {env : Externals} (lower : Dmarc.KeepsLowerCase env)
    (ipAddr : TextForm IpAddr) (rwi : DmarcReportWithMailId) :
    Agrees lower ipAddr rwi ↔ ∀ record ∈ rwi.report.record,
      record.row.policyEvaluated.dkim = none ∨ record.row.policyEvaluated.spf = none →
        record.row.policyEvaluated.dkim = some .pass ∨
          record.row.policyEvaluated.spf = some .pass := by
  have same : (∀ record ∈ rwi.report.record, bothFail record = dmarcIssue record) ↔ _ :=
    forall₂_congr fun record _ => bothFail_eq_iff record
  rw [← same]
  constructor
  · intro agrees record member
    have lengths := congrArg List.length agrees.selected
    simp only [getFilteredRecords_loaded, flagRecord_dmarc, List.length_map] at lengths
    exact eq_of_length_filter (fun _ => dmarcIssue_of_bothFail) lengths member
  · intro equal
    have filtered : rwi.report.record.filter bothFail = rwi.report.record.filter dmarcIssue :=
      List.filter_congr equal
    constructor
    case counted =>
      rw [dmarcFail_stats, flags_eq, List.countP_eq_length_filter, filtered,
        List.length_filter_pos_iff, List.any_eq_true]
    case selected =>
      simp only [getFilteredRecords_loaded, flagRecord_dmarc, filtered]

end Results

section Samples

def sampleRecord (dkim spf : Option Dmarc.DmarcResultType) : Dmarc.RecordType where
  row := {
    sourceIp := .v4 3221226219
    count := 1
    policyEvaluated := { disposition := .none, dkim := dkim, spf := spf, reason := none } }
  identifiers := { envelopeTo := none, envelopeFrom := none, headerFrom := "example.org" }
  authResults := { dkim := none, spf := [] }

def sampleReport (dkim spf : Option Dmarc.DmarcResultType) : DmarcReportWithMailId where
  mailId := "1"
  report := { Export.sampleDmarcReport with record := [sampleRecord dkim spf] }

theorem agrees_iff_sample :
    Agrees Export.sampleEnv_keepsLowerCase Export.sampleIpAddr (sampleReport none (some .pass)) :=
  (agrees_iff _ _ _).mpr (by decide)

/-- The DKIM result is a failure, and there is no SPF result. -/
theorem not_agrees_sample :
    ¬ Agrees Export.sampleEnv_keepsLowerCase Export.sampleIpAddr
      (sampleReport (some .fail) none) := by
  intro agrees
  have counted := agrees.counted.mp (by decide)
  cases counted

end Samples

end DmarcReportViewer.DetailView
