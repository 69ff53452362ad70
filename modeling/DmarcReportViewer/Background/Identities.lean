import DmarcReportViewer.Background.Resending
import DmarcReportViewer.Background.Steps

/-!
# The reports behind the state

Whatever has happened before, the stored reports are those in the mails of the last
successful update.  Without the duplicate filter they are all reports in different files,
and with it one report for every text by which the filter knows a report.
-/

namespace DmarcReportViewer

open Collections FirstWins Runs

section Sent

/-- The report in a file, with the mail that sent it. -/
def ReportKind.parsed {ρ : Type} (kind : ReportKind ρ) (file : ReportFile) :
    Option (ReportWithMailId ρ) :=
  match kind.fromSlice file.data with
  | .ok report => some { mailId := file.mailId, report := report }
  | .error _ => none

variable (env : Externals) (config : Configuration) (mails : BTreeMap String Mail)
  (fileType : FileType)

/-- The different files of a type in the mails. -/
def differentFiles : List ReportFile :=
  ((extractedFiles env config mails).filter fun file => file.fileType = fileType).dedup

/-- The reports of a type in the mails. -/
def sentReports : List (ReportWithMailId (ReportOf fileType)) :=
  (differentFiles env config mails fileType).filterMap (kindOf env fileType).parsed

/-- The texts by which the duplicate filter knows the reports in a list. -/
def duplKeys (reports : List (ReportWithMailId (ReportOf fileType))) : List String :=
  reports.map fun rwi => (kindOf env fileType).duplKey rwi.report

variable {env config mails fileType}

theorem key?_eq_map_parsed {ρ : Type} (kind : ReportKind ρ) (file : ReportFile) :
    kind.key? file = (kind.parsed file).map fun rwi => kind.duplKey rwi.report := by
  simp only [ReportKind.key?, ReportKind.parsed]
  cases kind.fromSlice file.data <;> rfl

theorem collectedFiles_perm (searched : SearchedMails env config mails)
    (collisionFree : CollisionFree env.sha256 (hashedBytes env config mails)) :
    (collectedFiles env config mails fileType).Perm (differentFiles env config mails fileType) := by
  apply (List.perm_ext_iff_of_nodup (nodup_collectedFiles fileType) (List.nodup_dedup _)).mpr
  intro file
  simp only [mem_collectedFiles_iff searched collisionFree, List.mem_dedup, List.mem_filter,
    decide_eq_true_iff]

/-- The stored reports are those of the first files of their texts. -/
theorem valueList_reports_perm {processed : Processed} (searched : SearchedMails env config mails)
    (collisionFree : CollisionFree env.sha256 (hashedBytes env config mails))
    (outcome : ProcessOutcome env config mails processed) (fileType : FileType) :
    (valueList (processed.reports fileType)).Perm
      ((leaders (kindOf env fileType).key? (!config.disableDuplicateFilter) []
        (collectedFiles env config mails fileType)).filterMap (kindOf env fileType).parsed) := by
  have perm := valueList_insertMany_perm (nodup_kept_hashes searched collisionFree fileType)
  rw [← outcome.reports] at perm
  refine perm.trans (List.Perm.of_eq ?_)
  rw [leaders, List.filterMap_filterMap, List.map_filterMap]
  apply List.filterMap_congr
  rintro ⟨file, verdict⟩ judged
  cases verdict with
  | skipped => rfl
  | repeats leader => rfl
  | first =>
      rcases keptReport_of_first env judged with ⟨report, parsed, kept⟩
      rw [kept]
      simp only [Option.map_some, Option.bind_some, ReportKind.parsed, parsed]

end Sent

section Outcome

variable {env : Externals} {config : Configuration} {mails : BTreeMap String Mail}
  {processed : Processed}

/-- Every stored report was sent. -/
theorem ProcessOutcome.mem_sentReports (searched : SearchedMails env config mails)
    (collisionFree : CollisionFree env.sha256 (hashedBytes env config mails))
    (outcome : ProcessOutcome env config mails processed) {fileType : FileType}
    {rwi : ReportWithMailId (ReportOf fileType)}
    (stored : rwi ∈ valueList (processed.reports fileType)) :
    rwi ∈ sentReports env config mails fileType := by
  have leads := (valueList_reports_perm searched collisionFree outcome fileType).mem_iff.mp stored
  rcases List.mem_filterMap.mp leads with ⟨file, fileMem, parsed⟩
  have collected := mem_items_of_mem_leaders fileMem
  exact List.mem_filterMap.mpr
    ⟨file, (collectedFiles_perm searched collisionFree).mem_iff.mp collected, parsed⟩

/-- Without the filter, all reports are stored. -/
theorem ProcessOutcome.perm_sentReports (searched : SearchedMails env config mails)
    (collisionFree : CollisionFree env.sha256 (hashedBytes env config mails))
    (outcome : ProcessOutcome env config mails processed)
    (disabled : config.disableDuplicateFilter = true) (fileType : FileType) :
    (valueList (processed.reports fileType)).Perm (sentReports env config mails fileType) := by
  have stored := valueList_reports_perm searched collisionFree outcome fileType
  rw [disabled, Bool.not_true, leaders_inactive, List.filterMap_filter] at stored
  have parsed : ∀ file : ReportFile,
      (if ((kindOf env fileType).key? file).isSome then (kindOf env fileType).parsed file
        else none) = (kindOf env fileType).parsed file := by
    intro file
    rw [key?_eq_map_parsed]
    cases (kindOf env fileType).parsed file <;> rfl
  simp only [parsed] at stored
  exact stored.trans ((collectedFiles_perm searched collisionFree).filterMap _)

/-- With the filter, every text of a report is stored once. -/
theorem ProcessOutcome.duplKeys_perm (searched : SearchedMails env config mails)
    (collisionFree : CollisionFree env.sha256 (hashedBytes env config mails))
    (outcome : ProcessOutcome env config mails processed)
    (enabled : config.disableDuplicateFilter = false) (fileType : FileType) :
    (duplKeys env fileType (valueList (processed.reports fileType))).Perm
      (duplKeys env fileType (sentReports env config mails fileType)).dedup := by
  apply (List.perm_ext_iff_of_nodup
    (nodup_keptKeys enabled searched collisionFree outcome fileType) (List.nodup_dedup _)).mpr
  intro name
  have kept : name ∈ processed.keptKeys env fileType ↔ _ :=
    mem_keptKeys_iff searched collisionFree outcome
  rw [List.mem_dedup, duplKeys, sentReports, List.map_filterMap, List.mem_filterMap, kept]
  apply exists_congr
  intro file
  rw [(collectedFiles_perm searched collisionFree).mem_iff, key?_eq_map_parsed]

end Outcome

section WholeRuns

variable {env : Externals}

/-- The settings and the mails of an update which succeeds. -/
def Event.found? (event : Event env) : Option (Configuration × BTreeMap String Mail) :=
  match event with
  | .update attempt => attempt.mailbox?.map fun mailbox => (attempt.config, mailbox)
  | .interlude _ => none

/-- The results in the state are those of the last mails that were found. -/
def AppState.Reflects (env : Externals) (state : AppState)
    (last : Option (Configuration × BTreeMap String Mail)) : Prop :=
  ∀ config mailbox, last = some (config, mailbox) →
    SearchedMails env config mailbox ∧ ProcessOutcome env config mailbox state.results.processed

theorem reflects_stateAfter (events : List (Event env)) (startTime : UInt64) :
    (stateAfter events startTime).Reflects env (lastPublished Event.found? events) := by
  apply run_history (AppState.Reflects env)
  · intro config mailbox last
    cases last
  · intro event state found last published _
    cases event with
    | interlude step => cases published
    | update attempt =>
        rcases bgUpdate_cases state attempt with ⟨error, failed, _⟩ |
          ⟨fetched, processed, timestamp, preparedOk, fetchedOk, searched, outcome, updated⟩
        · rw [Event.found?, mailbox?_of_error failed] at published
          cases published
        · rw [Event.found?, mailbox?_of_ok fetchedOk preparedOk] at published
          cases published
          intro config mailbox same
          cases same
          simp only [Event.apply, updated, replaceState_eq, AppState.results]
          exact ⟨searched, outcome⟩
  · intro event state last silent reflects
    cases event with
    | interlude step => cases step <;> exact reflects
    | update attempt =>
        rcases bgUpdate_cases state attempt with ⟨error, _, failed⟩ |
          ⟨fetched, processed, timestamp, preparedOk, fetchedOk, _, _, _⟩
        · simpa [Event.apply, failed] using reflects
        · rw [Event.found?, mailbox?_of_ok fetchedOk preparedOk] at silent
          cases silent

/-- After every run, the stored reports are reports in the mails of the last successful
update, whatever was stored before.  Without the duplicate filter they are all of these
reports, and with it there is one for each text by which the filter knows a report. -/
theorem reports_of_run (events : List (Event env)) (startTime : UInt64) {config : Configuration}
    {mailbox : BTreeMap String Mail}
    (last : lastPublished Event.found? events = some (config, mailbox))
    (collisionFree : CollisionFree env.sha256 (hashedBytes env config mailbox))
    (fileType : FileType) :
    (∀ rwi ∈ valueList ((stateAfter events startTime).reports fileType),
      rwi ∈ sentReports env config mailbox fileType) ∧
    (config.disableDuplicateFilter = true →
      (valueList ((stateAfter events startTime).reports fileType)).Perm
        (sentReports env config mailbox fileType)) ∧
    (config.disableDuplicateFilter = false →
      (duplKeys env fileType (valueList ((stateAfter events startTime).reports fileType))).Perm
        (duplKeys env fileType (sentReports env config mailbox fileType)).dedup) := by
  rcases reflects_stateAfter events startTime config mailbox last with ⟨searched, outcome⟩
  have stored : (stateAfter events startTime).results.processed.reports fileType =
      (stateAfter events startTime).reports fileType := by
    cases fileType <;> rfl
  rw [← stored]
  refine ⟨?_, ?_, ?_⟩
  · intro rwi rwiMem
    exact outcome.mem_sentReports searched collisionFree rwiMem
  · intro disabled
    exact outcome.perm_sentReports searched collisionFree disabled fileType
  · intro enabled
    exact outcome.duplKeys_perm searched collisionFree enabled fileType

/-- Two mails send the same report, and it is stored once. -/
theorem reports_of_run_sample :
    (∀ rwi ∈ valueList ((stateAfter [.update (sampleAttempt [1, 4])] 0).reports .json),
      rwi ∈ sentReports sampleEnv sampleConfig (sampleMails [1, 4]) .json) ∧
    (sampleConfig.disableDuplicateFilter = true →
      (valueList ((stateAfter [.update (sampleAttempt [1, 4])] 0).reports .json)).Perm
        (sentReports sampleEnv sampleConfig (sampleMails [1, 4]) .json)) ∧
    (sampleConfig.disableDuplicateFilter = false →
      (duplKeys sampleEnv .json
        (valueList ((stateAfter [.update (sampleAttempt [1, 4])] 0).reports .json))).Perm
          (duplKeys sampleEnv .json
            (sentReports sampleEnv sampleConfig (sampleMails [1, 4]) .json)).dedup) := by
  have last : lastPublished Event.found? [.update (sampleAttempt [1, 4])] =
      some (sampleConfig, sampleMails [1, 4]) := by
    rcases bgUpdate_cases (AppState.new 0) (sampleAttempt [1, 4]) with
      ⟨error, _, failed⟩ | ⟨_, _, _, preparedOk, _⟩
    · rw [bgUpdate_sampleAttempt] at failed
      cases failed
    · have mailbox : (sampleAttempt [1, 4]).mailbox? = some (sampleMails [1, 4]) :=
        mailbox?_of_ok fetchMails_sampleAttempt preparedOk
      have found : Event.found? (.update (sampleAttempt [1, 4])) =
          some (sampleConfig, sampleMails [1, 4]) := by
        rw [Event.found?, mailbox]
        rfl
      rw [lastPublished_cons_of_some found]
      rfl
  exact reports_of_run [.update (sampleAttempt [1, 4])] 0 last collisionFree_sampleMails .json

end WholeRuns

end DmarcReportViewer
