import DmarcReportViewer.Background.Collection
import DmarcReportViewer.Background.Parsing

/-!
# What an update computes

The two parsing loops run one after the other on the collected files.  An
update of delivered mails cannot fail in them, and `ProcessOutcome` describes
its results by the verdicts on the files of either type.
-/

namespace DmarcReportViewer

open Collections FirstWins

section Mails

variable {ρ : Type} {env : Externals} {kind : ReportKind ρ} {id : String} {mail : Mail}
  {judged : List (ReportFile × Verdict ReportFile)}

/-- The hash which a verdict adds to the duplicates of a mail. -/
def repeatedHash (env : Externals) (entry : ReportFile × Verdict ReportFile) : Option String :=
  match entry.2 with
  | .repeats leader => some (reportHash env leader)
  | _ => none

/-- The duplicates which a parsing loop records for a mail. -/
def duplicatesAfter (env : Externals) (judged : List (ReportFile × Verdict ReportFile))
    (id : String) : List String :=
  (judged.filter fun entry => entry.1.mailId = id).filterMap (repeatedHash env)

/-- The number of files of a mail which could not be parsed. -/
def skippedCount (judged : List (ReportFile × Verdict ReportFile)) (id : String) : Nat :=
  ((judged.filter fun entry => entry.1.mailId = id).filter fun entry =>
    entry.2 = .skipped).length

theorem mailAfter_induction (property : List (ReportFile × Verdict ReportFile) → Mail → Prop)
    (initially : property [] mail)
    (recorded : ∀ earlier entry other, property earlier other →
      property (earlier ++ [entry]) (recordInMail env kind other entry)) :
    property (judged.filter fun entry => entry.1.mailId = id)
      (mailAfter env kind judged id mail) := by
  simp only [mailAfter]
  generalize (judged.filter fun entry => entry.1.mailId = id) = own
  induction own using List.reverseRecOn with
  | nil => exact initially
  | append_singleton earlier entry ih =>
      rw [List.foldl_append]
      exact recorded earlier entry _ ih

@[simp]
theorem id_mailAfter : (mailAfter env kind judged id mail).id = mail.id := by
  apply mailAfter_induction fun _ other => other.id = mail.id
  · rfl
  · rintro _ ⟨_, verdict⟩ other same
    cases verdict <;> simp [recordInMail, same]

@[simp]
theorem body_mailAfter : (mailAfter env kind judged id mail).body = mail.body := by
  apply mailAfter_induction fun _ other => other.body = mail.body
  · rfl
  · rintro _ ⟨_, verdict⟩ other same
    cases verdict <;> simp [recordInMail, same]

@[simp]
theorem files_mailAfter (fileType : FileType) :
    (mailAfter env kind judged id mail).files fileType = mail.files fileType := by
  apply mailAfter_induction fun _ other => other.files fileType = mail.files fileType
  · rfl
  · rintro _ ⟨_, verdict⟩ other same
    cases verdict <;> simp [recordInMail, same]

theorem parsingErrors_mailAfter (fileType : FileType) :
    (mailAfter env kind judged id mail).parsingErrors fileType =
      mail.parsingErrors fileType +
        if kind.fileType = fileType then skippedCount judged id else 0 := by
  apply mailAfter_induction fun own other => other.parsingErrors fileType =
    mail.parsingErrors fileType +
      if kind.fileType = fileType then (own.filter fun entry => entry.2 = .skipped).length else 0
  · simp
  · rintro earlier ⟨file, verdict⟩ other same
    cases verdict <;> by_cases own : kind.fileType = fileType <;>
      simp [recordInMail, same, own, List.filter_append, Nat.add_assoc]

theorem duplicates_mailAfter (fileType : FileType) :
    (mailAfter env kind judged id mail).duplicates fileType =
      mail.duplicates fileType ++
        if kind.fileType = fileType then duplicatesAfter env judged id else [] := by
  apply mailAfter_induction fun own other => other.duplicates fileType =
    mail.duplicates fileType ++
      if kind.fileType = fileType then own.filterMap (repeatedHash env) else []
  · simp
  · rintro earlier ⟨file, verdict⟩ other same
    cases verdict <;> by_cases own : kind.fileType = fileType <;>
      simp [recordInMail, same, own, List.filterMap_append, repeatedHash]

end Mails

section Process

/-- The files of a type in the order in which an update parses them. -/
def collectedFiles (env : Externals) (config : Configuration) (fetched : BTreeMap String Mail)
    (fileType : FileType) : List ReportFile :=
  valueList ((collectFiles env config fetched).files fileType)

/-- The verdicts of an update on the files of a type. -/
def judgedFiles (env : Externals) (config : Configuration) (fetched : BTreeMap String Mail)
    (fileType : FileType) : List (ReportFile × Verdict ReportFile) :=
  (kindOf env fileType).judge config (collectedFiles env config fetched fileType)

/-- A mail at the end of an update. -/
def finishedMail (env : Externals) (config : Configuration) (fetched : BTreeMap String Mail)
    (id : String) (mail : Mail) : Mail :=
  mailAfter env (tlsKind env) (judgedFiles env config fetched .json) id
    (mailAfter env (dmarcKind env) (judgedFiles env config fetched .xml) id
      (collectedMail env config mail))

/-- The errors which an update records for a mail. -/
def finishedErrors (env : Externals) (config : Configuration) (fetched : BTreeMap String Mail)
    (id : String) : List ReportParsingError :=
  errorsAfter env (dmarcKind env) (judgedFiles env config fetched .xml) id ++
    errorsAfter env (tlsKind env) (judgedFiles env config fetched .json) id

def Processed.reports (processed : Processed) :
    (fileType : FileType) → BTreeMap String (ReportWithMailId (ReportOf fileType))
  | .json => processed.tlsReports
  | .xml => processed.dmarcReports

def Processed.fileCount (processed : Processed) : FileType → Nat
  | .json => processed.jsonFiles
  | .xml => processed.xmlFiles

/-- The outcome of an update, read off from the verdicts on its files. -/
structure ProcessOutcome (env : Externals) (config : Configuration)
    (fetched : BTreeMap String Mail) (processed : Processed) : Prop where
  mails : ∀ id : String, processed.mails[id]? =
    fetched[id]?.map (finishedMail env config fetched id)
  reports : ∀ fileType, processed.reports fileType =
    (∅ : BTreeMap String (ReportWithMailId (ReportOf fileType))).insertMany
      ((judgedFiles env config fetched fileType).filterMap (keptReport env (kindOf env fileType)))
  parsingErrors : ∀ id : String, processed.parsingErrors[id]? =
    if finishedErrors env config fetched id = [] then
      none
    else
      some (finishedErrors env config fetched id)
  fileCount : ∀ fileType, processed.fileCount fileType =
    (collectedFiles env config fetched fileType).length

variable {env : Externals} {config : Configuration} {fetched : BTreeMap String Mail}

theorem mem_mails_of_mem_collectedFiles (searched : SearchedMails env config fetched)
    (fileType : FileType) {file : ReportFile}
    (listed : file ∈ collectedFiles env config fetched fileType) :
    file.mailId ∈ (collectFiles env config fetched).mails :=
  mailId_mem_mails_collectFiles searched listed

/-- An update of delivered mails does not fail while it processes them. -/
theorem processMails_outcome (searched : SearchedMails env config fetched) :
    ∃ processed, processMails env config fetched = .ok processed ∧
      ProcessOutcome env config fetched processed := by
  have dmarcLoop : ∃ dmarc, parseXmlFiles env config (collectFiles env config fetched).xmlFiles
      (collectFiles env config fetched).mails ∅ = .ok dmarc ∧ ParseOutcome env (dmarcKind env)
        config (collectedFiles env config fetched .xml) (collectFiles env config fetched).mails ∅
        dmarc := by
    apply parseFiles_outcome
    intro file listed
    exact mem_mails_of_mem_collectedFiles searched .xml listed
  rcases dmarcLoop with ⟨dmarc, dmarcOk, dmarcOutcome⟩
  have tlsLoop : ∃ tls, parseJsonFiles env config (collectFiles env config fetched).jsonFiles
      dmarc.mails dmarc.parsingErrors = .ok tls ∧ ParseOutcome env (tlsKind env)
        config (collectedFiles env config fetched .json) dmarc.mails dmarc.parsingErrors tls := by
    apply parseFiles_outcome
    intro file listed
    have known := mem_mails_of_mem_collectedFiles searched .json listed
    rw [Std.ExtTreeMap.mem_iff_isSome_getElem?, dmarcOutcome.mails, Option.isSome_map]
    exact Std.ExtTreeMap.mem_iff_isSome_getElem?.mp known
  rcases tlsLoop with ⟨tls, tlsOk, tlsOutcome⟩
  refine ⟨{
      mails := tls.mails
      dmarcReports := dmarc.reports
      tlsReports := tls.reports
      xmlFiles := (collectFiles env config fetched).xmlFiles.size
      jsonFiles := (collectFiles env config fetched).jsonFiles.size
      parsingErrors := tls.parsingErrors }, ?_, ?_, ?_, ?_, ?_⟩
  · simp only [processMails, dmarcOk, tlsOk, bind, Except.bind, pure, Except.pure]
  · intro id
    have collected : (collectFiles env config fetched).mails = _ := mails_collectFiles fetched
    rw [tlsOutcome.mails, dmarcOutcome.mails, collected, Std.ExtTreeMap.getElem?_map]
    simp only [Option.map_map]
    rfl
  · intro fileType
    cases fileType with
    | json => exact tlsOutcome.reports
    | xml => exact dmarcOutcome.reports
  · intro id
    have joined : finishedErrors env config fetched id = errorsAfter env (dmarcKind env)
        ((dmarcKind env).judge config (collectedFiles env config fetched .xml)) id ++
          errorsAfter env (tlsKind env)
            ((tlsKind env).judge config (collectedFiles env config fetched .json)) id := rfl
    rw [tlsOutcome.parsingErrors, dmarcOutcome.parsingErrors, joined]
    split_ifs <;> simp_all
  · intro fileType
    cases fileType <;> exact (length_valueList _).symm

@[simp]
theorem id_finishedMail (id : String) (mail : Mail) :
    (finishedMail env config fetched id mail).id = mail.id := by
  simp [finishedMail]

@[simp]
theorem body_finishedMail (id : String) (mail : Mail) :
    (finishedMail env config fetched id mail).body = none := by
  simp [finishedMail]

/-- The file counters of a fresh mail count its extracted files. -/
theorem files_finishedMail {mail : Mail} (fresh : mail.Fresh) (fileType : FileType)
    (id : String) :
    (finishedMail env config fetched id mail).files fileType =
      ((filesOf env config mail).filter fun file => file.fileType = fileType).length := by
  rw [finishedMail, files_mailAfter, files_mailAfter, files_collectedMail, fresh.files,
    Nat.zero_add]

/-- The error counters of a fresh mail count its skipped files. -/
theorem parsingErrors_finishedMail {mail : Mail} (fresh : mail.Fresh) (fileType : FileType)
    (id : String) :
    (finishedMail env config fetched id mail).parsingErrors fileType =
      skippedCount (judgedFiles env config fetched fileType) id := by
  have initially := fresh.parsingErrors fileType
  cases fileType <;>
    simp [finishedMail, parsingErrors_mailAfter, initially, dmarcKind, tlsKind]

/-- The duplicates of a fresh mail are those recorded for its own type. -/
theorem duplicates_finishedMail {mail : Mail} (fresh : mail.Fresh) (fileType : FileType)
    (id : String) :
    (finishedMail env config fetched id mail).duplicates fileType =
      duplicatesAfter env (judgedFiles env config fetched fileType) id := by
  have initially := fresh.duplicates fileType
  cases fileType <;>
    simp [finishedMail, duplicates_mailAfter, initially, dmarcKind, tlsKind]

theorem length_errorsAfter (fileType : FileType) (id : String) :
    (errorsAfter env (kindOf env fileType) (judgedFiles env config fetched fileType) id).length =
      skippedCount (judgedFiles env config fetched fileType) id := by
  rw [errorsAfter, List.length_filterMap_eq_countP, skippedCount, ← List.countP_eq_length_filter]
  apply List.countP_congr
  intro entry entryMem
  have judged := (List.mem_filter.mp entryMem).1
  simpa using parsingError_isSome_iff judged

theorem kind_of_mem_errorsAfter {fileType : FileType} {id : String} {error : ReportParsingError}
    (listed : error ∈ errorsAfter env (kindOf env fileType)
      (judgedFiles env config fetched fileType) id) : error.kind = fileType := by
  rcases List.mem_filterMap.mp listed with ⟨entry, _, failed⟩
  rw [kind_of_parsingError failed, fileType_kindOf]

variable (env config fetched) in
/-- The errors of one type in the error map are the skipped files of that type. -/
theorem length_filter_finishedErrors (fileType : FileType) (id : String) :
    ((finishedErrors env config fetched id).filter fun error => error.kind = fileType).length =
      skippedCount (judgedFiles env config fetched fileType) id := by
  have own : ∀ other : FileType,
      (errorsAfter env (kindOf env other) (judgedFiles env config fetched other) id).filter
          (fun error => error.kind = fileType) =
        if other = fileType then
          errorsAfter env (kindOf env other) (judgedFiles env config fetched other) id
        else
          [] := by
    intro other
    split
    · next same =>
        apply List.filter_eq_self.mpr
        intro error listed
        simp [kind_of_mem_errorsAfter listed, same]
    · next differs =>
        apply List.filter_eq_nil_iff.mpr
        intro error listed
        simp [kind_of_mem_errorsAfter listed, differs]
  have xml := own .xml
  have json := own .json
  have total : (errorsAfter env (kindOf env fileType)
      (judgedFiles env config fetched fileType) id).length = _ := length_errorsAfter fileType id
  rw [finishedErrors, List.filter_append]
  simp only [kindOf] at xml json
  cases fileType <;> simpa [xml, json, kindOf] using total

/-- The hash of every first file is a key of the report map. -/
theorem ProcessOutcome.mem_reports {processed : Processed}
    (outcome : ProcessOutcome env config fetched processed) {fileType : FileType}
    {file : ReportFile} (judged : (file, .first) ∈ judgedFiles env config fetched fileType) :
    reportHash env file ∈ processed.reports fileType := by
  rcases keptReport_of_first env judged with ⟨report, _, kept⟩
  rw [outcome.reports]
  apply mem_insertMany_iff.mpr
  left
  exact List.mem_map.mpr ⟨_, List.mem_filterMap.mpr ⟨_, judged, kept⟩, rfl⟩

/-- Every entry of the report map belongs to a first file. -/
theorem ProcessOutcome.origin {processed : Processed}
    (outcome : ProcessOutcome env config fetched processed) {fileType : FileType}
    {hash : String} {rwi : ReportWithMailId (ReportOf fileType)}
    (found : (processed.reports fileType)[hash]? = some rwi) :
    ∃ file, (file, .first) ∈ judgedFiles env config fetched fileType ∧
      hash = reportHash env file ∧ rwi.mailId = file.mailId ∧
      (kindOf env fileType).fromSlice file.data = .ok rwi.report := by
  rw [outcome.reports] at found
  rcases mem_or_getElem?_of_insertMany found with listed | empty
  · rcases List.mem_filterMap.mp listed with ⟨⟨file, verdict⟩, judged, kept⟩
    rcases keptReport_eq_some_iff.mp kept with ⟨first, report, parsed, same⟩
    cases first
    cases same
    exact ⟨file, judged, rfl, rfl, parsed⟩
  · simp at empty

theorem ProcessOutcome.mem_mails_iff {processed : Processed}
    (outcome : ProcessOutcome env config fetched processed) {id : String} :
    id ∈ processed.mails ↔ id ∈ fetched := by
  rw [Std.ExtTreeMap.mem_iff_isSome_getElem?, Std.ExtTreeMap.mem_iff_isSome_getElem?,
    outcome.mails, Option.isSome_map]

theorem ProcessOutcome.mails_eq_map {processed : Processed}
    (outcome : ProcessOutcome env config fetched processed) :
    processed.mails = fetched.map (finishedMail env config fetched) := by
  apply Std.ExtTreeMap.ext_getElem?
  intro id
  rw [outcome.mails, Std.ExtTreeMap.getElem?_map]

theorem ProcessOutcome.keys_mails {processed : Processed}
    (outcome : ProcessOutcome env config fetched processed) :
    processed.mails.keys = fetched.keys := by
  rw [outcome.mails_eq_map, Std.ExtTreeMap.keys_map]

/-- The mail of every parsed file was fetched. -/
theorem mem_fetched_of_mem_judgedFiles (searched : SearchedMails env config fetched)
    {fileType : FileType} {file : ReportFile} {verdict : Verdict ReportFile}
    (judged : (file, verdict) ∈ judgedFiles env config fetched fileType) :
    file.mailId ∈ fetched := by
  have known := mem_mails_of_mem_collectedFiles searched fileType (mem_of_mem_verdicts judged)
  rw [mails_collectFiles, Std.ExtTreeMap.mem_map] at known
  exact known

theorem mem_fetched_of_mem_errorsAfter (searched : SearchedMails env config fetched)
    (fileType : FileType) {id : String} {error : ReportParsingError}
    (listed : error ∈ errorsAfter env (kindOf env fileType)
      (judgedFiles env config fetched fileType) id) : id ∈ fetched := by
  rcases List.mem_filterMap.mp listed with ⟨⟨file, verdict⟩, entryMem, _⟩
  rcases List.mem_filter.mp entryMem with ⟨judged, own⟩
  have sameMail : file.mailId = id := by simpa using own
  rw [← sameMail]
  exact mem_fetched_of_mem_judgedFiles searched judged

/-- Errors are recorded for the fetched mails only. -/
theorem mem_fetched_of_finishedErrors (searched : SearchedMails env config fetched) {id : String}
    (failed : finishedErrors env config fetched id ≠ []) : id ∈ fetched := by
  rcases List.exists_mem_of_ne_nil _ failed with ⟨error, listed⟩
  rcases List.mem_append.mp listed with xml | json
  · exact mem_fetched_of_mem_errorsAfter searched .xml xml
  · exact mem_fetched_of_mem_errorsAfter searched .json json

end Process

section Update

variable {env : Externals} (processed : Processed) (timestamp : UInt64) (elapsed : Float)
  (state : AppState)

/-- The first replacement is the only one which announces nothing and the only
one which changes the flag. -/
theorem replaceState_eq : replaceState processed timestamp elapsed state =
    (if state.firstUpdate then [] else
        processed.mails.keys.filter fun id => !state.mails.keys.contains id,
      { state with
        firstUpdate := false
        dmarcReports := processed.dmarcReports
        tlsReports := processed.tlsReports
        lastUpdate := timestamp
        xmlFiles := processed.xmlFiles
        jsonFiles := processed.jsonFiles
        parsingErrors := processed.parsingErrors
        mails := processed.mails
        lastUpdateDuration := elapsed }) := by
  cases first : state.firstUpdate <;> simp [replaceState, first]

@[simp]
theorem mails_replaceState :
    (replaceState processed timestamp elapsed state).2.mails = processed.mails := by
  rw [replaceState_eq]

@[simp]
theorem reports_replaceState (fileType : FileType) :
    (replaceState processed timestamp elapsed state).2.reports fileType =
      processed.reports fileType := by
  rw [replaceState_eq]
  cases fileType <;> rfl

@[simp]
theorem fileCount_replaceState (fileType : FileType) :
    (replaceState processed timestamp elapsed state).2.fileCount fileType =
      processed.fileCount fileType := by
  rw [replaceState_eq]
  cases fileType <;> rfl

@[simp]
theorem parsingErrors_replaceState :
    (replaceState processed timestamp elapsed state).2.parsingErrors =
      processed.parsingErrors := by
  rw [replaceState_eq]

@[simp]
theorem firstUpdate_replaceState :
    (replaceState processed timestamp elapsed state).2.firstUpdate = false := by
  rw [replaceState_eq]

/-- The new mails are those which the state did not know before. -/
theorem mem_new_replaceState {id : String} :
    id ∈ (replaceState processed timestamp elapsed state).1 ↔
      state.firstUpdate = false ∧ id ∈ processed.mails ∧ id ∉ state.mails := by
  rw [replaceState_eq]
  cases first : state.firstUpdate <;> simp

theorem nodup_new_replaceState : (replaceState processed timestamp elapsed state).1.Nodup := by
  rw [replaceState_eq]
  cases first : state.firstUpdate with
  | true => exact List.nodup_nil
  | false => exact Std.ExtTreeMap.nodup_keys.filter _

/-- An update either fails and leaves the state as it is, or it replaces the
results in the state by those of the mails it fetched. -/
theorem bgUpdate_cases (attempt : Attempt env) :
    (∃ error, prepareUpdate env attempt = .error error ∧
        bgUpdate env attempt state = (.error error, state)) ∨
      (∃ fetched processed timestamp,
        prepareUpdate env attempt = .ok (processed, timestamp) ∧
        fetchMails attempt.config attempt.inbox attempt.order = .ok fetched ∧
        SearchedMails env attempt.config fetched ∧
        ProcessOutcome env attempt.config fetched processed ∧
        bgUpdate env attempt state =
          (.ok (replaceState processed timestamp attempt.elapsed state).1,
            (replaceState processed timestamp attempt.elapsed state).2)) := by
  cases prepared : prepareUpdate env attempt with
  | error error => exact Or.inl ⟨error, rfl, by simp [bgUpdate, prepared]⟩
  | ok result =>
      rcases result with ⟨processed, timestamp⟩
      have steps := prepared
      simp only [prepareUpdate, Fallible.bind_eq_ok_iff, Fallible.pure_eq_ok_iff] at steps
      rcases steps with ⟨fetched, fetchedOk, processedHere, processedOk, _, _, same⟩
      cases same
      have searched := searchedMails_fetchMails attempt.fromImap fetchedOk
      rcases processMails_outcome searched with ⟨expected, expectedOk, outcome⟩
      rw [processedOk] at expectedOk
      cases expectedOk
      exact Or.inr ⟨fetched, processed, timestamp, rfl, fetchedOk, searched, outcome,
        by simp [bgUpdate, prepared]⟩

end Update

end DmarcReportViewer
