import DmarcReportViewer.Background
import DmarcReportViewer.Lib.FirstWins

/-!
# What the parsing loops compute

A parsing loop is the first-wins filter on the file list, with the organization
and ID of a parsed report as key of a file.  `parseFiles_eq_foldl` shows that the
loop never fails when the mails of all files are known, and that it records the
verdicts of the filter one after the other.  The remaining theorems read off
from the verdicts what the loop leaves in the report map, in the mails and in
the error map.
-/

namespace DmarcReportViewer

open Collections FirstWins

variable {ρ : Type}

/-- The key under which a file takes part in the duplicate filter: none if it
cannot be parsed. -/
def ReportKind.key? (kind : ReportKind ρ) (file : ReportFile) : Option String :=
  match kind.fromSlice file.data with
  | .ok report => some (kind.duplKey report)
  | .error _ => none

theorem ReportKind.key?_eq_none_iff {kind : ReportKind ρ} {file : ReportFile} :
    kind.key? file = none ↔ ∃ error, kind.fromSlice file.data = .error error := by
  simp only [ReportKind.key?]
  split <;> simp_all

theorem ReportKind.key?_eq_some_iff {kind : ReportKind ρ} {file : ReportFile} {name : String} :
    kind.key? file = some name ↔
      ∃ report, kind.fromSlice file.data = .ok report ∧ kind.duplKey report = name := by
  simp only [ReportKind.key?]
  split <;> simp_all

/-- The verdicts of the duplicate filter on the files of an update. -/
def ReportKind.judge (kind : ReportKind ρ) (config : Configuration) (files : List ReportFile) :
    List (ReportFile × Verdict ReportFile) :=
  verdicts kind.key? (!config.disableDuplicateFilter) [] files

/-- The effect of a verdict on the mail of the file. -/
def recordInMail (env : Externals) (kind : ReportKind ρ) (mail : Mail)
    (entry : ReportFile × Verdict ReportFile) : Mail :=
  match entry.2 with
  | .skipped => mail.countParsingError kind.fileType
  | .repeats leader => mail.pushDuplicate kind.fileType (reportHash env leader)
  | .first => mail

/-- The entry of the report map which a verdict gives rise to. -/
def keptReport (env : Externals) (kind : ReportKind ρ) (entry : ReportFile × Verdict ReportFile) :
    Option (String × ReportWithMailId ρ) :=
  match entry.2, kind.fromSlice entry.1.data with
  | .first, .ok report =>
      some (reportHash env entry.1, { mailId := entry.1.mailId, report := report })
  | _, _ => none

/-- The error which a verdict gives rise to. -/
def parsingError (env : Externals) (kind : ReportKind ρ)
    (entry : ReportFile × Verdict ReportFile) : Option ReportParsingError :=
  match entry.2, kind.fromSlice entry.1.data with
  | .skipped, .error error =>
      some { error := error, report := env.fromUtf8Lossy entry.1.data, kind := kind.fileType }
  | _, _ => none

/-- The effect of a verdict on the state of the loop. -/
def ParseState.record (env : Externals) (kind : ReportKind ρ) (config : Configuration)
    (state : ParseState ρ) (entry : ReportFile × Verdict ReportFile) : ParseState ρ where
  mails := state.mails.modify entry.1.mailId fun mail => recordInMail env kind mail entry
  parsingErrors :=
    match parsingError env kind entry with
    | some error =>
        state.parsingErrors.insert entry.1.mailId
          ((state.parsingErrors[entry.1.mailId]?).getD [] ++ [error])
    | none => state.parsingErrors
  reports :=
    match keptReport env kind entry with
    | some kept => state.reports.insert kept.1 kept.2
    | none => state.reports
  duplicationMap :=
    match keptReport env kind entry with
    | some kept =>
        if config.disableDuplicateFilter then
          state.duplicationMap
        else
          state.duplicationMap.insert (kind.duplKey kept.2.report) kept.1
    | none => state.duplicationMap

/-- The duplication map holds the report hashes of the first items seen. -/
def ParseState.Linked (env : Externals) (kind : ReportKind ρ) (config : Configuration)
    (seen : List ReportFile) (state : ParseState ρ) : Prop :=
  ∀ name : String, state.duplicationMap[name]? =
    (leader? kind.key? (!config.disableDuplicateFilter) seen name).map (reportHash env)

section Loop

variable {env : Externals} {kind : ReportKind ρ} {config : Configuration} {seen : List ReportFile}
  {state : ParseState ρ}

theorem insert_eq_modify {mails : BTreeMap String Mail} {id : String} {mail : Mail}
    (present : mails[id]? = some mail) (change : Mail → Mail) :
    mails.insert id (change mail) = mails.modify id change := by
  apply Std.ExtTreeMap.ext_getElem?
  intro other
  rw [Std.ExtTreeMap.getElem?_insert, Std.ExtTreeMap.getElem?_modify]
  split
  · next same =>
      have sameId := Std.compare_eq_iff_eq.mp same
      subst sameId
      simp [present]
  · rfl

theorem modify_id (mails : BTreeMap String Mail) (id : String) :
    (mails.modify id fun mail => mail) = mails := by
  apply Std.ExtTreeMap.ext_getElem?
  intro other
  rw [Std.ExtTreeMap.getElem?_modify]
  split
  · next same =>
      have sameId := Std.compare_eq_iff_eq.mp same
      subst sameId
      simp
  · rfl

theorem parseFile_of_skipped {file : ReportFile} (unkeyed : kind.key? file = none)
    (known : file.mailId ∈ state.mails) :
    parseFile env kind config state file = .ok (state.record env kind config (file, .skipped)) := by
  rcases ReportKind.key?_eq_none_iff.mp unkeyed with ⟨error, failed⟩
  rcases Option.isSome_iff_exists.mp (Std.ExtTreeMap.mem_iff_isSome_getElem?.mp known) with
    ⟨mail, present⟩
  have counted := insert_eq_modify present fun mail => mail.countParsingError kind.fileType
  simp only [parseFile, failed, present, orError, ParseState.record, parsingError, keptReport,
    recordInMail, pushError, bind, Except.bind, pure, Except.pure]
  rw [counted]

theorem parseFile_of_repeats {file leader : ReportFile} {name : String}
    (linked : state.Linked env kind config seen) (keyed : kind.key? file = some name)
    (repeated : leader? kind.key? (!config.disableDuplicateFilter) seen name = some leader) :
    parseFile env kind config state file =
      .ok (state.record env kind config (file, .repeats leader)) := by
  rcases ReportKind.key?_eq_some_iff.mp keyed with ⟨report, parsed, rfl⟩
  have enabled : config.disableDuplicateFilter = false := by
    cases filter : config.disableDuplicateFilter with
    | false => rfl
    | true => simp [filter] at repeated
  have found := linked (kind.duplKey report)
  rw [repeated] at found
  simp [parseFile, parsed, enabled, found, ParseState.record, parsingError, keptReport,
    recordInMail]

theorem parseFile_of_first {file : ReportFile} {name : String}
    (linked : state.Linked env kind config seen) (keyed : kind.key? file = some name)
    (fresh : leader? kind.key? (!config.disableDuplicateFilter) seen name = none) :
    parseFile env kind config state file = .ok (state.record env kind config (file, .first)) := by
  rcases ReportKind.key?_eq_some_iff.mp keyed with ⟨report, parsed, rfl⟩
  have missing := linked (kind.duplKey report)
  rw [fresh] at missing
  cases filter : config.disableDuplicateFilter <;>
    simp [parseFile, parsed, filter, missing, ParseState.record, parsingError, keptReport,
      recordInMail, modify_id]

theorem ParseState.Linked.record_of_not_first {entry : ReportFile × Verdict ReportFile}
    (linked : state.Linked env kind config seen) (notFirst : entry.2 ≠ .first) :
    (state.record env kind config entry).Linked env kind config seen := by
  intro name
  have unchanged : keptReport env kind entry = none := by
    simp only [keptReport]
    split
    · next isFirst _ => exact absurd isFirst notFirst
    · rfl
  simpa [ParseState.record, unchanged] using linked name

theorem ParseState.Linked.record_of_first {file : ReportFile} {name : String}
    (linked : state.Linked env kind config seen) (keyed : kind.key? file = some name)
    (fresh : leader? kind.key? (!config.disableDuplicateFilter) seen name = none) :
    (state.record env kind config (file, .first)).Linked env kind config (seen ++ [file]) := by
  intro other
  rcases ReportKind.key?_eq_some_iff.mp keyed with ⟨report, parsed, rfl⟩
  have before := linked other
  cases filter : config.disableDuplicateFilter with
  | true => simpa [ParseState.record, keptReport, parsed, filter] using before
  | false =>
      simp only [filter, leader?, Bool.not_false, if_true] at before fresh
      simp only [ParseState.record, keptReport, parsed, filter, leader?, Bool.not_false, if_true,
        Bool.false_eq_true, if_false, Std.ExtTreeMap.getElem?_insert, List.find?_append]
      by_cases same : kind.duplKey report = other
      · subst same
        simp [fresh, keyed]
      · simp [same, keyed, before]

/-- After a list of files the duplication map holds the hashes of its first files. -/
theorem ParseState.Linked.foldl_record (linked : state.Linked env kind config seen)
    (files : List ReportFile) :
    ((verdicts kind.key? (!config.disableDuplicateFilter) seen files).foldl
        (ParseState.record env kind config) state).Linked env kind config
      (seen ++ leaders kind.key? (!config.disableDuplicateFilter) seen files) := by
  induction files generalizing state seen with
  | nil => simpa [verdicts, leaders] using linked
  | cons file files ih =>
      rcases verdicts_cons_cases kind.key? (!config.disableDuplicateFilter) seen file files with
        ⟨_, same⟩ | ⟨_, leader, _, _, same⟩ | ⟨_, keyed, fresh, same⟩
      · have stillLinked : (state.record env kind config (file, .skipped)).Linked env kind
            config seen := linked.record_of_not_first (by simp)
        have rest := ih stillLinked
        simpa [leaders, same] using rest
      · have stillLinked : (state.record env kind config (file, .repeats leader)).Linked env
            kind config seen := linked.record_of_not_first (by simp)
        have rest := ih stillLinked
        simpa [leaders, same] using rest
      · have rest := ih (linked.record_of_first keyed fresh)
        simpa [leaders, same] using rest

theorem mem_mails_record {entry : ReportFile × Verdict ReportFile} {id : String} :
    id ∈ (state.record env kind config entry).mails ↔ id ∈ state.mails := by
  simp only [ParseState.record]
  exact Std.ExtTreeMap.mem_modify

/-- A parsing loop records the verdicts of the duplicate filter, and it cannot
fail as long as the mails of all files are known. -/
theorem parseFiles_eq_foldl {files : List ReportFile}
    (linked : state.Linked env kind config seen)
    (known : ∀ file ∈ files, file.mailId ∈ state.mails) :
    parseFiles env kind config files state =
      .ok ((verdicts kind.key? (!config.disableDuplicateFilter) seen files).foldl
        (ParseState.record env kind config) state) := by
  induction files generalizing state seen with
  | nil => rfl
  | cons file files ih =>
      have restKnown : ∀ entry : ReportFile × Verdict ReportFile, ∀ other ∈ files,
          other.mailId ∈ (state.record env kind config entry).mails := by
        intro entry other member
        exact mem_mails_record.mpr (known other (List.mem_cons_of_mem _ member))
      rcases verdicts_cons_cases kind.key? (!config.disableDuplicateFilter) seen file files with
        ⟨unkeyed, same⟩ | ⟨name, leader, keyed, repeated, same⟩ | ⟨name, keyed, fresh, same⟩
      · have step : parseFile env kind config state file = _ :=
          parseFile_of_skipped unkeyed (known file List.mem_cons_self)
        have stillLinked : (state.record env kind config (file, .skipped)).Linked env kind
            config seen := linked.record_of_not_first (by simp)
        have rest := ih stillLinked (restKnown _)
        simp only [parseFiles, List.foldlM_cons, step, same, List.foldl_cons] at rest ⊢
        exact rest
      · have step := parseFile_of_repeats linked keyed repeated
        have stillLinked : (state.record env kind config (file, .repeats leader)).Linked env
            kind config seen := linked.record_of_not_first (by simp)
        have rest := ih stillLinked (restKnown _)
        simp only [parseFiles, List.foldlM_cons, step, same, List.foldl_cons] at rest ⊢
        exact rest
      · have step := parseFile_of_first linked keyed fresh
        have rest := ih (linked.record_of_first keyed fresh) (restKnown _)
        simp only [parseFiles, List.foldlM_cons, step, same, List.foldl_cons] at rest ⊢
        exact rest

theorem ParseState.linked_start (mails : BTreeMap String Mail)
    (parsingErrors : HashMap String (List ReportParsingError)) :
    (ParseState.start ρ mails parsingErrors).Linked env kind config [] := by
  intro name
  simp [ParseState.start, leader?]

end Loop

section Outcome

variable {env : Externals} {kind : ReportKind ρ} {config : Configuration}

/-- What became of one mail in a parsing loop. -/
def mailAfter (env : Externals) (kind : ReportKind ρ)
    (judged : List (ReportFile × Verdict ReportFile)) (id : String) (mail : Mail) : Mail :=
  (judged.filter fun entry => entry.1.mailId = id).foldl (recordInMail env kind) mail

/-- The errors which a parsing loop recorded for one mail. -/
def errorsAfter (env : Externals) (kind : ReportKind ρ)
    (judged : List (ReportFile × Verdict ReportFile)) (id : String) : List ReportParsingError :=
  (judged.filter fun entry => entry.1.mailId = id).filterMap (parsingError env kind)

/-- The outcome of a parsing loop, read off from the verdicts. -/
structure ParseOutcome (env : Externals) (kind : ReportKind ρ) (config : Configuration)
    (files : List ReportFile) (mails : BTreeMap String Mail)
    (parsingErrors : HashMap String (List ReportParsingError)) (finish : ParseState ρ) :
    Prop where
  mails : ∀ id : String, finish.mails[id]? =
    mails[id]?.map (mailAfter env kind (kind.judge config files) id)
  reports : finish.reports =
    (∅ : BTreeMap String (ReportWithMailId ρ)).insertMany
      ((kind.judge config files).filterMap (keptReport env kind))
  parsingErrors : ∀ id : String, finish.parsingErrors[id]? =
    if errorsAfter env kind (kind.judge config files) id = [] then
      parsingErrors[id]?
    else
      some (parsingErrors[id]?.getD [] ++ errorsAfter env kind (kind.judge config files) id)

theorem mailAfter_cons (entry : ReportFile × Verdict ReportFile)
    (judged : List (ReportFile × Verdict ReportFile)) (id : String) (mail : Mail) :
    mailAfter env kind (entry :: judged) id mail =
      mailAfter env kind judged id
        (if entry.1.mailId = id then recordInMail env kind mail entry else mail) := by
  by_cases same : entry.1.mailId = id <;> simp [mailAfter, same]

theorem errorsAfter_cons (entry : ReportFile × Verdict ReportFile)
    (judged : List (ReportFile × Verdict ReportFile)) (id : String) :
    errorsAfter env kind (entry :: judged) id =
      (if entry.1.mailId = id then (parsingError env kind entry).toList else []) ++
        errorsAfter env kind judged id := by
  by_cases same : entry.1.mailId = id
  · cases failed : parsingError env kind entry <;> simp [errorsAfter, same, failed]
  · simp [errorsAfter, same]

theorem mails_foldl_record (judged : List (ReportFile × Verdict ReportFile))
    (state : ParseState ρ) (id : String) :
    (judged.foldl (ParseState.record env kind config) state).mails[id]? =
      state.mails[id]?.map (mailAfter env kind judged id) := by
  induction judged generalizing state with
  | nil =>
      have unchanged : mailAfter env kind [] id = fun mail => mail := rfl
      simp [unchanged]
  | cons entry judged ih =>
      rw [List.foldl_cons, ih]
      simp only [ParseState.record, Std.ExtTreeMap.getElem?_modify, Std.compare_eq_iff_eq]
      by_cases same : entry.1.mailId = id
      · subst same
        cases state.mails[entry.1.mailId]? <;> simp [mailAfter_cons]
      · cases state.mails[id]? <;> simp [mailAfter_cons, same]

theorem reports_foldl_record (judged : List (ReportFile × Verdict ReportFile))
    (state : ParseState ρ) :
    (judged.foldl (ParseState.record env kind config) state).reports =
      state.reports.insertMany (judged.filterMap (keptReport env kind)) := by
  induction judged generalizing state with
  | nil => simp
  | cons entry judged ih =>
      rw [List.foldl_cons, ih, List.filterMap_cons]
      cases kept : keptReport env kind entry with
      | none => simp only [ParseState.record, kept]
      | some report =>
          simp only [ParseState.record, kept]
          rw [Std.ExtTreeMap.insertMany_cons]

theorem parsingErrors_foldl_record (judged : List (ReportFile × Verdict ReportFile))
    (state : ParseState ρ) (id : String) :
    (judged.foldl (ParseState.record env kind config) state).parsingErrors[id]? =
      if errorsAfter env kind judged id = [] then
        state.parsingErrors[id]?
      else
        some (state.parsingErrors[id]?.getD [] ++ errorsAfter env kind judged id) := by
  induction judged generalizing state with
  | nil => simp [errorsAfter]
  | cons entry judged ih =>
      rw [List.foldl_cons, ih, errorsAfter_cons]
      cases failed : parsingError env kind entry with
      | none => simp [ParseState.record, failed]
      | some error =>
          simp only [ParseState.record, failed, Std.ExtTreeMap.getElem?_insert,
            Std.compare_eq_iff_eq]
          by_cases same : entry.1.mailId = id
          · subst same
            by_cases more : errorsAfter env kind judged entry.1.mailId = [] <;> simp [more]
          · simp [same]

/-- The specification of a parsing loop from the start. -/
theorem parseFiles_outcome {files : List ReportFile} {mails : BTreeMap String Mail}
    {parsingErrors : HashMap String (List ReportParsingError)}
    (known : ∀ file ∈ files, file.mailId ∈ mails) :
    ∃ finish, parseFiles env kind config files (ParseState.start ρ mails parsingErrors) =
        .ok finish ∧
      ParseOutcome env kind config files mails parsingErrors finish := by
  refine ⟨_, parseFiles_eq_foldl (ParseState.linked_start mails parsingErrors) known, ?_⟩
  refine ⟨?_, ?_, ?_⟩
  · exact mails_foldl_record _ _
  · exact reports_foldl_record _ _
  · exact parsingErrors_foldl_record _ _

/-- The verdicts on files which cannot be parsed are those with an error. -/
theorem parsingError_isSome_iff {files : List ReportFile}
    {entry : ReportFile × Verdict ReportFile} (judged : entry ∈ kind.judge config files) :
    (parsingError env kind entry).isSome ↔ entry.2 = .skipped := by
  rcases entry with ⟨file, verdict⟩
  have unkeyed := key_of_mem_verdicts judged
  constructor
  · intro failed
    unfold parsingError at failed
    split at failed
    · assumption
    · cases failed
  · intro skipped
    simp only at skipped
    subst skipped
    rcases ReportKind.key?_eq_none_iff.mp (unkeyed.mp rfl) with ⟨error, failed⟩
    simp [parsingError, failed]

variable (env) in
/-- Every first file gives rise to an entry of the report map. -/
theorem keptReport_of_first {files : List ReportFile} {file : ReportFile}
    (judged : (file, .first) ∈ kind.judge config files) :
    ∃ report, kind.fromSlice file.data = .ok report ∧
      keptReport env kind (file, .first) =
        some (reportHash env file, { mailId := file.mailId, report := report }) := by
  have keyed : kind.key? file ≠ none := by
    intro unkeyed
    have skipped := (key_of_mem_verdicts judged).mpr unkeyed
    cases skipped
  rcases Option.ne_none_iff_exists'.mp keyed with ⟨name, hasName⟩
  rcases ReportKind.key?_eq_some_iff.mp hasName with ⟨report, parsed, _⟩
  exact ⟨report, parsed, by simp [keptReport, parsed]⟩

theorem kind_of_parsingError {entry : ReportFile × Verdict ReportFile}
    {error : ReportParsingError} (failed : parsingError env kind entry = some error) :
    error.kind = kind.fileType := by
  simp only [parsingError] at failed
  split at failed
  · cases failed
    rfl
  · cases failed

theorem keptReport_eq_some_iff {entry : ReportFile × Verdict ReportFile}
    {kept : String × ReportWithMailId ρ} :
    keptReport env kind entry = some kept ↔
      entry.2 = .first ∧ ∃ report, kind.fromSlice entry.1.data = .ok report ∧
        kept = (reportHash env entry.1, { mailId := entry.1.mailId, report := report }) := by
  rcases entry with ⟨file, verdict⟩
  cases parsed : kind.fromSlice file.data <;> cases verdict <;>
    simp [keptReport, parsed, eq_comm]

end Outcome

end DmarcReportViewer
