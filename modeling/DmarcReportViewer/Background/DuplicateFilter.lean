import DmarcReportViewer.Background.Accounting

/-!
# The duplicate filter

The filter compares the organization and the ID of a report by the text which
results from writing one behind the other.  `filterExact_iff` says when this
tells different reports apart.
-/

namespace DmarcReportViewer

open Collections FirstWins

section Exactness

variable {ρ : Type}

/-- What identifies a report. -/
def ReportKind.identity (kind : ReportKind ρ) (report : ρ) : String × String :=
  (kind.organization report, kind.reportId report)

theorem ReportKind.duplKey_eq_of_identity_eq (kind : ReportKind ρ) {left right : ρ}
    (same : kind.identity left = kind.identity right) :
    kind.duplKey left = kind.duplKey right := by
  simp only [ReportKind.identity, Prod.mk.injEq] at same
  simp only [ReportKind.duplKey, same.1, same.2]

/-- One of the files contains a report with the same organization and ID. -/
def ReportKind.SentBefore (kind : ReportKind ρ) (before : List ReportFile) (report : ρ) : Prop :=
  ∃ earlier ∈ before, ∃ other, kind.fromSlice earlier.data = .ok other ∧
    kind.identity other = kind.identity report

/-- A parsing loop drops exactly the reports with the organization and the ID of
a report it has seen, and it keeps all others. -/
def FilterExact (env : Externals) (kind : ReportKind ρ) (config : Configuration)
    (start : ParseState ρ) (files : List ReportFile) : Prop :=
  ∀ (before after : List ReportFile) (file : ReportFile) (report : ρ) (state next : ParseState ρ),
    files = before ++ file :: after → kind.fromSlice file.data = .ok report →
      parseFiles env kind config before start = .ok state →
        parseFile env kind config state file = .ok next →
          (kind.SentBefore before report → next.reports = state.reports) ∧
          (¬ kind.SentBefore before report → next.reports =
            state.reports.insert (reportHash env file) { mailId := file.mailId, report := report })

/-- Different organizations and IDs of the files give different texts. -/
def ReportKind.Unambiguous (kind : ReportKind ρ) (files : List ReportFile) : Prop :=
  ∀ left ∈ files, ∀ right ∈ files, ∀ leftReport rightReport,
    kind.fromSlice left.data = .ok leftReport → kind.fromSlice right.data = .ok rightReport →
      kind.duplKey leftReport = kind.duplKey rightReport →
        kind.identity leftReport = kind.identity rightReport

variable {env : Externals} {kind : ReportKind ρ} {config : Configuration}
  {mails : BTreeMap String Mail} {parsingErrors : HashMap String (List ReportParsingError)}

/-- The state of a parsing loop before a file. -/
theorem parseFiles_before {before : List ReportFile} {state : ParseState ρ}
    (known : ∀ file ∈ before, file.mailId ∈ mails)
    (parsed : parseFiles env kind config before (ParseState.start ρ mails parsingErrors) =
      .ok state) :
    state = (kind.judge config before).foldl (ParseState.record env kind config)
        (ParseState.start ρ mails parsingErrors) ∧
      state.Linked env kind config
        (leaders kind.key? (!config.disableDuplicateFilter) [] before) := by
  have linked : (ParseState.start ρ mails parsingErrors).Linked env kind config [] :=
    ParseState.linked_start mails parsingErrors
  have judged := parseFiles_eq_foldl linked known
  rw [parsed] at judged
  cases judged
  exact ⟨rfl, linked.foldl_record before⟩

/-- Every report that a parsing loop has kept comes from a file it has seen. -/
theorem parsed_of_mem_reports {before : List ReportFile} {state : ParseState ρ}
    (known : ∀ file ∈ before, file.mailId ∈ mails)
    (parsed : parseFiles env kind config before (ParseState.start ρ mails parsingErrors) =
      .ok state) {hash : String} {rwi : ReportWithMailId ρ}
    (found : state.reports[hash]? = some rwi) :
    ∃ file ∈ before, kind.fromSlice file.data = .ok rwi.report := by
  rw [(parseFiles_before known parsed).1, reports_foldl_record] at found
  rcases mem_or_getElem?_of_insertMany found with listed | empty
  · rcases List.mem_filterMap.mp listed with ⟨⟨file, verdict⟩, judged, kept⟩
    rcases keptReport_eq_some_iff.mp kept with ⟨_, report, parsedHere, same⟩
    cases same
    exact ⟨file, mem_of_mem_verdicts judged, parsedHere⟩
  · simp [ParseState.start] at empty

/-- With the filter on, a file is dropped if an earlier one has the same text. -/
theorem reports_parseFile_of_seen (enabled : config.disableDuplicateFilter = false)
    {before : List ReportFile} {file : ReportFile} {report : ρ} {state next : ParseState ρ}
    (linked : state.Linked env kind config
      (leaders kind.key? (!config.disableDuplicateFilter) [] before))
    (parsed : kind.fromSlice file.data = .ok report)
    (stepped : parseFile env kind config state file = .ok next)
    (seen : ∃ earlier ∈ before, kind.key? earlier = some (kind.duplKey report)) :
    next.reports = state.reports := by
  have keyed : kind.key? file = some (kind.duplKey report) :=
    ReportKind.key?_eq_some_iff.mpr ⟨report, parsed, rfl⟩
  have found := leader?_after_isSome_iff.mpr seen
  rcases Option.isSome_iff_exists.mp found with ⟨leader, repeated⟩
  have judged := parseFile_of_repeats linked keyed (by simpa [enabled] using repeated)
  rw [stepped] at judged
  cases judged
  rfl

/-- With the filter on, a file is kept if no earlier one has the same text. -/
theorem reports_parseFile_of_unseen (enabled : config.disableDuplicateFilter = false)
    {before : List ReportFile} {file : ReportFile} {report : ρ} {state next : ParseState ρ}
    (linked : state.Linked env kind config
      (leaders kind.key? (!config.disableDuplicateFilter) [] before))
    (parsed : kind.fromSlice file.data = .ok report)
    (stepped : parseFile env kind config state file = .ok next)
    (unseen : ¬ ∃ earlier ∈ before, kind.key? earlier = some (kind.duplKey report)) :
    next.reports =
      state.reports.insert (reportHash env file) { mailId := file.mailId, report := report } := by
  have keyed : kind.key? file = some (kind.duplKey report) :=
    ReportKind.key?_eq_some_iff.mpr ⟨report, parsed, rfl⟩
  have fresh : leader? kind.key? true (leaders kind.key? true [] before) (kind.duplKey report) =
      none := by
    apply Option.not_isSome_iff_eq_none.mp
    intro found
    exact unseen (leader?_after_isSome_iff.mp found)
  have judged := parseFile_of_first linked keyed (by simpa [enabled] using fresh)
  rw [stepped] at judged
  cases judged
  simp [ParseState.record, keptReport, parsed]

theorem ReportKind.SentBefore.seen {before : List ReportFile} {report : ρ}
    (sent : kind.SentBefore before report) :
    ∃ earlier ∈ before, kind.key? earlier = some (kind.duplKey report) := by
  rcases sent with ⟨earlier, earlierMem, other, parsed, same⟩
  exact ⟨earlier, earlierMem,
    ReportKind.key?_eq_some_iff.mpr ⟨other, parsed, kind.duplKey_eq_of_identity_eq same⟩⟩

theorem filterExact_of_unambiguous (enabled : config.disableDuplicateFilter = false)
    {files : List ReportFile} (known : ∀ file ∈ files, file.mailId ∈ mails)
    (unambiguous : kind.Unambiguous files) :
    FilterExact env kind config (ParseState.start ρ mails parsingErrors) files := by
  intro before after file report state next split parsed parsedBefore stepped
  have beforeMem : ∀ other ∈ before, other ∈ files := by
    intro other member
    rw [split]
    exact List.mem_append_left _ member
  have linked := (parseFiles_before (fun other member => known other (beforeMem other member))
    parsedBefore).2
  refine ⟨?_, ?_⟩
  · intro sent
    exact reports_parseFile_of_seen enabled linked parsed stepped sent.seen
  · intro unsent
    apply reports_parseFile_of_unseen enabled linked parsed stepped
    rintro ⟨earlier, earlierMem, keyed⟩
    rcases ReportKind.key?_eq_some_iff.mp keyed with ⟨other, otherParsed, sameText⟩
    have fileMem : file ∈ files := by
      rw [split]
      exact List.mem_append_right _ List.mem_cons_self
    exact unsent ⟨earlier, earlierMem, other, otherParsed,
      unambiguous earlier (beforeMem earlier earlierMem) file fileMem other report otherParsed
        parsed sameText⟩

/-- If the loop is exact, then a file which agrees with an earlier one in the
text also agrees with an earlier one in organization and ID: the loop would have
to keep the file otherwise, but it drops it. -/
theorem FilterExact.sentBefore (enabled : config.disableDuplicateFilter = false)
    {files : List ReportFile} (known : ∀ file ∈ files, file.mailId ∈ mails)
    (exact : FilterExact env kind config (ParseState.start ρ mails parsingErrors) files)
    {before after : List ReportFile} {file : ReportFile} {report : ρ}
    (split : files = before ++ file :: after) (parsed : kind.fromSlice file.data = .ok report)
    (seen : ∃ earlier ∈ before, kind.key? earlier = some (kind.duplKey report)) :
    kind.SentBefore before report := by
  by_contra unsent
  have knownBefore : ∀ other ∈ before, other.mailId ∈ mails := by
    intro other member
    apply known
    rw [split]
    exact List.mem_append_left _ member
  have linked : (ParseState.start ρ mails parsingErrors).Linked env kind config [] :=
    ParseState.linked_start mails parsingErrors
  have parsedBefore := parseFiles_eq_foldl linked knownBefore
  have linkedBefore := (parseFiles_before knownBefore parsedBefore).2
  rcases Option.isSome_iff_exists.mp (leader?_after_isSome_iff.mpr seen) with ⟨leader, repeated⟩
  have stepped := parseFile_of_repeats linkedBefore
    (ReportKind.key?_eq_some_iff.mpr ⟨report, parsed, rfl⟩) (by simpa [enabled] using repeated)
  have dropped := reports_parseFile_of_seen enabled linkedBefore parsed stepped seen
  have kept := (exact before after file report _ _ split parsed parsedBefore stepped).2 unsent
  rw [dropped] at kept
  have found := congrArg (fun reports => reports[reportHash env file]?) kept
  simp only [Std.ExtTreeMap.getElem?_insert_self] at found
  rcases parsed_of_mem_reports knownBefore parsedBefore found with ⟨earlier, earlierMem, same⟩
  exact unsent ⟨earlier, earlierMem, report, same, rfl⟩

theorem unambiguous_of_filterExact (enabled : config.disableDuplicateFilter = false)
    {files : List ReportFile} (known : ∀ file ∈ files, file.mailId ∈ mails)
    (exact : FilterExact env kind config (ParseState.start ρ mails parsingErrors) files) :
    kind.Unambiguous files := by
  have upTo : ∀ before after : List ReportFile, files = before ++ after →
      kind.Unambiguous before := by
    intro before
    induction before using List.reverseRecOn with
    | nil =>
        intro after split left leftMem
        cases leftMem
    | append_singleton before file ih =>
        intro after split
        rw [List.append_assoc, List.singleton_append] at split
        have earlier := ih (file :: after) split
        -- The new file agrees with an earlier one of the same text.
        have agrees : ∀ other ∈ before, ∀ otherReport report,
            kind.fromSlice other.data = .ok otherReport → kind.fromSlice file.data = .ok report →
              kind.duplKey otherReport = kind.duplKey report →
                kind.identity otherReport = kind.identity report := by
          intro other otherMem otherReport report otherParsed parsed sameText
          have seen : kind.key? other = some (kind.duplKey report) :=
            ReportKind.key?_eq_some_iff.mpr ⟨otherReport, otherParsed, sameText⟩
          have sent := exact.sentBefore enabled known split parsed ⟨other, otherMem, seen⟩
          rcases sent with ⟨first, firstMem, firstReport, firstParsed, same⟩
          rw [← same]
          apply earlier other otherMem first firstMem otherReport firstReport otherParsed
            firstParsed
          rw [sameText, kind.duplKey_eq_of_identity_eq same]
        intro left leftMem right rightMem leftReport rightReport leftParsed rightParsed sameText
        rcases List.mem_append.mp leftMem with leftOld | leftNew
        · rcases List.mem_append.mp rightMem with rightOld | rightNew
          · exact earlier left leftOld right rightOld leftReport rightReport leftParsed
              rightParsed sameText
          · rw [List.mem_singleton.mp rightNew] at rightParsed
            exact agrees left leftOld leftReport rightReport leftParsed rightParsed sameText
        · rw [List.mem_singleton.mp leftNew] at leftParsed
          rcases List.mem_append.mp rightMem with rightOld | rightNew
          · exact (agrees right rightOld rightReport leftReport rightParsed leftParsed
              sameText.symm).symm
          · rw [List.mem_singleton.mp rightNew, leftParsed] at rightParsed
            cases rightParsed
            rfl
  exact upTo files [] (List.append_nil files).symm

end Exactness

/-- With the filter on, the loop over a file map is exact for both report types
if and only if the files are unambiguous. -/
theorem filterExact_iff (env : Externals) {config : Configuration}
    (enabled : config.disableDuplicateFilter = false) (fileType : FileType)
    {mails : BTreeMap String Mail} (parsingErrors : HashMap String (List ReportParsingError))
    {files : BTreeMap String ReportFile} (known : ∀ file ∈ valueList files, file.mailId ∈ mails) :
    FilterExact env (kindOf env fileType) config (ParseState.start _ mails parsingErrors)
        (valueList files) ↔
      (kindOf env fileType).Unambiguous (valueList files) :=
  ⟨unambiguous_of_filterExact enabled known, filterExact_of_unambiguous enabled known⟩

/-- Two reports with different organizations and different IDs, one in each mail. -/
def sampleFiles : BTreeMap String ReportFile :=
  (∅ : BTreeMap String ReportFile).insertMany (fileEntries .json [
    reportFile sampleEnv (sampleMail 1) .json (sampleJson "Example" "12"),
    reportFile sampleEnv (sampleMail 4) .json (sampleJson "Example1" "2")])

theorem filterExact_iff_sample :
    FilterExact sampleEnv (kindOf sampleEnv .json) sampleConfig
        (ParseState.start _ (sampleMails [1, 4]) ∅) (valueList sampleFiles) ↔
      (kindOf sampleEnv .json).Unambiguous (valueList sampleFiles) :=
  filterExact_iff sampleEnv rfl .json ∅ (by decide +kernel)

/-- Organization `Example` with ID `12` and organization `Example1` with ID `2`
give the same text, so that one of two different reports is dropped. -/
theorem not_filterExact_sample :
    ¬ FilterExact sampleEnv (kindOf sampleEnv .json) sampleConfig
      (ParseState.start _ (sampleMails [1, 4]) ∅) (valueList sampleFiles) := by
  intro exact
  have unambiguous := unambiguous_of_filterExact rfl (by decide +kernel) exact
  have same := unambiguous
    (reportFile sampleEnv (sampleMail 1) .json (sampleJson "Example" "12")) (by decide +kernel)
    (reportFile sampleEnv (sampleMail 4) .json (sampleJson "Example1" "2")) (by decide +kernel)
    (sampleReport "Example" "12") (sampleReport "Example1" "2") (by decide +kernel)
    (by decide +kernel) (by decide +kernel)
  revert same
  decide +kernel

end DmarcReportViewer
