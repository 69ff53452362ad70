import DmarcReportViewer.Background.Outcome
import DmarcReportViewer.Lib.Runs
import DmarcReportViewer.WebHook

/-!
# Whole runs of the background task

The background task tries one update after the other, and between two updates
the handlers of the HTTP server write to the state.  `AppState.Consistent` says
how the maps of the state fit together after any such run, and
`new_mails_of_run` says which mails an update announces as new.
-/

namespace DmarcReportViewer

open Collections FirstWins Runs

/-- A write to the state which is not part of an update. -/
inductive Interlude where
  | schedule (nextUpdate : UInt64)
  | cacheLocation (order : IterationOrder IpAddr (CacheMap.Entry Location)) (ip : IpAddr)
      (location : Location)

/-- A step of the system: an attempted update or a write in between. -/
inductive Event (env : Externals) where
  | update (attempt : Attempt env)
  | interlude (step : Interlude)

def Interlude.apply (step : Interlude) (state : AppState) : AppState :=
  match step with
  | .schedule nextUpdate => { state with nextUpdate := nextUpdate }
  | .cacheLocation order ip location => state.cacheLocation order ip location

def Event.apply {env : Externals} (event : Event env) (state : AppState) : AppState :=
  match event with
  | .update attempt => (bgUpdate env attempt state).2
  | .interlude step => step.apply state

/-- The state after a list of events since the start. -/
def stateAfter {env : Externals} (events : List (Event env)) (startTime : UInt64) : AppState :=
  run Event.apply events (AppState.new startTime)

section Consistency

/-- How the maps of the state fit together. -/
structure AppState.Consistent (state : AppState) : Prop where
  mailIds : ∀ (id : String) (mail : Mail), state.mails[id]? = some mail → mail.id = id
  reportMails : ∀ (fileType : FileType) (hash : String) (rwi : ReportWithMailId _),
    (state.reports fileType)[hash]? = some rwi → rwi.mailId ∈ state.mails
  duplicates : ∀ (fileType : FileType) (id : String) (mail : Mail),
    state.mails[id]? = some mail → ∀ hash ∈ mail.duplicates fileType,
      hash ∈ state.reports fileType
  errorMails : ∀ id : String, id ∈ state.parsingErrors → id ∈ state.mails
  errorCounts : ∀ (fileType : FileType) (id : String) (mail : Mail),
    state.mails[id]? = some mail →
      ((state.parsingErrors[id]?.getD []).filter fun error => error.kind = fileType).length =
        mail.parsingErrors fileType
  bodies : ∀ (id : String) (mail : Mail), state.mails[id]? = some mail → mail.body = none

variable {env : Externals} {config : Configuration} {fetched : BTreeMap String Mail}

theorem AppState.consistent_new (startTime : UInt64) : (AppState.new startTime).Consistent := by
  refine ⟨?_, ?_, ?_, ?_, ?_, ?_⟩
  · intro id mail lookup
    simp [AppState.new] at lookup
  · intro fileType hash rwi lookup
    cases fileType <;> simp [AppState.new, AppState.reports] at lookup
  · intro fileType id mail lookup
    simp [AppState.new] at lookup
  · intro id present
    simp [AppState.new] at present
  · intro fileType id mail lookup
    simp [AppState.new] at lookup
  · intro id mail lookup
    simp [AppState.new] at lookup

/-- What an update of delivered mails writes is consistent. -/
theorem ProcessOutcome.consistent {processed : Processed}
    (outcome : ProcessOutcome env config fetched processed)
    (searched : SearchedMails env config fetched) (timestamp : UInt64) (elapsed : Float)
    (state : AppState) : (replaceState processed timestamp elapsed state).2.Consistent := by
  have finished : ∀ (id : String) (mail : Mail), processed.mails[id]? = some mail →
      ∃ original, fetched[id]? = some original ∧
        mail = finishedMail env config fetched id original := by
    intro id mail lookup
    rw [outcome.mails] at lookup
    rcases Option.map_eq_some_iff.mp lookup with ⟨original, found, same⟩
    exact ⟨original, found, same.symm⟩
  constructor
  case mailIds =>
    intro id mail lookup
    rw [mails_replaceState] at lookup
    rcases finished id mail lookup with ⟨original, found, rfl⟩
    rw [id_finishedMail]
    exact (searched id original found).1
  case reportMails =>
    intro fileType hash rwi lookup
    rw [reports_replaceState] at lookup
    rcases outcome.origin lookup with ⟨file, judged, _, sameMail, _⟩
    rw [mails_replaceState, outcome.mem_mails_iff, sameMail]
    exact mem_fetched_of_mem_judgedFiles searched judged
  case duplicates =>
    intro fileType id mail lookup hash listed
    rw [mails_replaceState] at lookup
    rcases finished id mail lookup with ⟨original, found, rfl⟩
    rw [duplicates_finishedMail (searched.fresh found)] at listed
    rcases List.mem_filterMap.mp listed with ⟨⟨file, verdict⟩, entryMem, repeated⟩
    have judged := (List.mem_filter.mp entryMem).1
    rw [reports_replaceState]
    cases verdict with
    | skipped => cases repeated
    | first => cases repeated
    | repeats leader =>
        cases repeated
        have leads := (leader_of_mem_verdicts judged).1
        rw [List.nil_append] at leads
        exact outcome.mem_reports (mem_leaders.mp leads)
  case errorMails =>
    intro id present
    rw [parsingErrors_replaceState, Std.ExtTreeMap.mem_iff_isSome_getElem?,
      outcome.parsingErrors] at present
    rw [mails_replaceState, outcome.mem_mails_iff]
    split at present
    · cases present
    · next failed => exact mem_fetched_of_finishedErrors searched failed
  case errorCounts =>
    intro fileType id mail lookup
    rw [mails_replaceState] at lookup
    rcases finished id mail lookup with ⟨original, found, rfl⟩
    rw [parsingErrors_finishedMail (searched.fresh found), parsingErrors_replaceState,
      outcome.parsingErrors]
    have counted := length_filter_finishedErrors env config fetched fileType id
    split
    · next none =>
        rw [none] at counted
        exact counted
    · exact counted
  case bodies =>
    intro id mail lookup
    rw [mails_replaceState] at lookup
    rcases finished id mail lookup with ⟨original, found, rfl⟩
    exact body_finishedMail id original

theorem AppState.Consistent.apply {state : AppState} (consistent : state.Consistent)
    (event : Event env) : (event.apply state).Consistent := by
  cases event with
  | update attempt =>
      rcases bgUpdate_cases state attempt with
        ⟨error, _, failed⟩ | ⟨fetched, processed, timestamp, _, _, searched, outcome, updated⟩
      · simpa [Event.apply, failed] using consistent
      · simpa [Event.apply, updated] using
          outcome.consistent searched timestamp attempt.elapsed state
  | interlude step =>
      cases step with
      | schedule nextUpdate =>
          exact ⟨consistent.mailIds, consistent.reportMails, consistent.duplicates,
            consistent.errorMails, consistent.errorCounts, consistent.bodies⟩
      | cacheLocation order ip location =>
          exact ⟨consistent.mailIds, consistent.reportMails, consistent.duplicates,
            consistent.errorMails, consistent.errorCounts, consistent.bodies⟩

/-- Every reachable state is consistent. -/
theorem consistent_stateAfter (events : List (Event env)) (startTime : UInt64) :
    (stateAfter events startTime).Consistent := by
  apply run_invariant AppState.Consistent (AppState.consistent_new startTime)
  intro event state consistent
  exact consistent.apply event

end Consistency

section Announcements

variable {env : Externals}

/-- The mails which an attempt finds in the mailbox, if it succeeds. -/
def Attempt.mailbox? (attempt : Attempt env) : Option (BTreeMap String Mail) :=
  match fetchMails attempt.config attempt.inbox attempt.order, prepareUpdate env attempt with
  | .ok fetched, .ok _ => some fetched
  | _, _ => none

/-- The mails which an event finds in the mailbox. -/
def Event.mailbox? (event : Event env) : Option (BTreeMap String Mail) :=
  match event with
  | .update attempt => attempt.mailbox?
  | .interlude _ => none

/-- The mails in the mailbox at the last successful update of a run. -/
def lastMailbox (events : List (Event env)) : Option (BTreeMap String Mail) :=
  lastPublished Event.mailbox? events

/-- The mails for which the background task calls the web hook after an
attempt. -/
def webHookCalls (config : Configuration) (newMails : Result (List String)) : List String :=
  match newMails with
  | .ok newMails =>
      if !newMails.isEmpty && config.mailWebHookUrl.isSome then newMails else []
  | .error _ => []

/-- A mail is announced if the web hook is called for it after an attempt. -/
def Announced (startTime : UInt64) (before : List (Event env)) (attempt : Attempt env)
    (id : String) : Prop :=
  id ∈ webHookCalls attempt.config (bgUpdate env attempt (stateAfter before startTime)).1

/-- The state knows the mails of the last successful update, and it knows
whether there was one. -/
structure AppState.Knows (state : AppState) (last : Option (BTreeMap String Mail)) : Prop where
  firstUpdate : state.firstUpdate = last.isNone
  mails : ∀ id : String, id ∈ state.mails ↔ ∃ mailbox, last = some mailbox ∧ id ∈ mailbox

theorem mailbox?_of_error {attempt : Attempt env} {error : String}
    (failed : prepareUpdate env attempt = .error error) : attempt.mailbox? = none := by
  simp only [Attempt.mailbox?]
  rw [failed]
  split
  · next impossible => cases impossible
  · rfl

theorem mailbox?_of_ok {attempt : Attempt env} {fetched : BTreeMap String Mail}
    {prepared : Processed × UInt64}
    (fetchedOk : fetchMails attempt.config attempt.inbox attempt.order = .ok fetched)
    (preparedOk : prepareUpdate env attempt = .ok prepared) :
    attempt.mailbox? = some fetched := by
  simp only [Attempt.mailbox?, fetchedOk, preparedOk]

/-- Along every run the state knows the mails of the last successful update. -/
theorem knows_stateAfter (events : List (Event env)) (startTime : UInt64) :
    (stateAfter events startTime).Knows (lastMailbox events) := by
  apply run_history AppState.Knows
  · refine ⟨rfl, ?_⟩
    intro id
    simp [AppState.new]
  · intro event state mailbox last found knows
    cases event with
    | interlude step => cases found
    | update attempt =>
        rcases bgUpdate_cases state attempt with ⟨error, failed, _⟩ |
          ⟨fetched, processed, timestamp, preparedOk, fetchedOk, _, outcome, updated⟩
        · rw [Event.mailbox?, mailbox?_of_error failed] at found
          cases found
        · rw [Event.mailbox?, mailbox?_of_ok fetchedOk preparedOk] at found
          cases found
          refine ⟨?_, ?_⟩
          · simp [Event.apply, updated]
          · intro id
            simp [Event.apply, updated, outcome.mem_mails_iff]
  · intro event state last silent knows
    cases event with
    | interlude step =>
        cases step with
        | schedule nextUpdate => exact ⟨knows.firstUpdate, knows.mails⟩
        | cacheLocation order ip location => exact ⟨knows.firstUpdate, knows.mails⟩
    | update attempt =>
        rcases bgUpdate_cases state attempt with ⟨error, _, failed⟩ |
          ⟨fetched, processed, timestamp, preparedOk, fetchedOk, _, _, _⟩
        · simpa [Event.apply, failed] using knows
        · rw [Event.mailbox?, mailbox?_of_ok fetchedOk preparedOk] at silent
          cases silent

/-- What an update announces in a state that knows the last mailbox. -/
theorem AppState.Knows.mem_new_iff {state : AppState} {last : Option (BTreeMap String Mail)}
    (knows : state.Knows last) {processed : Processed} {timestamp : UInt64} {elapsed : Float}
    {id : String} :
    id ∈ (replaceState processed timestamp elapsed state).1 ↔
      id ∈ processed.mails ∧ ∃ previous, last = some previous ∧ id ∉ previous := by
  rw [mem_new_replaceState, knows.firstUpdate, knows.mails]
  cases last <;> simp

theorem mails_foldl_interludes (interludes : List Interlude) (state : AppState) :
    (run Interlude.apply interludes state).mails = state.mails := by
  apply run_invariant fun other : AppState => other.mails = state.mails
  · rfl
  · intro step other same
    cases step with
    | schedule nextUpdate => exact same
    | cacheLocation order ip location => exact same

theorem mem_of_announced {startTime : UInt64} {before : List (Event env)}
    {attempt : Attempt env} {id : String} (announced : Announced startTime before attempt id) :
    ∃ mailbox, attempt.mailbox? = some mailbox ∧ id ∈ mailbox ∧
      ∃ previous, lastMailbox before = some previous ∧ id ∉ previous := by
  simp only [Announced] at announced
  rcases bgUpdate_cases (stateAfter before startTime) attempt with ⟨error, _, failed⟩ |
    ⟨fetched, processed, timestamp, preparedOk, fetchedOk, _, outcome, updated⟩
  · simp [failed, webHookCalls] at announced
  · rw [updated] at announced
    have listed : id ∈ (replaceState processed timestamp attempt.elapsed
        (stateAfter before startTime)).1 := by
      simp only [webHookCalls] at announced
      split at announced
      · exact announced
      · cases announced
    have new := (knows_stateAfter before startTime).mem_new_iff.mp listed
    rw [outcome.mem_mails_iff] at new
    exact ⟨fetched, mailbox?_of_ok fetchedOk preparedOk, new.1, new.2⟩

/-- New mails over a whole run.  An attempt which fails reports nothing and
changes nothing.  One which succeeds lists, each once, the mails of its mailbox
which were missing at the last success before it, and the web hook finds each
of them with its details.  A mail is announced again only if a successful update in
between missed it. -/
theorem new_mails_of_run (startTime : UInt64) :
    (∀ (before : List (Event env)) (attempt : Attempt env), attempt.mailbox? = none →
      ∃ error, bgUpdate env attempt (stateAfter before startTime) =
        (.error error, stateAfter before startTime)) ∧
    (∀ (before : List (Event env)) (attempt : Attempt env) (mailbox : BTreeMap String Mail),
      attempt.mailbox? = some mailbox →
        ∃ newMails after,
          bgUpdate env attempt (stateAfter before startTime) = (.ok newMails, after) ∧
          newMails.Nodup ∧
          (∀ id, id ∈ newMails ↔
            id ∈ mailbox ∧ ∃ previous, lastMailbox before = some previous ∧ id ∉ previous) ∧
          (∀ id ∈ newMails, ∀ interludes : List Interlude,
            id ∈ (run Interlude.apply interludes after).mails ∧
              ∃ details, getMailDetails id (run Interlude.apply interludes after) = .ok details)) ∧
    (∀ (before between : List (Event env)) (first second : Attempt env) (id : String),
      Announced startTime before first id →
        Announced startTime (before ++ .update first :: between) second id →
          ∃ mailbox ∈ between.filterMap Event.mailbox?, id ∉ mailbox) := by
  refine ⟨?_, ?_, ?_⟩
  · intro before attempt missing
    rcases bgUpdate_cases (stateAfter before startTime) attempt with ⟨error, _, failed⟩ |
      ⟨fetched, processed, timestamp, preparedOk, fetchedOk, _, _, _⟩
    · exact ⟨error, failed⟩
    · rw [mailbox?_of_ok fetchedOk preparedOk] at missing
      cases missing
  · intro before attempt mailbox found
    rcases bgUpdate_cases (stateAfter before startTime) attempt with ⟨error, failed, _⟩ |
      ⟨fetched, processed, timestamp, preparedOk, fetchedOk, _, outcome, updated⟩
    · rw [mailbox?_of_error failed] at found
      cases found
    · rw [mailbox?_of_ok fetchedOk preparedOk] at found
      cases found
      have knows := knows_stateAfter before startTime
      refine ⟨_, _, updated, nodup_new_replaceState _ _ _ _, ?_, ?_⟩
      · intro id
        rw [knows.mem_new_iff, outcome.mem_mails_iff]
      · intro id listed interludes
        have key : id ∈ (run Interlude.apply interludes (replaceState processed timestamp
            attempt.elapsed (stateAfter before startTime)).2).mails := by
          rw [mails_foldl_interludes, mails_replaceState]
          exact (knows.mem_new_iff.mp listed).1
        exact ⟨key, getMailDetails_isOk_iff.mpr key⟩
  · intro before between first second id announcedFirst announcedSecond
    rcases mem_of_announced announcedFirst with ⟨mailbox, found, inside, _⟩
    rcases mem_of_announced announcedSecond with ⟨_, _, _, previous, last, missing⟩
    have published : Event.mailbox? (.update first) = some mailbox := found
    rw [lastMailbox, lastPublished_append, lastPublished_cons_of_some published,
      Option.some_or] at last
    cases later : lastPublished Event.mailbox? between with
    | none =>
        rw [later, Option.getD_none] at last
        cases last
        exact absurd inside missing
    | some other =>
        rw [later, Option.getD_some] at last
        cases last
        exact ⟨previous, mem_of_lastPublished later, missing⟩

end Announcements

end DmarcReportViewer
