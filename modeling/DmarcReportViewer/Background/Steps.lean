import DmarcReportViewer.Background.Runs

/-!
# The update step by step

The handlers run between the steps of an update: in a multi-threaded runtime they
can run between any two of them, unless the update holds the lock of the state.
This module splits an update into its steps and shows that, whenever the lock is
free, the state is the one after the updates that have returned so far.
-/

namespace DmarcReportViewer

open Collections Runs

/-- Where the background task stands in an update. -/
inductive Task (env : Externals) where
  | idle
  | fetchDmarc (attempt : Attempt env)
  | fetchTls (attempt : Attempt env) (mails : BTreeMap String Mail)
  | fetchDefault (attempt : Attempt env) (mails : BTreeMap String Mail)
  | collect (attempt : Attempt env) (collection : Collection) (rest : List (String × Mail))
  | parseXml (attempt : Attempt env) (collection : Collection) (dmarc : ParseState Dmarc.Report)
      (rest : List ReportFile)
  | parseJson (attempt : Attempt env) (collection : Collection) (dmarc : ParseState Dmarc.Report)
      (tls : ParseState Tls.Report) (rest : List ReportFile)
  | getTime (attempt : Attempt env) (processed : Processed)
  | lock (attempt : Attempt env) (processed : Processed) (timestamp : UInt64)
  /-- The lock is held, and some assignments are still to be made. -/
  | write (attempt : Attempt env) (oldMails : List String) (rest : List (AppState → AppState))

/-- The task holds the lock of the state. -/
def Task.locked {env : Externals} : Task env → Bool
  | .write _ _ _ => true
  | _ => false

/-- The assignments to the state, in the order of the source. -/
def assignments (processed : Processed) (timestamp : UInt64) (elapsed : Float) :
    List (AppState → AppState) :=
  [fun state => { state with dmarcReports := processed.dmarcReports },
    fun state => { state with tlsReports := processed.tlsReports },
    fun state => { state with lastUpdate := timestamp },
    fun state => { state with xmlFiles := processed.xmlFiles },
    fun state => { state with jsonFiles := processed.jsonFiles },
    fun state => { state with parsingErrors := processed.parsingErrors },
    fun state => { state with mails := processed.mails },
    fun state => { state with lastUpdateDuration := elapsed }]

def assign (rest : List (AppState → AppState)) (state : AppState) : AppState :=
  rest.foldl (fun state write => write state) state

/-- Detect which mails are new, after all assignments. -/
def detectNewMails (oldMails : List String) (state : AppState) : List String × AppState :=
  let newMails := state.mails.keys
  if state.firstUpdate then
    ([], { state with firstUpdate := false })
  else
    (newMails.filter fun id => !oldMails.contains id, state)

/-- The background task and the state it shares with the handlers. -/
structure Machine (env : Externals) where
  state : AppState
  task : Task env
  /-- The updates that have returned and the writes in between.  The code does not
  keep it. -/
  history : List (Event env)
  /-- The attempts of these updates and their results. -/
  returned : List (Attempt env × Result (List String))

variable {env : Externals}

def Machine.start (env : Externals) (startTime : UInt64) : Machine env where
  state := AppState.new startTime
  task := .idle
  history := []
  returned := []

/-- The update of an attempt returns. -/
def Machine.finish (machine : Machine env) (attempt : Attempt env)
    (result : Result (List String)) : Machine env :=
  { machine with
    task := .idle
    history := machine.history ++ [.update attempt]
    returned := machine.returned ++ [(attempt, result)] }

/-- Go on with a computation or return its error. -/
def Machine.continue {α : Type} (machine : Machine env) (attempt : Attempt env) (result : Result α)
    (next : α → Task env) : Machine env :=
  match result with
  | .ok value => { machine with task := next value }
  | .error error => machine.finish attempt (.error error)

/-- The next step of the update. -/
def Machine.tick (machine : Machine env) : Machine env :=
  match machine.task with
  | .idle => machine
  | .fetchDmarc attempt =>
      machine.continue attempt
        (extendMails attempt.config.imapFolderDmarc.isSome attempt.order.dmarc attempt.inbox.dmarc
          "Failed to get mails from DMARC folder" ∅)
        (.fetchTls attempt)
  | .fetchTls attempt mails =>
      machine.continue attempt
        (extendMails attempt.config.imapFolderTls.isSome attempt.order.tls attempt.inbox.tls
          "Failed to get mails from TLS folder" mails)
        (.fetchDefault attempt)
  | .fetchDefault attempt mails =>
      machine.continue attempt
        (extendMails (attempt.config.imapFolderDmarc.isNone && attempt.config.imapFolderTls.isNone)
          attempt.order.default attempt.inbox.default "Failed to get mails" mails)
        fun mails => .collect attempt { mails := mails, xmlFiles := ∅, jsonFiles := ∅ } mails.toList
  | .collect attempt collection [] =>
      { machine with
        task := .parseXml attempt collection (ParseState.start Dmarc.Report collection.mails ∅)
          (valueList collection.xmlFiles) }
  | .collect attempt collection (entry :: rest) =>
      { machine with
        task := .collect attempt (collectMail env attempt.config collection entry) rest }
  | .parseXml attempt collection dmarc [] =>
      { machine with
        task := .parseJson attempt collection dmarc
          (ParseState.start Tls.Report dmarc.mails dmarc.parsingErrors)
          (valueList collection.jsonFiles) }
  | .parseXml attempt collection dmarc (file :: rest) =>
      machine.continue attempt (parseFile env (dmarcKind env) attempt.config dmarc file)
        fun dmarc => .parseXml attempt collection dmarc rest
  | .parseJson attempt collection dmarc tls [] =>
      { machine with
        task := .getTime attempt {
          mails := tls.mails
          dmarcReports := dmarc.reports
          tlsReports := tls.reports
          xmlFiles := collection.xmlFiles.size
          jsonFiles := collection.jsonFiles.size
          parsingErrors := tls.parsingErrors } }
  | .parseJson attempt collection dmarc tls (file :: rest) =>
      machine.continue attempt (parseFile env (tlsKind env) attempt.config tls file)
        fun tls => .parseJson attempt collection dmarc tls rest
  | .getTime attempt processed =>
      machine.continue attempt (attempt.clock.context "Failed to get Unix time stamp")
        (.lock attempt processed)
  | .lock attempt processed timestamp =>
      { machine with
        task := .write attempt machine.state.mails.keys
          (assignments processed timestamp attempt.elapsed) }
  | .write attempt oldMails [] =>
      let detected := detectNewMails oldMails machine.state
      { machine with state := detected.2 }.finish attempt (.ok detected.1)
  | .write attempt oldMails (write :: rest) =>
      { machine with state := write machine.state, task := .write attempt oldMails rest }

inductive Move (env : Externals) where
  | start (attempt : Attempt env)
  | tick
  | interlude (step : Interlude)

/-- The task starts an update when the one before has returned, and a handler has to
wait until the lock is free. -/
def Move.apply (move : Move env) (machine : Machine env) : Machine env :=
  match move with
  | .start attempt =>
      match machine.task with
      | .idle => { machine with task := .fetchDmarc attempt }
      | _ => machine
  | .tick => machine.tick
  | .interlude step =>
      if machine.task.locked then
        machine
      else
        { machine with
          state := step.apply machine.state
          history := machine.history ++ [.interlude step] }

section Progress

/-- What the task has computed is what the whole update computes up to there. -/
def Task.Progress : Task env → Prop
  | .fetchTls attempt mails =>
      extendMails attempt.config.imapFolderDmarc.isSome attempt.order.dmarc attempt.inbox.dmarc
        "Failed to get mails from DMARC folder" ∅ = .ok mails
  | .fetchDefault attempt mails =>
      (extendMails attempt.config.imapFolderDmarc.isSome attempt.order.dmarc attempt.inbox.dmarc
          "Failed to get mails from DMARC folder" ∅ >>= fun mails =>
        extendMails attempt.config.imapFolderTls.isSome attempt.order.tls attempt.inbox.tls
          "Failed to get mails from TLS folder" mails) = .ok mails
  | .collect attempt collection rest =>
      ∃ fetched, fetchMails attempt.config attempt.inbox attempt.order = .ok fetched ∧
        rest.foldl (collectMail env attempt.config) collection =
          collectFiles env attempt.config fetched
  | .parseXml attempt collection dmarc rest =>
      ∃ fetched, fetchMails attempt.config attempt.inbox attempt.order = .ok fetched ∧
        collection = collectFiles env attempt.config fetched ∧
          parseFiles env (dmarcKind env) attempt.config rest dmarc =
            parseXmlFiles env attempt.config collection.xmlFiles collection.mails ∅
  | .parseJson attempt collection dmarc tls rest =>
      ∃ fetched, fetchMails attempt.config attempt.inbox attempt.order = .ok fetched ∧
        collection = collectFiles env attempt.config fetched ∧
          parseXmlFiles env attempt.config collection.xmlFiles collection.mails ∅ = .ok dmarc ∧
            parseFiles env (tlsKind env) attempt.config rest tls =
              parseJsonFiles env attempt.config collection.jsonFiles dmarc.mails
                dmarc.parsingErrors
  | .getTime attempt processed =>
      ∃ fetched, fetchMails attempt.config attempt.inbox attempt.order = .ok fetched ∧
        processMails env attempt.config fetched = .ok processed
  | .lock attempt processed timestamp => prepareUpdate env attempt = .ok (processed, timestamp)
  | _ => True

/-- All fetched mails can be processed. -/
theorem processMails_of_fetched {attempt : Attempt env} {fetched : BTreeMap String Mail}
    (fetchedOk : fetchMails attempt.config attempt.inbox attempt.order = .ok fetched) :
    ∃ processed, processMails env attempt.config fetched = .ok processed := by
  rcases processMails_outcome (searchedMails_fetchMails attempt.fromImap fetchedOk) with
    ⟨processed, processedOk, _⟩
  exact ⟨processed, processedOk⟩

theorem parseFiles_cons {ρ : Type} (kind : ReportKind ρ) (config : Configuration)
    (file : ReportFile) (rest : List ReportFile) (state : ParseState ρ) :
    parseFiles env kind config (file :: rest) state =
      (parseFile env kind config state file >>= parseFiles env kind config rest) := by
  simp only [parseFiles, List.foldlM_cons]
  rfl

/-- The mail of a file is found when the file cannot be parsed as a DMARC report. -/
theorem parseFile_xml_ok {attempt : Attempt env} {collection : Collection}
    {dmarc : ParseState Dmarc.Report} {file : ReportFile} {rest : List ReportFile}
    (progress : (Task.parseXml attempt collection dmarc (file :: rest)).Progress) :
    ∃ next, parseFile env (dmarcKind env) attempt.config dmarc file = .ok next := by
  rcases progress with ⟨fetched, fetchedOk, rfl, same⟩
  rcases processMails_of_fetched fetchedOk with ⟨processed, processedOk⟩
  simp only [processMails, Fallible.bind_eq_ok_iff] at processedOk
  rcases processedOk with ⟨parsed, parsedOk, _⟩
  rw [← same, parseFiles_cons, Fallible.bind_eq_ok_iff] at parsedOk
  rcases parsedOk with ⟨next, nextOk, _⟩
  exact ⟨next, nextOk⟩

/-- The mail of a file is found when the file cannot be parsed as a TLS report. -/
theorem parseFile_json_ok {attempt : Attempt env} {collection : Collection}
    {dmarc : ParseState Dmarc.Report} {tls : ParseState Tls.Report} {file : ReportFile}
    {rest : List ReportFile}
    (progress : (Task.parseJson attempt collection dmarc tls (file :: rest)).Progress) :
    ∃ next, parseFile env (tlsKind env) attempt.config tls file = .ok next := by
  rcases progress with ⟨fetched, fetchedOk, rfl, dmarcOk, same⟩
  rcases processMails_of_fetched fetchedOk with ⟨processed, processedOk⟩
  simp only [processMails, dmarcOk, Fallible.bind_eq_ok_iff] at processedOk
  rcases processedOk with ⟨_, sameDmarc, parsed, parsedOk, _⟩
  cases sameDmarc
  rw [← same, parseFiles_cons, Fallible.bind_eq_ok_iff] at parsedOk
  rcases parsedOk with ⟨next, nextOk, _⟩
  exact ⟨next, nextOk⟩

/-- When the first two folders have been fetched, the third one decides. -/
theorem fetchMails_of_fetchDefault {attempt : Attempt env} {mails : BTreeMap String Mail}
    (progress : (Task.fetchDefault attempt mails).Progress) :
    fetchMails attempt.config attempt.inbox attempt.order =
      extendMails (attempt.config.imapFolderDmarc.isNone && attempt.config.imapFolderTls.isNone)
        attempt.order.default attempt.inbox.default "Failed to get mails" mails := by
  simp only [Task.Progress, Fallible.bind_eq_ok_iff] at progress
  rcases progress with ⟨first, firstOk, secondOk⟩
  simp only [fetchMails, firstOk, secondOk, bind, Except.bind]

theorem prepareUpdate_of_fetch_error {attempt : Attempt env} {error : String}
    (failed : fetchMails attempt.config attempt.inbox attempt.order = .error error) :
    prepareUpdate env attempt = .error error := by
  simp only [prepareUpdate, failed]
  rfl

theorem prepareUpdate_of_processed {attempt : Attempt env} {fetched : BTreeMap String Mail}
    {processed : Processed}
    (fetchedOk : fetchMails attempt.config attempt.inbox attempt.order = .ok fetched)
    (processedOk : processMails env attempt.config fetched = .ok processed) :
    prepareUpdate env attempt =
      (attempt.clock.context "Failed to get Unix time stamp").map fun timestamp =>
        (processed, timestamp) := by
  simp only [prepareUpdate, fetchedOk, processedOk, bind, Except.bind]
  cases attempt.clock.context "Failed to get Unix time stamp" <;> rfl

end Progress

section Linking

/-- The state is the one after the updates which have returned, apart from the
assignments that the task makes while it holds the lock. -/
def Machine.Linked (machine : Machine env) (startTime : UInt64) : Prop :=
  match machine.task with
  | .write attempt oldMails rest =>
      ∃ processed timestamp, prepareUpdate env attempt = .ok (processed, timestamp) ∧
        oldMails = (stateAfter machine.history startTime).mails.keys ∧
          assign rest machine.state =
            assign (assignments processed timestamp attempt.elapsed)
              (stateAfter machine.history startTime)
  | _ => machine.state = stateAfter machine.history startTime

/-- An attempt which has returned. -/
def Returned (entry : Attempt env × Result (List String)) : Prop :=
  match entry.2 with
  | .ok _ => ∃ prepared, prepareUpdate env entry.1 = .ok prepared
  | .error error => prepareUpdate env entry.1 = .error error

structure Machine.Invariant (machine : Machine env) (startTime : UInt64) : Prop where
  progress : machine.task.Progress
  linked : machine.Linked startTime
  returned : ∀ entry ∈ machine.returned, Returned entry

variable {machine : Machine env} {startTime : UInt64}

theorem linked_iff (unlocked : machine.task.locked = false) :
    machine.Linked startTime ↔ machine.state = stateAfter machine.history startTime := by
  cases task : machine.task with
  | write attempt oldMails rest =>
      rw [task] at unlocked
      cases unlocked
  | _ => simp only [Machine.Linked, task]

theorem stateAfter_concat (history : List (Event env)) (event : Event env) (startTime : UInt64) :
    stateAfter (history ++ [event]) startTime = event.apply (stateAfter history startTime) :=
  run_concat history event

theorem apply_update_of_error {attempt : Attempt env} {error : String}
    (failed : prepareUpdate env attempt = .error error) (state : AppState) :
    bgUpdate env attempt state = (.error error, state) := by
  simp only [bgUpdate, failed]

theorem replaceState_eq_detectNewMails (processed : Processed) (timestamp : UInt64)
    (elapsed : Float) (state : AppState) :
    replaceState processed timestamp elapsed state =
      detectNewMails state.mails.keys (assign (assignments processed timestamp elapsed) state) :=
  rfl

theorem Machine.Invariant.returned_concat (invariant : machine.Invariant startTime)
    {last : Attempt env × Result (List String)} (now : Returned last) :
    ∀ entry ∈ machine.returned ++ [last], Returned entry := by
  intro entry listed
  rcases List.mem_append.mp listed with before | equal
  · exact invariant.returned entry before
  · cases List.mem_singleton.mp equal
    exact now

/-- An update that fails before it takes the lock returns with the state unchanged. -/
theorem Machine.Invariant.fail (invariant : machine.Invariant startTime) {attempt : Attempt env}
    {error : String} (linked : machine.state = stateAfter machine.history startTime)
    (failed : prepareUpdate env attempt = .error error) :
    (machine.finish attempt (.error error)).Invariant startTime := by
  constructor
  case progress => trivial
  case linked =>
    change machine.state = stateAfter (machine.history ++ [.update attempt]) startTime
    rw [stateAfter_concat, Event.apply, apply_update_of_error failed, linked]
  case returned => exact invariant.returned_concat failed

/-- A task that moves on outside of the lock keeps the invariant. -/
theorem Machine.Invariant.moveTo (invariant : machine.Invariant startTime)
    (linked : machine.state = stateAfter machine.history startTime) {next : Task env}
    (unlocked : next.locked = false) (progress : next.Progress) :
    ({ machine with task := next } : Machine env).Invariant startTime := by
  constructor
  case progress => exact progress
  case linked =>
    cases next with
    | write attempt oldMails rest => cases unlocked
    | _ => exact linked
  case returned => exact invariant.returned

theorem Machine.Invariant.continue {α : Type} (invariant : machine.Invariant startTime)
    (linked : machine.state = stateAfter machine.history startTime) {attempt : Attempt env}
    {result : Result α} {next : α → Task env}
    (succeeds : ∀ value, result = .ok value → (next value).locked = false ∧ (next value).Progress)
    (fails : ∀ error, result = .error error → prepareUpdate env attempt = .error error) :
    (machine.continue attempt result next).Invariant startTime := by
  cases result with
  | ok value =>
      rcases succeeds value rfl with ⟨unlocked, progress⟩
      exact invariant.moveTo linked unlocked progress
  | error error => exact invariant.fail linked (fails error rfl)

/-- The assignments which are made under the lock add up to the update of the state. -/
theorem Machine.Invariant.tick_write (invariant : machine.Invariant startTime)
    {attempt : Attempt env} {oldMails : List String} {rest : List (AppState → AppState)}
    (task : machine.task = .write attempt oldMails rest) : machine.tick.Invariant startTime := by
  have linked := invariant.linked
  simp only [Machine.Linked, task] at linked
  rcases linked with ⟨processed, timestamp, prepared, rfl, written⟩
  simp only [Machine.tick, task]
  cases rest with
  | cons write rest =>
      constructor
      case progress => trivial
      case linked => exact ⟨processed, timestamp, prepared, rfl, written⟩
      case returned => exact invariant.returned
  | nil =>
      have current : machine.state = assign (assignments processed timestamp attempt.elapsed)
          (stateAfter machine.history startTime) := written
      constructor
      case progress => trivial
      case linked =>
        change (detectNewMails _ machine.state).2 =
          stateAfter (machine.history ++ [.update attempt]) startTime
        rw [stateAfter_concat, current, ← replaceState_eq_detectNewMails]
        simp only [Event.apply, bgUpdate, prepared]
      case returned => exact invariant.returned_concat ⟨_, prepared⟩

/-- Every step of an update keeps the invariant. -/
theorem Machine.Invariant.tick (invariant : machine.Invariant startTime) :
    machine.tick.Invariant startTime := by
  have progress := invariant.progress
  have linked := invariant.linked
  simp only [Machine.tick]
  cases task : machine.task with
  | idle => exact invariant
  | fetchDmarc attempt =>
      simp only [Machine.Linked, task] at linked
      refine invariant.continue linked (fun mails fetched => ⟨rfl, fetched⟩) ?_
      intro error failed
      apply prepareUpdate_of_fetch_error
      simp only [fetchMails, failed, bind, Except.bind]
  | fetchTls attempt mails =>
      simp only [Machine.Linked, task] at linked
      simp only [task, Task.Progress] at progress
      refine invariant.continue linked (fun next fetched => ⟨rfl, ?_⟩) ?_
      · simp only [Task.Progress, progress, bind, Except.bind]
        exact fetched
      · intro error failed
        apply prepareUpdate_of_fetch_error
        simp only [fetchMails, progress, failed, bind, Except.bind]
  | fetchDefault attempt mails =>
      simp only [Machine.Linked, task] at linked
      rw [task] at progress
      have fetching := fetchMails_of_fetchDefault progress
      refine invariant.continue linked (fun fetched fetchedOk => ⟨rfl, fetched, ?_, rfl⟩) ?_
      · rw [fetching, fetchedOk]
      · intro error failed
        exact prepareUpdate_of_fetch_error (fetching.trans failed)
  | collect attempt collection rest =>
      simp only [Machine.Linked, task] at linked
      simp only [task, Task.Progress] at progress
      rcases progress with ⟨fetched, fetchedOk, collected⟩
      cases rest with
      | nil =>
          have all : collection = collectFiles env attempt.config fetched := collected
          exact invariant.moveTo linked rfl ⟨fetched, fetchedOk, all, rfl⟩
      | cons entry rest => exact invariant.moveTo linked rfl ⟨fetched, fetchedOk, collected⟩
  | parseXml attempt collection dmarc rest =>
      simp only [Machine.Linked, task] at linked
      rw [task] at progress
      cases rest with
      | nil =>
          rcases progress with ⟨fetched, fetchedOk, all, parsed⟩
          exact invariant.moveTo linked rfl ⟨fetched, fetchedOk, all, parsed.symm, rfl⟩
      | cons file rest =>
          rcases parseFile_xml_ok progress with ⟨next, nextOk⟩
          rcases progress with ⟨fetched, fetchedOk, all, parsed⟩
          rw [parseFiles_cons, nextOk] at parsed
          simp only [nextOk, Machine.continue]
          exact invariant.moveTo linked rfl ⟨fetched, fetchedOk, all, parsed⟩
  | parseJson attempt collection dmarc tls rest =>
      simp only [Machine.Linked, task] at linked
      rw [task] at progress
      cases rest with
      | nil =>
          rcases progress with ⟨fetched, fetchedOk, all, dmarcOk, parsed⟩
          refine invariant.moveTo linked rfl ⟨fetched, fetchedOk, ?_⟩
          subst all
          simp only [processMails, dmarcOk, ← parsed, bind, Except.bind]
          rfl
      | cons file rest =>
          rcases parseFile_json_ok progress with ⟨next, nextOk⟩
          rcases progress with ⟨fetched, fetchedOk, all, dmarcOk, parsed⟩
          rw [parseFiles_cons, nextOk] at parsed
          simp only [nextOk, Machine.continue]
          exact invariant.moveTo linked rfl ⟨fetched, fetchedOk, all, dmarcOk, parsed⟩
  | getTime attempt processed =>
      simp only [Machine.Linked, task] at linked
      simp only [task, Task.Progress] at progress
      rcases progress with ⟨fetched, fetchedOk, processedOk⟩
      have prepared := prepareUpdate_of_processed fetchedOk processedOk
      refine invariant.continue linked (fun timestamp read => ⟨rfl, ?_⟩) ?_
      · rw [read] at prepared
        exact prepared
      · intro error failed
        rw [failed] at prepared
        exact prepared
  | lock attempt processed timestamp =>
      simp only [Machine.Linked, task] at linked
      simp only [task, Task.Progress] at progress
      constructor
      case progress => trivial
      case linked => exact ⟨processed, timestamp, progress, linked ▸ rfl, linked ▸ rfl⟩
      case returned => exact invariant.returned
  | write attempt oldMails rest =>
      have written := invariant.tick_write task
      simp only [Machine.tick, task] at written
      exact written

theorem invariant_start (startTime : UInt64) :
    (Machine.start env startTime).Invariant startTime := by
  constructor
  case progress => trivial
  case linked => exact run_nil.symm
  case returned => intro entry listed; cases listed

theorem invariant_move (move : Move env) (machine : Machine env)
    (invariant : machine.Invariant startTime) : (move.apply machine).Invariant startTime := by
  cases move with
  | start attempt =>
      simp only [Move.apply]
      split
      · next idle =>
          have linked := invariant.linked
          simp only [Machine.Linked, idle] at linked
          exact invariant.moveTo linked rfl trivial
      · exact invariant
  | tick => exact invariant.tick
  | interlude step =>
      simp only [Move.apply]
      split
      · exact invariant
      · next locked =>
          have unlocked : machine.task.locked = false := by simpa using locked
          constructor
          case progress => exact invariant.progress
          case linked =>
            have after : step.apply machine.state =
                stateAfter (machine.history ++ [.interlude step]) startTime := by
              rw [stateAfter_concat, Event.apply, ← (linked_iff unlocked).mp invariant.linked]
            apply (linked_iff _).mpr
            · exact after
            · exact unlocked
          case returned => exact invariant.returned

end Linking

section Snapshots

/-- What an update replaces in the state: reports, mails, errors and counters. -/
structure Results where
  processed : Processed
  lastUpdate : UInt64
  lastUpdateDuration : Float

def AppState.results (state : AppState) : Results where
  processed := {
    mails := state.mails
    dmarcReports := state.dmarcReports
    tlsReports := state.tlsReports
    xmlFiles := state.xmlFiles
    jsonFiles := state.jsonFiles
    parsingErrors := state.parsingErrors }
  lastUpdate := state.lastUpdate
  lastUpdateDuration := state.lastUpdateDuration

/-- The results are complete: they are the initial ones or those of one successful
update of the history. -/
def Complete (startTime : UInt64) (history : List (Event env)) (results : Results) : Prop :=
  results = (AppState.new startTime).results ∨
    ∃ attempt processed timestamp, .update attempt ∈ history ∧
      prepareUpdate env attempt = .ok (processed, timestamp) ∧
        results = {
          processed := processed
          lastUpdate := timestamp
          lastUpdateDuration := attempt.elapsed }

theorem Complete.concat {startTime : UInt64} {history : List (Event env)} {results : Results}
    (complete : Complete startTime history results) (event : Event env) :
    Complete startTime (history ++ [event]) results := by
  rcases complete with initial | ⟨attempt, processed, timestamp, listed, prepared, same⟩
  · exact Or.inl initial
  · exact Or.inr ⟨attempt, processed, timestamp, List.mem_append_left _ listed, prepared, same⟩

theorem complete_stateAfter (history : List (Event env)) (startTime : UInt64) :
    Complete startTime history (stateAfter history startTime).results := by
  induction history using List.reverseRecOn with
  | nil => exact Or.inl rfl
  | append_singleton history event ih =>
      rw [stateAfter_concat]
      cases event with
      | interlude step =>
          have same : ((Event.interlude step : Event env).apply
              (stateAfter history startTime)).results =
                (stateAfter history startTime).results := by
            cases step <;> rfl
          rw [same]
          exact ih.concat _
      | update attempt =>
          cases prepared : prepareUpdate env attempt with
          | error error =>
              rw [Event.apply, apply_update_of_error prepared]
              exact ih.concat _
          | ok result =>
              refine Or.inr ⟨attempt, result.1, result.2, ?_, prepared, ?_⟩
              · exact List.mem_append_right _ List.mem_cons_self
              · simp only [Event.apply, bgUpdate, prepared, replaceState_eq]
                rfl

/-- The attempt of a running update. -/
def Task.attempt? : Task env → Option (Attempt env)
  | .idle => none
  | .fetchDmarc attempt => some attempt
  | .fetchTls attempt _ => some attempt
  | .fetchDefault attempt _ => some attempt
  | .collect attempt _ _ => some attempt
  | .parseXml attempt _ _ _ => some attempt
  | .parseJson attempt _ _ _ _ => some attempt
  | .getTime attempt _ => some attempt
  | .lock attempt _ _ => some attempt
  | .write attempt _ _ => some attempt

/-- Until it takes the lock, an update does not write to the state. -/
theorem state_tick_of_unlocked {machine : Machine env} (unlocked : machine.task.locked = false) :
    machine.tick.state = machine.state := by
  have continued : ∀ {α : Type} (attempt : Attempt env) (result : Result α) (next : α → Task env),
      (machine.continue attempt result next).state = machine.state := by
    intro α attempt result next
    cases result <;> rfl
  simp only [Machine.tick]
  cases task : machine.task with
  | idle => rfl
  | fetchDmarc attempt => exact continued _ _ _
  | fetchTls attempt mails => exact continued _ _ _
  | fetchDefault attempt mails => exact continued _ _ _
  | collect attempt collection rest => cases rest <;> rfl
  | parseXml attempt collection dmarc rest =>
      cases rest with
      | nil => rfl
      | cons file rest => exact continued _ _ _
  | parseJson attempt collection dmarc tls rest =>
      cases rest with
      | nil => rfl
      | cons file rest => exact continued _ _ _
  | getTime attempt processed => exact continued _ _ _
  | lock attempt processed timestamp => rfl
  | write attempt oldMails rest =>
      rw [task] at unlocked
      cases unlocked

/-- An error leaves the state as it was, and once all folders were fetched, only the
clock can cause one. -/
structure FailsCleanly (env : Externals) : Prop where
  unchanged : ∀ attempt state error, (bgUpdate env attempt state).1 = .error error →
    (bgUpdate env attempt state).2 = state
  clockOnly : ∀ attempt fetched,
    fetchMails attempt.config attempt.inbox attempt.order = .ok fetched →
      ∀ state error, (bgUpdate env attempt state).1 = .error error →
        ∃ reason, attempt.clock = .error reason ∧
          error = "Failed to get Unix time stamp: " ++ reason

/-- What the handlers see of the updates in a run. -/
structure AllOrNothing (startTime : UInt64) (machine : Machine env) : Prop where
  /-- A handler which gets the lock sees complete results. -/
  snapshot : machine.task.locked = false →
    Complete startTime machine.history machine.state.results
  /-- The state is the one after the updates that have returned. -/
  linearized : machine.task.locked = false →
    machine.state = stateAfter machine.history startTime
  /-- An update which will fail never writes to the state. -/
  unwritten : ∀ attempt error, machine.task.attempt? = some attempt →
    prepareUpdate env attempt = .error error → machine.tick.state = machine.state
  /-- An update which returns an error would have changed no state. -/
  failed : ∀ attempt error, (attempt, .error error) ∈ machine.returned →
    ∀ state, bgUpdate env attempt state = (.error error, state)
  /-- Neither of the parsing loops fails to find a mail. -/
  foundXml : ∀ attempt collection dmarc file rest,
    machine.task = .parseXml attempt collection dmarc (file :: rest) →
      ∃ next, parseFile env (dmarcKind env) attempt.config dmarc file = .ok next
  foundJson : ∀ attempt collection dmarc tls file rest,
    machine.task = .parseJson attempt collection dmarc tls (file :: rest) →
      ∃ next, parseFile env (tlsKind env) attempt.config tls file = .ok next

theorem failsCleanly (env : Externals) : FailsCleanly env := by
  constructor
  case unchanged =>
    intro attempt state error failed
    cases prepared : prepareUpdate env attempt with
    | error other => rw [apply_update_of_error prepared]
    | ok result => simp [bgUpdate, prepared] at failed
  case clockOnly =>
    intro attempt fetched fetchedOk state error failed
    rcases processMails_of_fetched fetchedOk with ⟨processed, processedOk⟩
    have prepared := prepareUpdate_of_processed fetchedOk processedOk
    cases clock : attempt.clock with
    | ok timestamp =>
        rw [clock] at prepared
        have succeeds : prepareUpdate env attempt = .ok (processed, timestamp) := prepared
        simp [bgUpdate, succeeds] at failed
    | error reason =>
        rw [clock] at prepared
        have fails : prepareUpdate env attempt =
            .error ("Failed to get Unix time stamp: " ++ reason) := prepared
        rw [apply_update_of_error fails] at failed
        cases failed
        exact ⟨reason, rfl, rfl⟩

theorem Machine.Invariant.allOrNothing {machine : Machine env} {startTime : UInt64}
    (invariant : machine.Invariant startTime) : AllOrNothing startTime machine := by
  constructor
  case snapshot =>
    intro unlocked
    rw [(linked_iff unlocked).mp invariant.linked]
    exact complete_stateAfter machine.history startTime
  case linearized =>
    intro unlocked
    exact (linked_iff unlocked).mp invariant.linked
  case unwritten =>
    intro attempt error running failed
    cases task : machine.task with
    | write other oldMails rest =>
        have linked := invariant.linked
        simp only [Machine.Linked, task] at linked
        rcases linked with ⟨processed, timestamp, prepared, _⟩
        rw [task] at running
        cases running
        rw [failed] at prepared
        cases prepared
    | _ => exact state_tick_of_unlocked (by rw [task]; rfl)
  case failed =>
    intro attempt error listed state
    exact apply_update_of_error (invariant.returned _ listed) state
  case foundXml =>
    intro attempt collection dmarc file rest task
    exact parseFile_xml_ok (task ▸ invariant.progress)
  case foundJson =>
    intro attempt collection dmarc tls file rest task
    exact parseFile_json_ok (task ▸ invariant.progress)

/-- Updates are all-or-nothing, also for handlers that run between their steps. -/
theorem updates_all_or_nothing (env : Externals) :
    FailsCleanly env ∧ ∀ (startTime : UInt64) (moves : List (Move env)),
      AllOrNothing startTime (run Move.apply moves (Machine.start env startTime)) := by
  refine ⟨failsCleanly env, ?_⟩
  intro startTime moves
  have invariant := run_invariant (fun machine : Machine env => machine.Invariant startTime)
    (invariant_start startTime) invariant_move moves
  exact invariant.allOrNothing

end Snapshots

end DmarcReportViewer
