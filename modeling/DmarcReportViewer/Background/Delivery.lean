import DmarcReportViewer.Background.Steps
import DmarcReportViewer.Imap.Folders

/-!
# What faithful servers leave in the state

Between the folders of an account and the application state lie sessions, chunks, hash maps
and files.  If the servers of a run are faithful, then nothing of this can be seen: the
results in the state and the announced mails are functions of the visited folders.
-/

namespace DmarcReportViewer

open Collections Fallible Runs

/-- What an update finds: the settings and the folders of the account by their names. -/
structure Visit where
  config : Configuration
  account : String → Folder

namespace Visit

variable (env : Externals) (visit : Visit)

/-- The mails of all folders which are searched. -/
def mails : BTreeMap String Mail :=
  visit.config.searchedFolders.foldl (fun mails name =>
    mails.insertMany ((visit.account name).deliveredMails env visit.config name).toList) ∅

/-- The results which belong to the visited folders. -/
def processed : Result Processed :=
  processMails env visit.config (visit.mails env)

/-- The IDs of the mails do not collide within a folder, and all subjects can be decoded. -/
structure Deliverable : Prop where
  collisionFree : ∀ name ∈ visit.config.searchedFolders,
    CollisionFree env.sha256 ((visit.account name).idBytes visit.config name)
  decodable : ∀ name ∈ visit.config.searchedFolders, (visit.account name).Decodable env

/-- The mails which are new after the visit before. -/
def news (previous : Option Visit) : List String :=
  match previous with
  | none => []
  | some previous =>
      (visit.mails env).keys.filter fun id => !(previous.mails env).keys.contains id

end Visit

/-- The news of one visit after the other. -/
def newsAfter (env : Externals) : Option Visit → List Visit → List (List String)
  | _, [] => []
  | previous, visit :: visits => visit.news env previous :: newsAfter env (some visit) visits

/-- The results of the last visit of a list. -/
def resultsOf (env : Externals) (visits : List Visit) : Result Processed :=
  match visits.getLast? with
  | none => .ok {
      mails := ∅
      dmarcReports := ∅
      tlsReports := ∅
      xmlFiles := 0
      jsonFiles := 0
      parsingErrors := ∅ }
  | some visit => visit.processed env

/-- An update which visits the folders through faithful servers.  The chunk size and the
way of requesting a body are up to the update. -/
structure Attempt.Visits {env : Externals} (attempt : Attempt env) (visit : Visit) : Prop where
  config : attempt.config = { visit.config with
    imapChunkSize := attempt.config.imapChunkSize
    imapBodyRequest := attempt.config.imapBodyRequest }
  positive : 1 ≤ attempt.config.imapChunkSize
  clock : ∃ timestamp, attempt.clock = .ok timestamp
  dmarc : ∀ name, visit.config.imapFolderDmarc = some name → ∃ session : Session,
    session.Serves name (visit.account name) ∧
      (getMails env attempt.config session name).run = some attempt.inbox.dmarc
  tls : ∀ name, visit.config.imapFolderTls = some name → ∃ session : Session,
    session.Serves name (visit.account name) ∧
      (getMails env attempt.config session name).run = some attempt.inbox.tls
  default : visit.config.imapFolderDmarc = none → visit.config.imapFolderTls = none →
    ∃ session : Session,
      session.Serves visit.config.imapFolder (visit.account visit.config.imapFolder) ∧
        (getMails env attempt.config session visit.config.imapFolder).run =
          some attempt.inbox.default

/-- A run which visits folders one after the other.  Updates may fail in between, and the
handlers may write to the state. -/
inductive Realises {env : Externals} : List Visit → List (Event env) → Prop where
  | start : Realises [] []
  | visit {visits : List Visit} {events : List (Event env)} {visit : Visit}
      {attempt : Attempt env} (before : Realises visits events)
      (visited : attempt.Visits visit) :
      Realises (visits ++ [visit]) (events ++ [.update attempt])
  | failed {visits : List Visit} {events : List (Event env)} {attempt : Attempt env}
      {error : String} (before : Realises visits events)
      (failure : prepareUpdate env attempt = .error error) :
      Realises visits (events ++ [.update attempt])
  | interlude {visits : List Visit} {events : List (Event env)} {step : Interlude}
      (before : Realises visits events) : Realises visits (events ++ [.interlude step])

/-- The new mails which the updates of a run report, without those which fail. -/
def Event.report {env : Externals} (event : Event env) (state : AppState) :
    List (List String) :=
  match event with
  | .update attempt =>
      match (bgUpdate env attempt state).1 with
      | .ok newMails => [newMails]
      | .error _ => []
  | .interlude _ => []

/-- One step of a run together with what the updates have reported so far. -/
def Event.observe {env : Externals} (event : Event env)
    (observed : AppState × List (List String)) : AppState × List (List String) :=
  (event.apply observed.1, observed.2 ++ event.report observed.1)

def observedAfter {env : Externals} (events : List (Event env)) (startTime : UInt64) :
    AppState × List (List String) :=
  run Event.observe events (AppState.new startTime, [])

section Visiting

variable {env : Externals} {visit : Visit} {attempt : Attempt env}

/-- The mails after those of some folders were added. -/
def Visit.addFolders (env : Externals) (visit : Visit) (mails : BTreeMap String Mail)
    (names : List String) : BTreeMap String Mail :=
  names.foldl (fun mails name =>
    mails.insertMany ((visit.account name).deliveredMails env visit.config name).toList) mails

/-- An update adds the mails of a served folder. -/
theorem Attempt.Visits.extendMails_eq (visits : attempt.Visits visit)
    (deliverable : visit.Deliverable env) {wanted : Bool} {names : List String}
    {order : IterationOrder String Mail} {folderMails : Result (HashMap String Mail)}
    (unwanted : wanted = false → names = [])
    (served : wanted = true → ∃ name ∈ visit.config.searchedFolders, names = [name] ∧
      ∃ session : Session, session.Serves name (visit.account name) ∧
        (getMails env attempt.config session name).run = some folderMails)
    (message : String) (mails : BTreeMap String Mail) :
    extendMails wanted order folderMails message mails =
      .ok (visit.addFolders env mails names) := by
  cases wanted with
  | false =>
      rw [unwanted rfl]
      rfl
  | true =>
      rcases served rfl with ⟨name, searched, rfl, session, serves, returned⟩
      have sameIds : (visit.account name).idBytes attempt.config name =
          (visit.account name).idBytes visit.config name := by
        rw [visits.config]
        rfl
      have sameMails : (visit.account name).deliveredMails env attempt.config name =
          (visit.account name).deliveredMails env visit.config name := by
        rw [visits.config]
        rfl
      have downloaded := getMails_of_serves serves (deliverable.decodable name searched)
        visits.positive (sameIds ▸ deliverable.collisionFree name searched)
      rw [returned, sameMails] at downloaded
      rw [Option.some.inj downloaded]
      simp only [extendMails, if_true, Result.context, bind, Except.bind, pure, Except.pure,
        insertMany_iterate]
      rfl

/-- What an update fetches is what the visited folders deliver. -/
theorem Attempt.Visits.fetchMails_eq (visits : attempt.Visits visit)
    (deliverable : visit.Deliverable env) :
    fetchMails attempt.config attempt.inbox attempt.order = .ok (visit.mails env) := by
  have sameDmarc : attempt.config.imapFolderDmarc = visit.config.imapFolderDmarc := by
    rw [visits.config]
  have sameTls : attempt.config.imapFolderTls = visit.config.imapFolderTls := by
    rw [visits.config]
  have listed : ∀ {folder : Option String} {name : String}, folder = some name →
      folder.toList = [name] := by
    rintro _ _ rfl
    rfl
  have dmarc : ∀ mails, extendMails visit.config.imapFolderDmarc.isSome attempt.order.dmarc
      attempt.inbox.dmarc "Failed to get mails from DMARC folder" mails =
        .ok (visit.addFolders env mails visit.config.imapFolderDmarc.toList) := by
    apply visits.extendMails_eq deliverable
    · intro unset
      simpa using unset
    · intro wanted
      rcases Option.isSome_iff_exists.mp wanted with ⟨name, configured⟩
      exact ⟨name, by simp [Configuration.searchedFolders, configured], listed configured,
        visits.dmarc name configured⟩
  have tls : ∀ mails, extendMails visit.config.imapFolderTls.isSome attempt.order.tls
      attempt.inbox.tls "Failed to get mails from TLS folder" mails =
        .ok (visit.addFolders env mails visit.config.imapFolderTls.toList) := by
    apply visits.extendMails_eq deliverable
    · intro unset
      simpa using unset
    · intro wanted
      rcases Option.isSome_iff_exists.mp wanted with ⟨name, configured⟩
      exact ⟨name, by simp [Configuration.searchedFolders, configured], listed configured,
        visits.tls name configured⟩
  have default : ∀ mails, extendMails (visit.config.imapFolderDmarc.isNone &&
      visit.config.imapFolderTls.isNone) attempt.order.default attempt.inbox.default
        "Failed to get mails" mails = .ok (visit.addFolders env mails
          (if expectAll visit.config then [visit.config.imapFolder] else [])) := by
    apply visits.extendMails_eq deliverable
    · intro unset
      rw [if_neg]
      rw [expectAll, unset]
      exact Bool.false_ne_true
    · intro wanted
      have all : expectAll visit.config = true := wanted
      simp only [Bool.and_eq_true, Option.isNone_iff_eq_none] at wanted
      exact ⟨visit.config.imapFolder, by simp [Configuration.searchedFolders, all],
        by rw [if_pos all], visits.default wanted.1 wanted.2⟩
  simp only [fetchMails, sameDmarc, sameTls, dmarc, tls, default, bind, Except.bind]
  simp only [Visit.mails, Configuration.searchedFolders, Visit.addFolders, List.foldl_append]

/-- The download settings do not matter to what is done with the mails. -/
theorem Attempt.Visits.processMails_eq (visits : attempt.Visits visit)
    (mails : BTreeMap String Mail) :
    processMails env attempt.config mails = processMails env visit.config mails := by
  rw [visits.config]
  rfl

/-- An update through faithful servers succeeds, and what it prepares is determined by the
visited folders. -/
theorem Attempt.Visits.prepareUpdate_eq (visits : attempt.Visits visit)
    (deliverable : visit.Deliverable env) :
    ∃ processed timestamp, prepareUpdate env attempt = .ok (processed, timestamp) ∧
      visit.processed env = .ok processed ∧ processed.mails.keys = (visit.mails env).keys := by
  have fetchedOk := visits.fetchMails_eq deliverable
  have searched := searchedMails_fetchMails attempt.fromImap fetchedOk
  rcases processMails_outcome searched with ⟨processed, processedOk, outcome⟩
  rcases visits.clock with ⟨timestamp, clock⟩
  refine ⟨processed, timestamp, ?_, ?_, outcome.keys_mails⟩
  · simp only [prepareUpdate, fetchedOk, processedOk, clock, Result.context, bind, Except.bind,
      pure, Except.pure]
  · rw [Visit.processed, ← visits.processMails_eq, processedOk]

end Visiting

section Observing

variable {env : Externals} {visits : List Visit} {events : List (Event env)}

theorem fst_observedAfter (events : List (Event env)) (startTime : UInt64) :
    (observedAfter events startTime).1 = stateAfter events startTime := by
  induction events using List.reverseRecOn with
  | nil => rfl
  | append_singleton events event ih =>
      rw [observedAfter, run_concat, stateAfter_concat, ← ih]
      rfl

theorem newsAfter_concat (previous : Option Visit) (visit : Visit) :
    newsAfter env previous (visits ++ [visit]) =
      newsAfter env previous visits ++ [visit.news env (visits.getLast?.or previous)] := by
  induction visits generalizing previous with
  | nil => simp [newsAfter]
  | cons first rest ih =>
      have last : (first :: rest).getLast?.or previous = rest.getLast?.or (some first) := by
        rw [List.getLast?_cons]
        cases rest.getLast? <;> rfl
      rw [List.cons_append, newsAfter, ih, newsAfter, List.cons_append, last]

/-- What is observed along a run belongs to the visits. -/
structure Observed (visits : List Visit) (observed : AppState × List (List String))
    (env : Externals) : Prop where
  firstUpdate : observed.1.firstUpdate = visits.isEmpty
  results : resultsOf env visits = .ok observed.1.results.processed
  keys : ∀ visit, visits.getLast? = some visit →
    observed.1.mails.keys = (visit.mails env).keys
  reports : observed.2 = newsAfter env none visits

theorem Observed.visit {observed : AppState × List (List String)}
    (earlier : Observed visits observed env) {visit : Visit} {attempt : Attempt env}
    (visited : attempt.Visits visit) (deliverable : visit.Deliverable env) :
    Observed (visits ++ [visit]) (Event.observe (.update attempt) observed) env := by
  rcases visited.prepareUpdate_eq deliverable with
    ⟨processed, timestamp, prepared, results, keys⟩
  have updated : bgUpdate env attempt observed.1 =
      (.ok (replaceState processed timestamp attempt.elapsed observed.1).1,
        (replaceState processed timestamp attempt.elapsed observed.1).2) := by
    simp [bgUpdate, prepared]
  have last : (visits ++ [visit]).getLast? = some visit := List.getLast?_concat
  constructor
  case firstUpdate => simp [Event.observe, Event.apply, updated]
  case results =>
    rw [resultsOf, last]
    simp only [Event.observe, Event.apply, updated, replaceState_eq, AppState.results]
    exact results
  case keys =>
    intro other found
    rw [last] at found
    cases found
    simp [Event.observe, Event.apply, updated, keys]
  case reports =>
    have news : (replaceState processed timestamp attempt.elapsed observed.1).1 =
        visit.news env visits.getLast? := by
      rw [replaceState_eq, earlier.firstUpdate, keys]
      cases before : visits.getLast? with
      | none =>
          rw [List.getLast?_eq_none_iff.mp before]
          rfl
      | some previous =>
          have some : visits.isEmpty = false := by
            cases visits with
            | nil => cases before
            | cons first rest => rfl
          rw [some, earlier.keys previous before]
          rfl
    rw [newsAfter_concat, Option.or_none, ← news, ← earlier.reports]
    simp only [Event.observe, Event.report, updated]

theorem Observed.unchanged {observed : AppState × List (List String)}
    (earlier : Observed visits observed env) {event : Event env}
    (silent : event.report observed.1 = [])
    (firstUpdate : (event.apply observed.1).firstUpdate = observed.1.firstUpdate)
    (results : (event.apply observed.1).results = observed.1.results) :
    Observed visits (event.observe observed) env := by
  have mails : (event.apply observed.1).mails = observed.1.mails :=
    congrArg (fun results => results.processed.mails) results
  constructor
  case firstUpdate => exact firstUpdate.trans earlier.firstUpdate
  case results => exact earlier.results.trans (by simp only [Event.observe, results])
  case keys =>
    intro visit last
    simp only [Event.observe, mails]
    exact earlier.keys visit last
  case reports =>
    simp only [Event.observe, silent, List.append_nil]
    exact earlier.reports

/-- Along a run with faithful servers, the state and the reported mails are determined by
the visited folders. -/
theorem Realises.observed (realises : Realises visits events)
    (deliverable : ∀ visit ∈ visits, visit.Deliverable env) (startTime : UInt64) :
    Observed visits (observedAfter events startTime) env := by
  induction realises with
  | start =>
      refine ⟨rfl, rfl, ?_, rfl⟩
      intro visit last
      cases last
  | visit before visited ih =>
      rw [observedAfter, run_concat]
      apply Observed.visit _ visited
      · exact deliverable _ (List.mem_append_right _ List.mem_cons_self)
      · exact ih fun visit visitMem => deliverable visit (List.mem_append_left _ visitMem)
  | failed before failure ih =>
      rw [observedAfter, run_concat]
      apply (ih deliverable).unchanged <;> simp [Event.report, Event.apply, bgUpdate, failure]
  | @interlude visits events step before ih =>
      rw [observedAfter, run_concat]
      cases step <;> exact (ih deliverable).unchanged rfl rfl rfl

/-- Nothing of the sessions can be seen in the state: after every run with faithful servers,
the results are those of the folders which were visited last, and the reported mails are
the differences between one visit and the next. -/
theorem delivery_of_run (realises : Realises visits events)
    (deliverable : ∀ visit ∈ visits, visit.Deliverable env) (startTime : UInt64) :
    resultsOf env visits = .ok (stateAfter events startTime).results.processed ∧
      (observedAfter events startTime).2 = newsAfter env none visits := by
  have observed := realises.observed deliverable startTime
  rw [← fst_observedAfter]
  exact ⟨observed.results, observed.reports⟩

end Observing

section Sample

/-! ### Two visits of a growing folder -/

def sampleStored (uid : UInt32) : StoredMail where
  uid := uid
  size := some 232
  envelope := { subject := some (Text.asBytes "Report"), sender := none, «to» := none }
  internalDate := 1714608000
  text := sampleBody

def sampleFolder (uids : List UInt32) (distinct : uids.Nodup) : Folder where
  mails := uids.map sampleStored
  distinct := by
    rw [List.map_map]
    exact (List.map_id uids).symm ▸ distinct

/-- The folder is visited with another chunk size than by the update. -/
def sampleVisit (uids : List UInt32) (distinct : uids.Nodup) : Visit where
  config := { sampleConfig with imapChunkSize := 1 }
  account _ := sampleFolder uids distinct

variable {uids : List UInt32} (distinct : uids.Nodup)

theorem serves_sampleSession :
    (sampleSession uids).Serves "INBOX" (sampleFolder uids distinct) := by
  have texts : ∀ uid ∈ uids, (sampleFolder uids distinct).textOf uid = sampleBody := by
    intro uid uidMem
    have stored : sampleStored uid ∈ (sampleFolder uids distinct).mails :=
      List.mem_map_of_mem uidMem
    exact Folder.textOf_uid stored
  refine ⟨rfl, rfl, ?_, ?_, ?_⟩
  · simp [sampleSession, sampleFolder]
  · refine ⟨uids.map (sampleFetch none), ?_, ?_⟩
    · simp only [sampleSession, List.map_map]
      rfl
    · simp only [sampleFolder, List.map_map]
      exact List.Perm.refl _
  · intro sent request known
    refine ⟨request.uids.map (sampleFetch (some sampleBody)), ?_, ?_⟩
    · simp only [sampleSession, List.map_map]
      rfl
    · rw [List.map_map]
      apply List.Perm.of_eq
      apply List.map_congr_left
      intro uid uidMem
      have stored := known uid uidMem
      simp only [sampleFolder, List.map_map, List.mem_map, Function.comp_apply, sampleStored,
        exists_eq_right] at stored
      simp only [Function.comp_apply, sampleFetch, texts uid stored]

theorem visits_sampleAttempt : (sampleAttempt uids).Visits (sampleVisit uids distinct) where
  config := rfl
  positive := Nat.one_le_of_lt (by decide : 1 < 2000)
  clock := ⟨_, rfl⟩
  dmarc := by
    intro name configured
    cases configured
  tls := by
    intro name configured
    cases configured
  default := by
    intro _ _
    exact ⟨sampleSession uids, serves_sampleSession distinct,
      default_folderInbox (isSome_getMails_sampleSession uids)⟩

theorem decodable_sampleFolder : (sampleFolder uids distinct).Decodable sampleEnv := by
  intro mail mailMem
  rcases List.mem_map.mp mailMem with ⟨uid, _, rfl⟩
  -- All sample mails have the same subject.
  have decoded : (sampleEnv.decodeSubject
      ((sampleStored 1).envelope.subjectText sampleEnv)).isSome := by
    decide +kernel
  exact decoded

theorem delivery_of_run_sample :
    resultsOf sampleEnv [sampleVisit [1] (by decide), sampleVisit [1, 4] (by decide)] =
        .ok (stateAfter [.update (sampleAttempt [1]), .interlude (.schedule 60),
          .update (sampleAttempt [1, 4])] 0).results.processed ∧
      (observedAfter [.update (sampleAttempt [1]), .interlude (.schedule 60),
          .update (sampleAttempt [1, 4])] 0).2 =
        newsAfter sampleEnv none [sampleVisit [1] (by decide), sampleVisit [1, 4] (by decide)] := by
  have first : Realises [sampleVisit [1] (by decide)] [.update (sampleAttempt [1])] :=
    Realises.visit .start (visits_sampleAttempt (by decide))
  have second : Realises [sampleVisit [1] (by decide), sampleVisit [1, 4] (by decide)]
      [.update (sampleAttempt [1]), .interlude (.schedule 60), .update (sampleAttempt [1, 4])] :=
    Realises.visit (.interlude first) (visits_sampleAttempt (by decide))
  apply delivery_of_run second
  intro visit visitMem
  have one : (sampleVisit [1] (by decide)).Deliverable sampleEnv := by
    constructor
    case collisionFree =>
      intro name searched
      cases List.mem_singleton.mp searched
      decide +kernel
    case decodable => exact fun _ _ => decodable_sampleFolder (by decide)
  have two : (sampleVisit [1, 4] (by decide)).Deliverable sampleEnv := by
    constructor
    case collisionFree =>
      intro name searched
      cases List.mem_singleton.mp searched
      decide +kernel
    case decodable => exact fun _ _ => decodable_sampleFolder (by decide)
  simp only [List.mem_cons, List.not_mem_nil, or_false] at visitMem
  rcases visitMem with rfl | rfl
  · exact one
  · exact two

end Sample

end DmarcReportViewer
