import DmarcReportViewer.Background.Accounting
import DmarcReportViewer.Background.Runs
import DmarcReportViewer.WebHook.Requests

/-!
# The background task

The model of `start_bg_task` from `background.rs`.  The task updates the state, calls the
web hook for every new mail, plans the next update and sleeps, until it is stopped.  The
HTTP handlers may write to the state at any time in between.  A call of the web hook which
never returns keeps the task from its next round.
-/

namespace DmarcReportViewer

open Collections Runs

/-- The settings of the task. -/
structure TaskSettings where
  config : Configuration
  webHook : WebHookSettings
  imapCheckInterval : UInt64
  /-- A schedule replaces the interval. -/
  scheduled : Bool

/-- One round of the loop: the update, what the handlers write before it and before each
call of the web hook, what each call meets, and the times which are read before the task
sleeps, in milliseconds. -/
structure Round (env : Externals) where
  attempt : Attempt env
  beforeUpdate : List Interlude
  beforeCall : ℕ → List Interlude
  order : ℕ → IterationOrder String String
  headerOrder : ℕ → IterationOrder String String
  network : ℕ → Network
  /-- How many frames of a response are waited for. -/
  fuel : ℕ → ℕ
  upcoming : Option Int
  now : Int
  later : Int

/-- The time to sleep in milliseconds. -/
def sleepTime {env : Externals} (settings : TaskSettings) (round : Round env) : Int :=
  let interval := settings.imapCheckInterval.toNat * 1000
  if settings.scheduled then
    match round.upcoming with
    | some nextUpdate => max (nextUpdate - round.now) 0
    | none => interval
  else
    interval

/-- The planned time of the next update in seconds. -/
def plannedUpdate {env : Externals} (settings : TaskSettings) (round : Round env) : UInt64 :=
  UInt64.ofNat (max ((round.later + sleepTime settings round) / 1000) 0).toNat

/-- The call of the web hook for one mail. -/
def Round.callWebHook {env : Externals} (externals : WebHookExternals) (settings : TaskSettings)
    (round : Round env) (number : ℕ) (mailId : String) (state : AppState) :
    Option (Result Unit) :=
  mailWebHook externals (round.network number) settings.config settings.webHook
    (round.order number) (round.headerOrder number) mailId state (round.fuel number)

/-- The calls of the web hook for the new mails, one after the other. -/
def callWebHooks {env : Externals} (externals : WebHookExternals) (settings : TaskSettings)
    (round : Round env) : List String → ℕ → AppState →
      List (String × Option (Result Unit)) × AppState
  | [], _, state => ([], state)
  | mailId :: mailIds, number, state =>
      let state := run Interlude.apply (round.beforeCall number) state
      let call := round.callWebHook externals settings number mailId state
      let rest := callWebHooks externals settings round mailIds (number + 1) state
      ((mailId, call) :: rest.1, rest.2)

/-- One round of the loop, together with the calls that were made so far. -/
def Round.perform {env : Externals} (externals : WebHookExternals) (settings : TaskSettings)
    (round : Round env) (task : AppState × List (String × Option (Result Unit))) :
    AppState × List (String × Option (Result Unit)) :=
  let state := run Interlude.apply round.beforeUpdate task.1
  let updated := bgUpdate env round.attempt state
  let called := callWebHooks externals settings round (webHookCalls settings.config updated.1) 0
    updated.2
  ({ called.2 with nextUpdate := plannedUpdate settings round }, task.2 ++ called.1)

/-- The state and the calls after some rounds. -/
def taskAfter {env : Externals} (externals : WebHookExternals) (settings : TaskSettings)
    (rounds : List (Round env)) (startTime : UInt64) :
    AppState × List (String × Option (Result Unit)) :=
  run (Round.perform externals settings) rounds (AppState.new startTime, [])

section Calls

variable {env : Externals} {externals : WebHookExternals} {settings : TaskSettings}

/-- The parts of the state which the handlers do not write. -/
structure AppState.SameMails (state other : AppState) : Prop where
  firstUpdate : state.firstUpdate = other.firstUpdate
  mails : state.mails = other.mails
  reports : ∀ fileType, state.reports fileType = other.reports fileType

theorem AppState.SameMails.trans {first second third : AppState} (same : first.SameMails second)
    (next : second.SameMails third) : first.SameMails third :=
  ⟨same.firstUpdate.trans next.firstUpdate, same.mails.trans next.mails,
    fun fileType => (same.reports fileType).trans (next.reports fileType)⟩

theorem AppState.SameMails.schedule {state other : AppState} (same : state.SameMails other)
    (nextUpdate : UInt64) : ({ state with nextUpdate := nextUpdate }).SameMails other := by
  refine ⟨same.firstUpdate, same.mails, ?_⟩
  intro fileType
  cases fileType
  · exact same.reports .json
  · exact same.reports .xml

theorem sameMails_interludes (interludes : List Interlude) (state : AppState) :
    (run Interlude.apply interludes state).SameMails state := by
  apply run_invariant fun other : AppState => other.SameMails state
  · exact ⟨rfl, rfl, fun _ => rfl⟩
  · intro step other same
    cases step with
    | schedule nextUpdate => exact same.schedule nextUpdate
    | cacheLocation order ip location =>
        refine ⟨same.firstUpdate, same.mails, ?_⟩
        intro fileType
        cases fileType
        · exact same.reports .json
        · exact same.reports .xml

/-- All calls of a round see the mails and the reports of its update. -/
theorem callWebHooks_eq (round : Round env) (mailIds : List String) (number : ℕ)
    (state : AppState) :
    (callWebHooks externals settings round mailIds number state).1 =
        (mailIds.zipIdx number).map (fun entry =>
          (entry.1, round.callWebHook externals settings entry.2 entry.1 state)) ∧
      (callWebHooks externals settings round mailIds number state).2.SameMails state := by
  induction mailIds generalizing number state with
  | nil => exact ⟨rfl, rfl, rfl, fun _ => rfl⟩
  | cons mailId mailIds ih =>
      have same := sameMails_interludes (round.beforeCall number) state
      have call : ∀ place id, round.callWebHook externals settings place id
          (run Interlude.apply (round.beforeCall number) state) =
            round.callWebHook externals settings place id state := by
        intro place id
        exact mailWebHook_congr same.mails same.reports
      rcases ih (number + 1) (run Interlude.apply (round.beforeCall number) state) with
        ⟨calls, after⟩
      refine ⟨?_, after.trans same⟩
      simp only [callWebHooks, calls, call, List.zipIdx_cons, List.map_cons]

theorem AppState.SameMails.knows {state other : AppState} (same : state.SameMails other)
    {last : Option (BTreeMap String Mail)} (knows : other.Knows last) : state.Knows last := by
  refine ⟨same.firstUpdate.trans knows.firstUpdate, ?_⟩
  intro id
  rw [same.mails]
  exact knows.mails id

variable (externals settings) in
/-- A round which updates the state in vain makes no call. -/
theorem Round.perform_of_failed (round : Round env)
    (task : AppState × List (String × Option (Result Unit)))
    (failed : round.attempt.mailbox? = none) :
    (round.perform externals settings task).1.SameMails task.1 ∧
      (round.perform externals settings task).2 = task.2 := by
  have before := sameMails_interludes round.beforeUpdate task.1
  rcases bgUpdate_cases (run Interlude.apply round.beforeUpdate task.1) round.attempt with
    ⟨error, _, unchanged⟩ | ⟨fetched, processed, timestamp, preparedOk, fetchedOk, _, _, _⟩
  · simp only [Round.perform, unchanged, webHookCalls, callWebHooks, List.append_nil]
    exact ⟨before.schedule _, trivial⟩
  · rw [mailbox?_of_ok fetchedOk preparedOk] at failed
    cases failed

/-- The calls of a round for its new mails. -/
def Round.callsFor (externals : WebHookExternals) (settings : TaskSettings) (round : Round env)
    (newMails : List String) (state : AppState) : List (String × Option (Result Unit)) :=
  newMails.zipIdx.map fun entry =>
    (entry.1, round.callWebHook externals settings entry.2 entry.1 state)

variable (externals settings) in
/-- A round which finds a mailbox makes one call for each of its new mails, if the hook has
a URL.  Every call has the details which the update has left. -/
theorem Round.perform_of_found (round : Round env)
    (task : AppState × List (String × Option (Result Unit)))
    {last : Option (BTreeMap String Mail)} {mailbox : BTreeMap String Mail}
    (knows : task.1.Knows last) (found : round.attempt.mailbox? = some mailbox) :
    ∃ (newMails : List String) (updated : AppState), newMails.Nodup ∧
      (∀ id, id ∈ newMails ↔ id ∈ mailbox ∧ ∃ previous, last = some previous ∧ id ∉ previous) ∧
      (∀ id ∈ newMails, id ∈ updated.mails) ∧
      bgUpdate env round.attempt (run Interlude.apply round.beforeUpdate task.1) =
        (.ok newMails, updated) ∧
      (round.perform externals settings task).1.Knows (some mailbox) ∧
      (round.perform externals settings task).2 = task.2 ++ round.callsFor externals settings
        (if settings.config.mailWebHookUrl.isSome then newMails else []) updated := by
  have knowsHere := (sameMails_interludes round.beforeUpdate task.1).knows knows
  rcases bgUpdate_cases (run Interlude.apply round.beforeUpdate task.1) round.attempt with
    ⟨error, failed, _⟩ | ⟨fetched, processed, timestamp, preparedOk, fetchedOk, _, outcome, updated⟩
  · rw [mailbox?_of_error failed] at found
    cases found
  · rw [mailbox?_of_ok fetchedOk preparedOk] at found
    cases found
    obtain ⟨newMails, newMails_eq⟩ : ∃ newMails, (replaceState processed timestamp
        round.attempt.elapsed (run Interlude.apply round.beforeUpdate task.1)).1 = newMails :=
      ⟨_, rfl⟩
    have new : ∀ id, id ∈ newMails ↔
        id ∈ mailbox ∧ ∃ previous, last = some previous ∧ id ∉ previous := by
      intro id
      rw [← newMails_eq, knowsHere.mem_new_iff, outcome.mem_mails_iff]
    have knowsUpdated : (replaceState processed timestamp round.attempt.elapsed
        (run Interlude.apply round.beforeUpdate task.1)).2.Knows (some mailbox) := by
      refine ⟨by simp, ?_⟩
      intro id
      simp [outcome.mem_mails_iff]
    rw [newMails_eq] at updated
    have calls := @callWebHooks_eq env externals settings round
    have made : webHookCalls settings.config (.ok newMails) =
        if settings.config.mailWebHookUrl.isSome then newMails else [] := by
      simp only [webHookCalls]
      cases newMails <;> cases settings.config.mailWebHookUrl <;> rfl
    refine ⟨newMails, _, ?_, new, ?_, updated, ?_, ?_⟩
    · rw [← newMails_eq]
      exact nodup_new_replaceState _ _ _ _
    · intro id listed
      rw [knowsUpdated.mails]
      exact ⟨mailbox, rfl, ((new id).mp listed).1⟩
    · simp only [Round.perform, updated]
      exact ((calls _ _ _).2.schedule _).knows knowsUpdated
    · simp only [Round.perform, updated, made, (calls _ _ _).1, Round.callsFor]

end Calls

section WholeRuns

variable {env : Externals}

/-- The mailboxes which are found by some rounds. -/
def mailboxes (rounds : List (Round env)) : List (BTreeMap String Mail) :=
  rounds.filterMap fun round => round.attempt.mailbox?

variable {rounds : List (Round env)} {round : Round env}

theorem mailboxes_concat_of_none (failed : round.attempt.mailbox? = none) :
    mailboxes (rounds ++ [round]) = mailboxes rounds := by
  simp [mailboxes, failed]

theorem mailboxes_concat_of_some {mailbox : BTreeMap String Mail}
    (found : round.attempt.mailbox? = some mailbox) :
    mailboxes (rounds ++ [round]) = mailboxes rounds ++ [mailbox] := by
  simp [mailboxes, found]

variable (externals : WebHookExternals) (settings : TaskSettings) (startTime : UInt64)

theorem taskAfter_concat :
    taskAfter externals settings (rounds ++ [round]) startTime =
      round.perform externals settings (taskAfter externals settings rounds startTime) :=
  run_concat rounds round

variable (rounds) in
theorem knows_taskAfter :
    (taskAfter externals settings rounds startTime).1.Knows (mailboxes rounds).getLast? := by
  induction rounds using List.reverseRecOn with
  | nil =>
      refine ⟨rfl, ?_⟩
      intro id
      simp [taskAfter, AppState.new, mailboxes]
  | append_singleton rounds round ih =>
      rw [taskAfter_concat]
      cases found : round.attempt.mailbox? with
      | none =>
          rw [mailboxes_concat_of_none found]
          exact (round.perform_of_failed externals settings _ found).1.knows ih
      | some mailbox =>
          rcases round.perform_of_found externals settings _ ih found with
            ⟨_, _, _, _, _, _, knows, _⟩
          rw [mailboxes_concat_of_some found, List.getLast?_concat]
          exact knows

theorem map_fst_callsFor (round : Round env) (newMails : List String) (state : AppState) :
    (round.callsFor externals settings newMails state).map Prod.fst = newMails := by
  rw [Round.callsFor, List.map_map]
  exact List.zipIdx_map_fst 0 newMails

variable (rounds) in
/-- How often the hook is called for a mail: once whenever it is found after it was missing,
if the hook has a URL. -/
theorem count_taskAfter (id : String) :
    ((taskAfter externals settings rounds startTime).2.map Prod.fst).count id =
      if settings.config.mailWebHookUrl.isSome then
        rises ((mailboxes rounds).map fun mailbox => decide (id ∈ mailbox))
      else
        0 := by
  induction rounds using List.reverseRecOn with
  | nil => simp [taskAfter, mailboxes, rises]
  | append_singleton rounds round ih =>
      have knows := knows_taskAfter rounds externals settings startTime
      rw [taskAfter_concat]
      cases found : round.attempt.mailbox? with
      | none =>
          rw [mailboxes_concat_of_none found, ← ih,
            (round.perform_of_failed externals settings _ found).2]
      | some mailbox =>
          rcases round.perform_of_found externals settings _ knows found with
            ⟨newMails, _, distinct, new, _, _, _, calls⟩
          rw [calls, List.map_append, List.count_append, ih, map_fst_callsFor,
            mailboxes_concat_of_some found, List.map_append, List.map_singleton, rises_concat]
          split
          · rw [distinct.count, List.getLast?_map]
            congr 1
            apply if_congr _ rfl rfl
            rw [new, decide_eq_true_iff]
            cases (mailboxes rounds).getLast? with
            | none => simp
            | some previous => simp [and_comm]
          · rfl

def sampleWebHook : WebHookExternals where
  urlEncode value := value
  parseMethod method := .ok method
  parseHeaders _ := .error "expected value at line 1 column 1"

def sampleTask : TaskSettings where
  config := { sampleConfig with mailWebHookUrl := some "http://hook.example/[id]" }
  webHook := { mailWebHookMethod := "POST", mailWebHookHeaders := none, mailWebHookBody := none }
  imapCheckInterval := 60
  scheduled := false

def sampleRound (uids : List UInt32) : Round sampleEnv where
  attempt := sampleAttempt uids
  beforeUpdate := []
  beforeCall _ := [.schedule 60]
  order _ := .byKey String String
  headerOrder _ := .byKey String String
  network _ := sampleNetwork fun _ => none
  fuel _ := 1
  upcoming := none
  now := 1714608000000
  later := 1714608000000

end WholeRuns

end DmarcReportViewer
