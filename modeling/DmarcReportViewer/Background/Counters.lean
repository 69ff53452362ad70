import DmarcReportViewer.Background.Accounting

/-!
# The file counters of the mails

A mail counts every file that was extracted from it, and the state counts the entries of
the file maps, where a repeated file replaces the first one.
-/

namespace DmarcReportViewer

open Collections

/-- The mails and the state count the same files, and every file of a mail became a
report, a duplicate or an error. -/
structure CountersAgree (after : AppState) : Prop where
  total : ∀ fileType, ((valueList after.mails).map fun mail => mail.files fileType).sum =
    after.fileCount fileType
  mail : ∀ (fileType : FileType) (id : String) (mail : Mail), after.mails[id]? = some mail →
    mail.files fileType =
      ((valueList (after.reports fileType)).filter fun rwi => rwi.mailId = id).length +
        (mail.duplicates fileType).length + mail.parsingErrors fileType

/-- No two files of a type in a mail have the same data. -/
def CarriesOnce (env : Externals) (config : Configuration) (mail : Mail) : Prop :=
  ∀ fileType, (((filesOf env config mail).filter fun file => file.fileType = fileType).map
    ReportFile.data).Nodup

variable {env : Externals} {config : Configuration} {fetched : BTreeMap String Mail}

section Counting

/-- The file counter of a mail is the number of its different files only if none of them
is repeated. -/
theorem carriesOnce_iff {mail : Mail} (fresh : mail.Fresh) (id : String) :
    CarriesOnce env config mail ↔
      ∀ fileType, (finishedMail env config fetched id mail).files fileType =
        (distinctData env config mail fileType).length := by
  apply forall_congr'
  intro fileType
  rw [files_finishedMail fresh, distinctData, ← List.dedup_eq_self,
    ← (List.dedup_sublist _).length_eq, List.length_map]
  exact eq_comm

/-- What an update counts for the mails, and what it counts in total. -/
theorem countersAgree_replaceState_iff (searched : SearchedMails env config fetched)
    (collisionFree : CollisionFree env.sha256 (hashedBytes env config fetched))
    {processed : Processed} (outcome : ProcessOutcome env config fetched processed)
    (timestamp : UInt64) (elapsed : Float) (state : AppState) :
    CountersAgree (replaceState processed timestamp elapsed state).2 ↔
      ∀ (id : String) (mail : Mail), fetched[id]? = some mail → CarriesOnce env config mail := by
  constructor
  · intro agree id mail found
    rw [carriesOnce_iff (searched.fresh found) id]
    intro fileType
    rw [length_distinctData_eq_add searched collisionFree outcome found]
    have balance := agree.mail fileType id (finishedMail env config fetched id mail)
    rw [mails_replaceState, outcome.mails, found, reports_replaceState] at balance
    exact balance rfl
  · intro once
    have counted : ∀ (fileType : FileType) (id : String) (mail : Mail),
        fetched[id]? = some mail →
          (finishedMail env config fetched id mail).files fileType =
            (distinctData env config mail fileType).length := by
      intro fileType id mail found
      exact (carriesOnce_iff (searched.fresh found) id).mp (once id mail found) fileType
    constructor
    · intro fileType
      rw [mails_replaceState, fileCount_replaceState,
        fileCount_eq_sum searched collisionFree outcome, outcome.mails_eq_map, valueList,
        Std.ExtTreeMap.toList_map, List.map_map, List.map_map]
      apply congrArg List.sum
      apply List.map_congr_left
      rintro ⟨id, mail⟩ listed
      exact counted fileType id mail (Std.ExtTreeMap.mem_toList_iff_getElem?_eq_some.mp listed)
    · intro fileType id mail found
      rw [mails_replaceState, outcome.mails] at found
      rcases Option.map_eq_some_iff.mp found with ⟨original, present, rfl⟩
      rw [reports_replaceState, counted fileType id original present]
      exact length_distinctData_eq_add searched collisionFree outcome present fileType

end Counting

section Results

/-- The counters agree exactly when no mail carries a file twice. -/
theorem countersAgree_iff (attempt : Attempt env) {mails : BTreeMap String Mail}
    (fetchedOk : fetchMails attempt.config attempt.inbox attempt.order = .ok mails)
    (collisionFree : CollisionFree env.sha256 (hashedBytes env attempt.config mails))
    (state : AppState) {newMails : List String} {after : AppState}
    (updated : bgUpdate env attempt state = (.ok newMails, after)) :
    CountersAgree after ↔
      ∀ (id : String) (mail : Mail), mails[id]? = some mail →
        CarriesOnce env attempt.config mail := by
  rcases bgUpdate_cases state attempt with ⟨error, _, failed⟩ |
    ⟨fetched, processed, timestamp, _, fetchedHere, searched, outcome, succeeded⟩
  · rw [failed] at updated
    cases updated
  · rw [fetchedOk] at fetchedHere
    cases fetchedHere
    rw [succeeded] at updated
    cases updated
    exact countersAgree_replaceState_iff searched collisionFree outcome _ _ _

theorem countersAgree_iff_sample :
    CountersAgree (bgUpdate sampleEnv (sampleAttempt [1, 4]) (AppState.new 0)).2 ↔
      ∀ (id : String) (mail : Mail), (sampleMails [1, 4])[id]? = some mail →
        CarriesOnce sampleEnv sampleConfig mail :=
  countersAgree_iff (sampleAttempt [1, 4]) fetchMails_sampleAttempt collisionFree_sampleMails
    (AppState.new 0) bgUpdate_sampleAttempt

/-- A mail with the same report in two attachments. -/
def repeatedBody : List UInt8 :=
  Text.asBytes "Content-Type: multipart/mixed; boundary=b\r\n\r\n--b\r\n" ++ sampleHeader ++
    sampleJson "Example" "12" ++ Text.asBytes "\r\n--b\r\n" ++ sampleHeader ++
      sampleJson "Example" "12" ++ Text.asBytes "\r\n--b--\r\n"

def repeatedEnv : Externals :=
  { sampleEnv with
    parseMail := fun bytes =>
      if bytes = repeatedBody then
        .ok [
          { contentType := some "multipart/mixed; boundary=b", bodyRaw := .ok [] },
          { contentType := some "application/tlsrpt+json"
            bodyRaw := .ok (sampleJson "Example" "12") },
          { contentType := some "application/tlsrpt+json"
            bodyRaw := .ok (sampleJson "Example" "12") }]
      else
        .error "unexpected mail" }

def repeatedFetch (body : Option (List UInt8)) : Fetch :=
  { sampleFetch body 1 with size := some (UInt32.ofNat repeatedBody.length) }

def repeatedSession : Session :=
  { sampleSession [1] with
    fetch := fun _ _ => .ok [.ok (repeatedFetch none)]
    uidFetch := fun _ _ => .ok [.ok (repeatedFetch (some repeatedBody))] }

theorem isSome_getMails_repeatedSession :
    (getMails repeatedEnv sampleConfig repeatedSession "INBOX").run.isSome := by
  decide +kernel

def repeatedAttempt : Attempt repeatedEnv where
  config := sampleConfig
  inbox := folderInbox _ isSome_getMails_repeatedSession
  fromImap := {
    dmarc := by
      intro folder configured
      cases configured
    tls := by
      intro folder configured
      cases configured
    default := by
      intro _ _
      exact ⟨repeatedSession, default_folderInbox isSome_getMails_repeatedSession⟩ }
  order := { dmarc := .byKey String Mail, tls := .byKey String Mail, default := .byKey String Mail }
  clock := .ok 1714608000
  elapsed := 0.5

/-- The update counts the file twice for the mail and once in total. -/
theorem not_countersAgree_sample :
    (bgUpdate repeatedEnv repeatedAttempt (AppState.new 0)).1 = .ok [] ∧
      ¬ CountersAgree (bgUpdate repeatedEnv repeatedAttempt (AppState.new 0)).2 := by
  refine ⟨by decide +kernel, fun agree => ?_⟩
  have total := agree.total .json
  revert total
  decide +kernel

end Results

end DmarcReportViewer
