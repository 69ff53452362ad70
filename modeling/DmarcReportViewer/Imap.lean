import DmarcReportViewer.Unpack

/-!
# Downloading mails

The model of `imap.rs`.  One call of `getMails` is one session with the IMAP
server.  The answers of the server are arbitrary: any stream of responses, in
any order, complete or not, may follow a request.  The hash map of the mails is
read in an arbitrary iteration order.  A subject of a mail can make the metadata
phase panic.
-/

namespace DmarcReportViewer

open Collections Fallible Text

structure Address where
  mailbox : Option (List UInt8)
  host : Option (List UInt8)

structure Envelope where
  subject : Option (List UInt8)
  sender : Option (List Address)
  «to» : Option (List Address)

/-- A response to a FETCH request. -/
structure Fetch where
  uid : Option UInt32
  size : Option UInt32
  envelope : Option Envelope
  internalDate : Option Int
  body : Option (List UInt8)

/-- A UID FETCH request. -/
structure UidFetch where
  uids : List UInt32
  query : String
deriving DecidableEq

/-- What happens in one session: the outcomes of the connection set-up and the
server's answers to the requests.  The answer to a UID FETCH request may depend on
those before. -/
structure Session where
  createClient : Result Unit
  login : Result Unit
  select : String → Result Nat
  fetch : String → String → Result (List (Result Fetch))
  uidFetch : List UidFetch → UidFetch → Result (List (Result Fetch))
  order : IterationOrder String Mail

/-- Send a UID FETCH request after others: the answer to it, and all requests sent. -/
def Session.send (session : Session) (sent : List UidFetch) (request : UidFetch) :
    Result (List (Result Fetch)) × List UidFetch :=
  (session.uidFetch sent request, sent ++ [request])

/-- The mails of a download, and the requests which were sent for their bodies. -/
structure Download where
  mails : HashMap String Mail
  sent : List UidFetch

def addrsToString (env : Externals) (addrs : Option (List Address)) : String :=
  match addrs with
  | some addrs =>
      "; ".intercalate (addrs.map fun addr =>
        let mailbox := (addr.mailbox.map env.fromUtf8Lossy).getD "n/a"
        let host := (addr.host.map env.fromUtf8Lossy).getD "n/a"
        mailbox ++ "@" ++ host)
  | none => "n/a"

/-- The ID of a mail: the UID alone is not globally unique. -/
def mailId (env : Externals) (uid : UInt32) (account folder : String) : String :=
  createHash env.sha256 [toLeBytes uid, asBytes account, asBytes folder]

/-- The subject which is decoded for a mail. -/
def Envelope.subjectText (env : Externals) (envelope : Envelope) : String :=
  (envelope.subject.map env.fromUtf8Lossy).getD "n/a"

def extractMetadata (env : Externals) (mail : Fetch) (maxSize : Nat) (account folder : String) :
    MayPanic Mail := do
  let uid ← orError mail.uid "Mail server did not provide UID"
  let size := (mail.size.getD 0).toNat
  let envelope ← orError mail.envelope "Mail server did not provide envelope"
  let sender := addrsToString env envelope.sender
  let recipients := addrsToString env envelope.«to»
  let date ← orError mail.internalDate "Mail server did not provide date"
  let subject ← env.decodeSubject (envelope.subjectText env)
  return {
    id := mailId env uid account folder
    account := account
    folder := folder
    body := none
    uid := uid
    sender := sender
    «to» := recipients
    subject := subject
    date := date
    size := size
    oversized := maxSize < size
    xmlFiles := 0
    jsonFiles := 0
    xmlParsingErrors := 0
    jsonParsingErrors := 0
    dmarcDuplicates := []
    tlsDuplicates := [] }

/-- One response of the metadata phase. -/
def receiveMetadata (env : Externals) (config : Configuration) (imapFolder : String)
    (mails : HashMap String Mail) (fetchResult : Result Fetch) :
    MayPanic (HashMap String Mail) := do
  let fetched ← fetchResult.context "Failed to get next mail header from IMAP fetch response"
  let mail ← (extractMetadata env fetched config.maxMailSize.toNat config.imapUser
    imapFolder).context "Unable to extract mail metadata"
  return mails.insert mail.id mail

/-- Keep a downloaded body unless the mail turns out to be oversized. -/
def Mail.storeBody (mail : Mail) (maxMailSize : Nat) (body : List UInt8) : Mail :=
  let oversized := decide (maxMailSize < body.length)
  { mail with
    body := if oversized then none else some body
    size := body.length
    oversized := oversized }

/-- One response of the body phase. -/
def receiveBody (config : Configuration) (uidIdMap : HashMap UInt32 String)
    (mails : HashMap String Mail) (fetchResult : Result Fetch) :
    Result (HashMap String Mail) := do
  let fetched ← fetchResult.context "Failed to get next mail header from IMAP fetch response"
  let uid ← orError fetched.uid "Failed to get UID from IMAP fetch result"
  match uidIdMap[uid]? with
  | none => return mails
  | some id =>
      match mails[id]?, fetched.body with
      | some mail, some body =>
          return mails.insert id (mail.storeBody config.maxMailSize.toNat body)
      | _, _ => return mails

/-- The chunks of a list, each of the given positive size but for the last. -/
def chunks {α : Type} (size : Nat) (items : List α) : List (List α) :=
  go items.length items
where
  go : Nat → List α → List (List α)
    | _, [] => []
    | 0, _ :: _ => []
    | fuel + 1, item :: rest =>
        (item :: rest).take size :: go fuel ((item :: rest).drop size)

/-- Download the bodies of one chunk of mails.  The IDs were read from the same
map, so that looking them up cannot fail. -/
def fetchChunk (config : Configuration) (session : Session) (download : Download)
    (chunk : List String) : Result Download := do
  let requested := chunk.filterMap fun id => download.mails[id]?
  let uidIdMap : HashMap UInt32 String :=
    requested.foldl (fun uidIdMap mail => uidIdMap.insert mail.uid mail.id) ∅
  let uids := requested.map Mail.uid
  let bodyRequest := config.imapBodyRequest.toRequestString
  let fetchQuery := "(" ++ bodyRequest ++ " RFC822.SIZE UID ENVELOPE INTERNALDATE)"
  let (answer, sent) := session.send download.sent { uids := uids, query := fetchQuery }
  let stream ← answer.context "Failed to fetch message stream from IMAP inbox"
  let mails ← stream.foldlM (receiveBody config uidIdMap) download.mails
  return { mails := mails, sent := sent }

/-- The metadata phase: all mails of the folder, without their bodies. -/
def fetchMetadata (env : Externals) (config : Configuration) (session : Session)
    (imapFolder : String) (mailboxExists : Nat) : MayPanic (HashMap String Mail) :=
  if 0 < mailboxExists then do
    let sequence := "1:" ++ toString mailboxExists
    let stream ← (session.fetch sequence "(RFC822.SIZE UID ENVELOPE INTERNALDATE)").context
      "Failed to fetch message stream from IMAP inbox"
    stream.foldlM (receiveMetadata env config imapFolder) ∅
  else
    pure ∅

/-- The body phase: the bodies of all mails which are not oversized. -/
def fetchBodies (config : Configuration) (session : Session) (mails : HashMap String Mail) :
    Result Download :=
  let ids := ((iterate session.order mails).filter fun entry => !entry.2.oversized).map
    fun entry => entry.2.id
  if ids.isEmpty then
    .ok { mails := mails, sent := [] }
  else if 0 < config.imapChunkSize then
    (chunks config.imapChunkSize ids).foldlM (fetchChunk config session)
      { mails := mails, sent := [] }
  else
    .error "IMAP Chunk size must be non-zero"

/-- The session of `getMails`, with the requests which it sends. -/
def download (env : Externals) (config : Configuration) (session : Session)
    (imapFolder : String) : MayPanic Download := do
  session.createClient.context "Failed to create IMAP client"
  session.login.context "Failed to log in and create IMAP session"
  let mailboxExists ← (session.select imapFolder).context
    ("Failed to select " ++ imapFolder ++ " folder")
  let mails ← fetchMetadata env config session imapFolder mailboxExists
  fetchBodies config session mails

def getMails (env : Externals) (config : Configuration) (session : Session)
    (imapFolder : String) : MayPanic (HashMap String Mail) := do
  let downloaded ← download env config session imapFolder
  return downloaded.mails

section Panics

variable {env : Externals} {config : Configuration} {session : Session} {imapFolder : String}

/-- The subject in a response can be decoded. -/
def Fetch.Decodable (env : Externals) (fetched : Fetch) : Prop :=
  ∀ envelope, fetched.envelope = some envelope →
    (env.decodeSubject (envelope.subjectText env)).isSome

theorem isSome_run_extractMetadata {fetched : Fetch} (decodable : fetched.Decodable env)
    (maxSize : Nat) (account folder : String) :
    (extractMetadata env fetched maxSize account folder).run.isSome := by
  refine isSome_run_bind rfl fun uid _ => isSome_run_bind rfl fun envelope found => ?_
  refine isSome_run_bind rfl fun date _ => ?_
  have given : fetched.envelope = some envelope :=
    orError_eq_ok_iff.mp (Option.some.inj found)
  rcases Option.isSome_iff_exists.mp (decodable envelope given) with ⟨subject, decoded⟩
  exact isSome_run_bind (by rw [decoded]; rfl) fun _ _ => rfl

/-- Only a subject which cannot be decoded makes a session panic. -/
theorem isSome_run_getMails
    (decodable : ∀ sequence query stream, session.fetch sequence query = .ok stream →
      ∀ fetched, .ok fetched ∈ stream → fetched.Decodable env) :
    (getMails env config session imapFolder).run.isSome := by
  have metadata : ∀ mailboxExists,
      (fetchMetadata env config session imapFolder mailboxExists).run.isSome := by
    intro mailboxExists
    simp only [fetchMetadata]
    split
    · refine isSome_run_bind rfl fun stream answered => ?_
      have streamed := context_eq_ok_iff.mp (Option.some.inj answered)
      refine isSome_run_foldlM fun mails response member => ?_
      refine isSome_run_bind rfl fun fetched received => ?_
      have delivered := context_eq_ok_iff.mp (Option.some.inj received)
      refine isSome_run_bind ?_ fun _ _ => rfl
      simp only [MayPanic.context, ExceptT.run_mk, Option.isSome_map]
      exact isSome_run_extractMetadata (decodable _ _ stream streamed fetched (delivered ▸ member))
        _ _ _
    · rfl
  refine isSome_run_bind (isSome_run_bind rfl fun _ _ => ?_) fun _ _ => rfl
  refine isSome_run_bind rfl fun _ _ => isSome_run_bind rfl fun mailboxExists _ => ?_
  exact isSome_run_bind (metadata mailboxExists) fun _ _ => rfl

end Panics

section Delivered

variable {env : Externals} {config : Configuration} {session : Session} {imapFolder : String}

/-- A mail as a session delivers it: none of its files was looked at, and its
ID is the hash of its UID and of where it was found. -/
structure Mail.DeliveredFrom (env : Externals) (config : Configuration) (folder : String)
    (mail : Mail) : Prop where
  fresh : mail.Fresh
  account : mail.account = config.imapUser
  folder : mail.folder = folder
  id : mail.id = mailId env mail.uid config.imapUser mail.folder

/-- Every entry of a map is a delivered mail under its own ID. -/
def DeliveredMails (env : Externals) (config : Configuration) (folder : String)
    (mails : HashMap String Mail) : Prop :=
  ∀ (id : String) (mail : Mail), mails[id]? = some mail →
    mail.id = id ∧ mail.DeliveredFrom env config folder

theorem DeliveredMails.insert {mails : HashMap String Mail}
    (delivered : DeliveredMails env config imapFolder mails) {mail : Mail}
    (new : mail.DeliveredFrom env config imapFolder) :
    DeliveredMails env config imapFolder (mails.insert mail.id mail) := by
  intro id found lookup
  rw [Std.ExtTreeMap.getElem?_insert] at lookup
  split at lookup
  · next same =>
      cases lookup
      exact ⟨Std.compare_eq_iff_eq.mp same, new⟩
  · exact delivered id found lookup

theorem deliveredFrom_of_extractMetadata {fetched : Fetch} {maxSize : Nat} {mail : Mail}
    (extracted : (extractMetadata env fetched maxSize config.imapUser imapFolder).run =
      some (.ok mail)) : mail.DeliveredFrom env config imapFolder := by
  simp only [extractMetadata, run_bind_eq_ok_iff, run_pure_eq_ok_iff] at extracted
  rcases extracted with ⟨uid, _, envelope, _, date, _, subject, _, rfl⟩
  refine ⟨⟨?_, ?_, ?_⟩, rfl, rfl, rfl⟩ <;>
  · intro fileType
    cases fileType <;> rfl

theorem deliveredMails_receiveMetadata {mails next : HashMap String Mail}
    {fetchResult : Result Fetch} (delivered : DeliveredMails env config imapFolder mails)
    (received : (receiveMetadata env config imapFolder mails fetchResult).run =
      some (.ok next)) : DeliveredMails env config imapFolder next := by
  simp only [receiveMetadata, run_bind_eq_ok_iff, run_context_eq_ok_iff, run_pure_eq_ok_iff]
    at received
  rcases received with ⟨fetched, _, mail, extracted, rfl⟩
  exact delivered.insert (deliveredFrom_of_extractMetadata extracted)

theorem Mail.DeliveredFrom.storeBody {mail : Mail}
    (delivered : mail.DeliveredFrom env config imapFolder) (maxMailSize : Nat)
    (body : List UInt8) :
    (mail.storeBody maxMailSize body).DeliveredFrom env config imapFolder := by
  refine ⟨⟨?_, ?_, ?_⟩, delivered.account, delivered.folder, delivered.id⟩
  · intro fileType
    cases fileType
    · exact delivered.fresh.files .json
    · exact delivered.fresh.files .xml
  · intro fileType
    cases fileType
    · exact delivered.fresh.parsingErrors .json
    · exact delivered.fresh.parsingErrors .xml
  · intro fileType
    cases fileType
    · exact delivered.fresh.duplicates .json
    · exact delivered.fresh.duplicates .xml

theorem deliveredMails_receiveBody {uidIdMap : HashMap UInt32 String}
    {mails next : HashMap String Mail} {fetchResult : Result Fetch}
    (delivered : DeliveredMails env config imapFolder mails)
    (received : receiveBody config uidIdMap mails fetchResult = .ok next) :
    DeliveredMails env config imapFolder next := by
  simp only [receiveBody, bind_eq_ok_iff] at received
  rcases received with ⟨fetched, _, uid, _, stored⟩
  split at stored
  · simp only [pure_eq_ok_iff] at stored
    exact stored ▸ delivered
  · next id _ =>
      split at stored
      · next mail body present _ =>
          simp only [pure_eq_ok_iff] at stored
          subst stored
          have original := delivered id mail present
          have updated := delivered.insert
            (original.2.storeBody config.maxMailSize.toNat body)
          have sameId : (mail.storeBody config.maxMailSize.toNat body).id = id := original.1
          rw [sameId] at updated
          exact updated
      · simp only [pure_eq_ok_iff] at stored
        exact stored ▸ delivered

theorem deliveredMails_fetchChunk {before after : Download} {chunk : List String}
    (delivered : DeliveredMails env config imapFolder before.mails)
    (fetched : fetchChunk config session before chunk = .ok after) :
    DeliveredMails env config imapFolder after.mails := by
  simp only [fetchChunk, bind_eq_ok_iff, pure_eq_ok_iff] at fetched
  rcases fetched with ⟨stream, _, mails, received, rfl⟩
  apply foldlM_invariant (DeliveredMails env config imapFolder) delivered _ received
  intro state item following _ invariant stepped
  exact deliveredMails_receiveBody invariant stepped

theorem deliveredMails_fetchMetadata {mailboxExists : Nat} {mails : HashMap String Mail}
    (fetched : (fetchMetadata env config session imapFolder mailboxExists).run =
      some (.ok mails)) : DeliveredMails env config imapFolder mails := by
  simp only [fetchMetadata] at fetched
  split at fetched
  · simp only [run_bind_eq_ok_iff] at fetched
    rcases fetched with ⟨stream, _, received⟩
    apply run_foldlM_invariant (DeliveredMails env config imapFolder) _ _ received
    · intro id mail lookup
      simp at lookup
    · intro state item following _ invariant stepped
      exact deliveredMails_receiveMetadata invariant stepped
  · rw [← run_pure_eq_ok_iff.mp fetched]
    intro id mail lookup
    simp at lookup

theorem deliveredMails_fetchBodies {mails : HashMap String Mail} {downloaded : Download}
    (delivered : DeliveredMails env config imapFolder mails)
    (fetched : fetchBodies config session mails = .ok downloaded) :
    DeliveredMails env config imapFolder downloaded.mails := by
  unfold fetchBodies at fetched
  simp only at fetched
  split_ifs at fetched
  · cases fetched
    exact delivered
  · apply foldlM_invariant (fun downloaded : Download =>
      DeliveredMails env config imapFolder downloaded.mails) delivered _ fetched
    intro state item following _ invariant stepped
    exact deliveredMails_fetchChunk invariant stepped

/-- A session which ends without an error got through its metadata phase and its body
phase. -/
theorem download_eq_ok_iff {downloaded : Download} :
    (download env config session imapFolder).run = some (.ok downloaded) ↔
      ∃ mailboxExists metadata, session.createClient = .ok () ∧ session.login = .ok () ∧
        session.select imapFolder = .ok mailboxExists ∧
        (fetchMetadata env config session imapFolder mailboxExists).run = some (.ok metadata) ∧
        fetchBodies config session metadata = .ok downloaded := by
  simp only [download, run_bind_eq_ok_iff, run_liftM_result, Option.some.injEq,
    context_eq_ok_iff]
  constructor
  · rintro ⟨_, created, _, loggedIn, mailboxExists, selected, metadata, fetched, bodies⟩
    exact ⟨mailboxExists, metadata, created, loggedIn, selected, fetched, bodies⟩
  · rintro ⟨mailboxExists, metadata, created, loggedIn, selected, fetched, bodies⟩
    exact ⟨(), created, (), loggedIn, mailboxExists, selected, metadata, fetched, bodies⟩

theorem getMails_eq_ok_iff {mails : HashMap String Mail} :
    (getMails env config session imapFolder).run = some (.ok mails) ↔
      ∃ mailboxExists metadata sent, session.createClient = .ok () ∧ session.login = .ok () ∧
        session.select imapFolder = .ok mailboxExists ∧
        (fetchMetadata env config session imapFolder mailboxExists).run = some (.ok metadata) ∧
        fetchBodies config session metadata = .ok { mails := mails, sent := sent } := by
  simp only [getMails, run_bind_eq_ok_iff, run_pure_eq_ok_iff, download_eq_ok_iff]
  constructor
  · rintro ⟨downloaded, ⟨mailboxExists, metadata, established⟩, rfl⟩
    exact ⟨mailboxExists, metadata, downloaded.sent, established⟩
  · rintro ⟨mailboxExists, metadata, sent, established⟩
    exact ⟨_, ⟨mailboxExists, metadata, established⟩, rfl⟩

/-- Whatever the server answers, a session delivers fresh mails, each under the
ID which belongs to its UID and folder. -/
theorem deliveredMails_getMails {mails : HashMap String Mail}
    (downloaded : (getMails env config session imapFolder).run = some (.ok mails)) :
    DeliveredMails env config imapFolder mails := by
  rcases getMails_eq_ok_iff.mp downloaded with ⟨_, metadata, sent, _, _, _, fetched, bodies⟩
  exact deliveredMails_fetchBodies (deliveredMails_fetchMetadata fetched) bodies

end Delivered

end DmarcReportViewer
