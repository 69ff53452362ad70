import DmarcReportViewer.Background.Outcome
import Mathlib.Data.List.Dedup

/-!
# No report file is lost

A file is stored under the hash of its data and of the UID of its mail, and its
report under the hash of its data and of the ID of its mail.  If these hashes
do not collide, then files of different mails never replace each other, and
every extracted file of a mail ends up in exactly one of three places.
-/

namespace DmarcReportViewer

open Collections FirstWins

/-- The byte strings which an update hashes for its files and for its reports. -/
def hashedBytes (env : Externals) (config : Configuration) (mails : BTreeMap String Mail) :
    List (List UInt8) :=
  (valueList mails).flatMap fun mail => (filesOf env config mail).flatMap fun file =>
    [file.data ++ toLeBytes mail.uid, file.data ++ Text.asBytes file.mailId]

/-- The folder from which files of a type may come: the dedicated folder, or
the default folder if no dedicated folder is configured at all. -/
def Configuration.allowedFolder (config : Configuration) (fileType : FileType) : Option String :=
  if expectAll config then
    some config.imapFolder
  else
    match fileType with
    | .xml => config.imapFolderDmarc
    | .json => config.imapFolderTls

/-- The different data of the files of a type in a mail. -/
def distinctData (env : Externals) (config : Configuration) (mail : Mail) (fileType : FileType) :
    List (List UInt8) :=
  (((filesOf env config mail).filter fun file => file.fileType = fileType).map
    ReportFile.data).dedup

variable {env : Externals} {config : Configuration} {fetched : BTreeMap String Mail}

section Separation

theorem mem_hashedBytes {bytes : List UInt8} :
    bytes ∈ hashedBytes env config fetched ↔
      ∃ (id : String) (mail : Mail) (file : ReportFile), fetched[id]? = some mail ∧
        file ∈ filesOf env config mail ∧
          (bytes = file.data ++ toLeBytes mail.uid ∨
            bytes = file.data ++ Text.asBytes file.mailId) := by
  simp only [hashedBytes, List.mem_flatMap, mem_valueList, List.mem_cons, List.not_mem_nil,
    or_false]
  constructor
  · rintro ⟨mail, ⟨id, found⟩, file, fileMem, hashed⟩
    exact ⟨id, mail, file, found, fileMem, hashed⟩
  · rintro ⟨id, mail, file, found, fileMem, hashed⟩
    exact ⟨mail, ⟨id, found⟩, file, fileMem, hashed⟩

/-- Files of a type are only expected in mails of the allowed folder. -/
theorem allowedFolder_of_expects (searched : SearchedMails env config fetched) {id : String}
    {mail : Mail} (found : fetched[id]? = some mail) {fileType : FileType}
    (expected : expects config mail fileType = true) :
    config.allowedFolder fileType = some mail.folder := by
  rcases searched id mail found with ⟨_, folder, folderMem, delivered⟩
  simp only [Configuration.allowedFolder]
  split
  · next all =>
      have unset := all
      simp only [expectAll, Bool.and_eq_true, Option.isNone_iff_eq_none] at unset
      simp only [Configuration.searchedFolders, unset.1, unset.2, all, if_true, Option.toList_none,
        List.nil_append, List.mem_singleton] at folderMem
      rw [delivered.folder, folderMem]
  · next dedicated =>
      cases fileType with
      | xml => simpa [expects, expectDmarcReport, dedicated] using expected
      | json => simpa [expects, expectTlsReport, dedicated] using expected

/-- Delivered mails of one folder with the same UID have the same ID. -/
theorem SearchedMails.same_id (searched : SearchedMails env config fetched)
    {leftId rightId : String} {left right : Mail} (leftFound : fetched[leftId]? = some left)
    (rightFound : fetched[rightId]? = some right) (sameFolder : left.folder = right.folder)
    (sameUid : left.uid = right.uid) : leftId = rightId := by
  rcases searched leftId left leftFound with ⟨leftKey, _, _, leftDelivered⟩
  rcases searched rightId right rightFound with ⟨rightKey, _, _, rightDelivered⟩
  rw [← leftKey, ← rightKey, leftDelivered.id, rightDelivered.id, sameUid, sameFolder]

/-- A file belongs to the mail whose ID it carries. -/
theorem mail_of_mem_extractedFiles (searched : SearchedMails env config fetched)
    {file : ReportFile} (extracted : file ∈ extractedFiles env config fetched) :
    ∃ mail, fetched[file.mailId]? = some mail ∧ file ∈ filesOf env config mail := by
  rcases mem_extractedFiles.mp extracted with ⟨id, mail, found, fileMem⟩
  have sameId : file.mailId = id := by
    rw [(stemsFrom_of_mem_filesOf fileMem).1]
    exact (searched id mail found).1
  exact ⟨mail, sameId ▸ found, fileMem⟩

/-- Two files with the same type, mail and data are the same file. -/
theorem file_eq (searched : SearchedMails env config fetched) {left right : ReportFile}
    (leftMem : left ∈ extractedFiles env config fetched)
    (rightMem : right ∈ extractedFiles env config fetched)
    (sameType : left.fileType = right.fileType) (sameMail : left.mailId = right.mailId)
    (sameData : left.data = right.data) : left = right := by
  rcases mail_of_mem_extractedFiles searched leftMem with ⟨leftMail, leftFound, leftFile⟩
  rcases mail_of_mem_extractedFiles searched rightMem with ⟨rightMail, rightFound, rightFile⟩
  rw [sameMail, rightFound] at leftFound
  cases leftFound
  rw [(stemsFrom_of_mem_filesOf leftFile).1, (stemsFrom_of_mem_filesOf rightFile).1, sameType,
    sameData]

/-- Files of one type with the same file hash are the same file: their UIDs
agree, and files of one type come from one folder. -/
theorem file_eq_of_hash_eq (searched : SearchedMails env config fetched)
    (collisionFree : CollisionFree env.sha256 (hashedBytes env config fetched))
    {left right : ReportFile} (leftMem : left ∈ extractedFiles env config fetched)
    (rightMem : right ∈ extractedFiles env config fetched)
    (sameType : left.fileType = right.fileType) (sameHash : left.hash = right.hash) :
    left = right := by
  rcases mail_of_mem_extractedFiles searched leftMem with ⟨leftMail, leftFound, leftFile⟩
  rcases mail_of_mem_extractedFiles searched rightMem with ⟨rightMail, rightFound, rightFile⟩
  have leftOrigin := stemsFrom_of_mem_filesOf leftFile
  have rightOrigin := stemsFrom_of_mem_filesOf rightFile
  have leftHash : left.hash = createHash env.sha256 [left.data, toLeBytes leftMail.uid] := by
    rw [leftOrigin.1]
    rfl
  have rightHash : right.hash = createHash env.sha256 [right.data, toLeBytes rightMail.uid] := by
    rw [rightOrigin.1]
    rfl
  rw [leftHash, rightHash] at sameHash
  have sameBytes := collisionFree.eq
    (mem_hashedBytes.mpr ⟨_, leftMail, left, leftFound, leftFile, Or.inl (by simp)⟩)
    (mem_hashedBytes.mpr ⟨_, rightMail, right, rightFound, rightFile, Or.inl (by simp)⟩) sameHash
  simp only [List.flatten_cons, List.flatten_nil, List.append_nil] at sameBytes
  have parts := List.append_inj' sameBytes (by simp)
  have sameUid := toLeBytes_injective parts.2
  have leftFolder := allowedFolder_of_expects searched leftFound leftOrigin.2
  have rightFolder := allowedFolder_of_expects searched rightFound rightOrigin.2
  rw [sameType, rightFolder] at leftFolder
  have sameMail := searched.same_id leftFound rightFound (Option.some.inj leftFolder).symm sameUid
  exact file_eq searched leftMem rightMem sameType sameMail parts.1

/-- Files of one type with the same report hash are the same file. -/
theorem file_eq_of_reportHash_eq (searched : SearchedMails env config fetched)
    (collisionFree : CollisionFree env.sha256 (hashedBytes env config fetched))
    {left right : ReportFile} (leftMem : left ∈ extractedFiles env config fetched)
    (rightMem : right ∈ extractedFiles env config fetched)
    (sameType : left.fileType = right.fileType)
    (sameHash : reportHash env left = reportHash env right) : left = right := by
  rcases mail_of_mem_extractedFiles searched leftMem with ⟨leftMail, leftFound, leftFile⟩
  rcases mail_of_mem_extractedFiles searched rightMem with ⟨rightMail, rightFound, rightFile⟩
  have sameBytes := collisionFree.eq
    (mem_hashedBytes.mpr ⟨_, leftMail, left, leftFound, leftFile, Or.inr (by simp)⟩)
    (mem_hashedBytes.mpr ⟨_, rightMail, right, rightFound, rightFile, Or.inr (by simp)⟩) sameHash
  simp only [List.flatten_cons, List.flatten_nil, List.append_nil] at sameBytes
  have hashed : ∀ (id : String) (mail : Mail), fetched[id]? = some mail →
      (Text.asBytes id).length = 22 := by
    intro id mail found
    rcases searched id mail found with ⟨sameKey, _, _, delivered⟩
    rw [← sameKey, delivered.id]
    exact length_asBytes_createHash _ _
  have parts := List.append_inj' sameBytes (by
    rw [hashed _ _ leftFound, hashed _ _ rightFound])
  exact file_eq searched leftMem rightMem sameType (Text.asBytes_injective parts.2) parts.1

/-- Files only come from allowed folders, and files of different mails do not
replace each other although the UIDs of their mails may agree. -/
theorem files_of_update (attempt : Attempt env) {mails : BTreeMap String Mail}
    (fetchedOk : fetchMails attempt.config attempt.inbox attempt.order = .ok mails)
    (collisionFree : CollisionFree env.sha256 (hashedBytes env attempt.config mails)) :
    (∀ file ∈ extractedFiles env attempt.config mails, ∃ mail,
      mails[file.mailId]? = some mail ∧ file ∈ filesOf env attempt.config mail ∧
        attempt.config.allowedFolder file.fileType = some mail.folder) ∧
    (∀ left ∈ extractedFiles env attempt.config mails,
      ∀ right ∈ extractedFiles env attempt.config mails,
        left.fileType = right.fileType → left.mailId ≠ right.mailId → left.hash ≠ right.hash) := by
  have searched := searchedMails_fetchMails attempt.fromImap fetchedOk
  refine ⟨?_, ?_⟩
  · intro file extracted
    rcases mail_of_mem_extractedFiles searched extracted with ⟨mail, found, fileMem⟩
    exact ⟨mail, found, fileMem,
      allowedFolder_of_expects searched found (stemsFrom_of_mem_filesOf fileMem).2⟩
  · intro left leftMem right rightMem sameType different sameHash
    have same := file_eq_of_hash_eq searched collisionFree leftMem rightMem sameType sameHash
    exact different (congrArg ReportFile.mailId same)

end Separation

section Sample

/-! ### A mailbox with TLS reports -/

/-- A TLS report without policies as it is sent. -/
def sampleJson (organization reportId : String) : List UInt8 :=
  Text.asBytes ("\x7b\"organization-name\":\"" ++ organization ++
    "\",\"date-range\":\x7b\"start-datetime\":\"2024-05-01T00:00:00Z\"," ++
    "\"end-datetime\":\"2024-05-02T00:00:00Z\"\x7d,\"contact-info\":\"tls@mail.example\"," ++
    "\"report-id\":\"" ++ reportId ++ "\",\"policies\":[]\x7d")

def sampleReport (organization reportId : String) : Tls.Report where
  organizationName := organization
  dateRange := { startDatetime := 1714521600000000000, endDatetime := 1714608000000000000 }
  contactInfo := some "tls@mail.example"
  reportId := reportId
  policies := []

def sampleHeader : List UInt8 :=
  Text.asBytes "Content-Type: application/tlsrpt+json\r\n\r\n"

/-- The SHA-256 digests of the byte strings which the samples hash. -/
def sampleDigests : List (List UInt8 × Vector UInt8 32) :=
  [(toLeBytes 1 ++ Text.asBytes "reports@mail.example" ++ Text.asBytes "INBOX",
      #v[243, 67, 200, 65, 35, 7, 106, 113, 223, 105, 204, 170, 233, 165, 227, 252, 5, 10,
        128, 158, 100, 142, 141, 44, 202, 167, 37, 130, 50, 172, 165, 10]),
    (toLeBytes 4 ++ Text.asBytes "reports@mail.example" ++ Text.asBytes "INBOX",
      #v[177, 243, 153, 61, 2, 174, 195, 59, 140, 111, 211, 65, 163, 171, 45, 244, 61, 72,
        116, 226, 182, 37, 4, 228, 123, 77, 135, 112, 195, 79, 140, 194]),
    (sampleJson "Example" "12" ++ toLeBytes 1,
      #v[66, 160, 20, 174, 251, 158, 78, 36, 144, 200, 164, 72, 143, 52, 8, 45, 129, 216, 3,
        184, 103, 50, 66, 180, 121, 159, 245, 152, 168, 109, 181, 224]),
    (sampleJson "Example" "12" ++ toLeBytes 4,
      #v[24, 48, 25, 185, 58, 74, 63, 193, 169, 204, 125, 155, 74, 112, 190, 72, 125, 41,
        205, 4, 229, 63, 154, 132, 79, 104, 241, 33, 246, 197, 135, 134]),
    (sampleJson "Example" "12" ++ Text.asBytes "80PIQSMHanHfacyq6aXj_A",
      #v[5, 134, 67, 3, 147, 218, 155, 218, 30, 128, 228, 8, 218, 212, 132, 91, 123, 205,
        225, 63, 250, 83, 156, 210, 205, 104, 71, 151, 236, 101, 129, 163]),
    (sampleJson "Example" "12" ++ Text.asBytes "sfOZPQKuwzuMb9NBo6st9A",
      #v[45, 134, 181, 183, 192, 226, 186, 19, 217, 46, 105, 70, 238, 8, 251, 22, 63, 60,
        187, 54, 173, 206, 37, 206, 224, 46, 154, 191, 10, 110, 102, 44]),
    (sampleJson "Example1" "2" ++ toLeBytes 4,
      #v[14, 82, 200, 2, 87, 65, 125, 226, 244, 57, 28, 180, 93, 235, 230, 200, 245, 215, 6,
        112, 57, 107, 158, 67, 80, 231, 163, 242, 182, 80, 59, 169]),
    (sampleJson "Example1" "2" ++ Text.asBytes "sfOZPQKuwzuMb9NBo6st9A",
      #v[221, 42, 16, 28, 87, 193, 188, 14, 146, 92, 219, 78, 49, 216, 231, 69, 168, 57,
        189, 199, 152, 204, 1, 235, 36, 189, 53, 201, 235, 94, 149, 120])]

/-- The outside code as it behaves on the samples. -/
def sampleEnv : Externals where
  sha256 bytes := (sampleDigests.lookup bytes).getD (Vector.replicate 32 0)
  toLowercase := fun text => text.map Char.toLower
  fromUtf8Lossy bytes := String.ofList (bytes.map fun byte => Char.ofNat byte.toNat)
  base64Decode _ := .error "Invalid symbol"
  forLabel _ := none
  urlDecode text := some text
  parseIp _ := none
  parseMail bytes :=
    if sampleHeader.isPrefixOf bytes then
      .ok [{
        contentType := some "application/tlsrpt+json"
        bodyRaw := .ok (bytes.drop sampleHeader.length) }]
    else
      .error "unexpected mail"
  zipArchive _ := .error "invalid Zip archive"
  gzDecode _ := .error "invalid gzip header"
  xmlFromReader _ := .error "invalid XML"
  jsonFromSlice bytes :=
    if bytes = sampleJson "Example" "12" then
      .ok (sampleReport "Example" "12")
    else if bytes = sampleJson "Example1" "2" then
      .ok (sampleReport "Example1" "2")
    else
      .error "expected value at line 1 column 1"

def sampleConfig : Configuration where
  imapUser := "reports@mail.example"
  imapFolder := "INBOX"
  imapFolderDmarc := none
  imapFolderTls := none
  imapBodyRequest := .default
  imapChunkSize := 2000
  disableDuplicateFilter := false
  maxMailSize := 1048576
  mailWebHookUrl := none

def sampleBody : List UInt8 :=
  sampleHeader ++ sampleJson "Example" "12"

def sampleFetch (body : Option (List UInt8)) (uid : UInt32) : Fetch where
  uid := some uid
  size := some 232
  envelope := some { subject := some (Text.asBytes "Report"), sender := none, «to» := none }
  internalDate := some 1714608000
  body := body

/-- A session in which the mailbox holds the given mails, all with one body. -/
def sampleSession (uids : List UInt32) : Session where
  createClient := .ok ()
  login := .ok ()
  select _ := .ok uids.length
  fetch _ _ := .ok (uids.map fun uid => .ok (sampleFetch none uid))
  uidFetch _ request :=
    .ok (request.uids.map fun uid => .ok (sampleFetch (some sampleBody) uid))
  order := .byKey String Mail

theorem isSome_getMails_sampleSession (uids : List UInt32) :
    (getMails sampleEnv sampleConfig (sampleSession uids) "INBOX").run.isSome := by
  apply isSome_run_getMails
  intro sequence query stream answered fetched member envelope given
  cases answered
  rcases List.mem_map.mp member with ⟨uid, _, same⟩
  cases same
  cases given
  decide +kernel

/-- The inbox of an account with one folder, whose download has returned. -/
def folderInbox (downloaded : Option (Result (HashMap String Mail)))
    (returned : downloaded.isSome) : Inbox where
  dmarc := .error "no folder"
  tls := .error "no folder"
  default := downloaded.get returned

theorem default_folderInbox {downloaded : Option (Result (HashMap String Mail))}
    (returned : downloaded.isSome) : downloaded = some (folderInbox downloaded returned).default :=
  Option.eq_some_of_isSome returned

def sampleInbox (uids : List UInt32) : Inbox :=
  folderInbox _ (isSome_getMails_sampleSession uids)

def sampleAttempt (uids : List UInt32) : Attempt sampleEnv where
  config := sampleConfig
  inbox := sampleInbox uids
  fromImap := {
    dmarc := by
      intro folder configured
      cases configured
    tls := by
      intro folder configured
      cases configured
    default := by
      intro _ _
      exact ⟨sampleSession uids, default_folderInbox (isSome_getMails_sampleSession uids)⟩ }
  order := { dmarc := .byKey String Mail, tls := .byKey String Mail, default := .byKey String Mail }
  clock := .ok 1714608000
  elapsed := 0.5

def sampleMail (uid : UInt32) : Mail where
  id := mailId sampleEnv uid "reports@mail.example" "INBOX"
  account := "reports@mail.example"
  folder := "INBOX"
  uid := uid
  size := sampleBody.length
  oversized := false
  date := 1714608000
  subject := "Report"
  sender := "n/a"
  «to» := "n/a"
  body := some sampleBody
  xmlFiles := 0
  jsonFiles := 0
  xmlParsingErrors := 0
  jsonParsingErrors := 0
  dmarcDuplicates := []
  tlsDuplicates := []

def sampleMails (uids : List UInt32) : BTreeMap String Mail :=
  (∅ : BTreeMap String Mail).insertMany (uids.map fun uid => ((sampleMail uid).id, sampleMail uid))

theorem fetchMails_sampleAttempt :
    fetchMails sampleConfig (sampleInbox [1, 4]) (sampleAttempt [1, 4]).order =
      .ok (sampleMails [1, 4]) := by
  decide +kernel

theorem collisionFree_sampleMails :
    CollisionFree sampleEnv.sha256 (hashedBytes sampleEnv sampleConfig (sampleMails [1, 4])) := by
  decide +kernel

theorem bgUpdate_sampleAttempt :
    bgUpdate sampleEnv (sampleAttempt [1, 4]) (AppState.new 0) =
      (.ok [], (bgUpdate sampleEnv (sampleAttempt [1, 4]) (AppState.new 0)).2) := by
  have announced : (bgUpdate sampleEnv (sampleAttempt [1, 4]) (AppState.new 0)).1 = .ok [] := by
    decide +kernel
  rw [← announced]

/-- The digests for mails with the same UIDs in two folders. -/
def folderDigests : List (List UInt8 × Vector UInt8 32) :=
  [(toLeBytes 1 ++ Text.asBytes "reports@mail.example" ++ Text.asBytes "DMARC",
      #v[64, 253, 73, 223, 60, 86, 127, 252, 166, 37, 157, 207, 58, 200, 139, 35, 198, 39, 74,
        222, 66, 161, 5, 2, 183, 213, 248, 109, 31, 24, 240, 195]),
    (toLeBytes 4 ++ Text.asBytes "reports@mail.example" ++ Text.asBytes "DMARC",
      #v[126, 41, 153, 50, 193, 148, 163, 73, 29, 89, 43, 158, 234, 144, 196, 200, 225, 47, 182,
        102, 252, 68, 7, 72, 223, 191, 17, 41, 234, 102, 161, 24]),
    (toLeBytes 1 ++ Text.asBytes "reports@mail.example" ++ Text.asBytes "TLS",
      #v[158, 234, 254, 92, 178, 241, 37, 40, 25, 192, 116, 72, 200, 189, 105, 227, 29, 136, 166,
        51, 113, 238, 82, 213, 149, 191, 81, 27, 196, 35, 137, 184]),
    (toLeBytes 4 ++ Text.asBytes "reports@mail.example" ++ Text.asBytes "TLS",
      #v[174, 175, 193, 93, 245, 176, 121, 233, 35, 249, 112, 244, 82, 175, 158, 155, 80, 57,
        244, 154, 64, 106, 159, 173, 215, 48, 154, 34, 254, 206, 23, 153]),
    (sampleBody ++ toLeBytes 1,
      #v[129, 53, 15, 38, 217, 147, 26, 73, 247, 112, 42, 192, 40, 255, 30, 106, 136, 201, 108,
        182, 187, 122, 127, 215, 98, 0, 215, 134, 44, 129, 200, 66]),
    (sampleBody ++ toLeBytes 4,
      #v[161, 171, 61, 235, 228, 16, 233, 112, 149, 199, 242, 253, 194, 239, 174, 65, 189, 101,
        45, 173, 115, 227, 95, 201, 130, 221, 183, 83, 0, 93, 155, 163]),
    (sampleBody ++ Text.asBytes "QP1J3zxWf_ymJZ3POsiLIw",
      #v[227, 204, 211, 176, 194, 156, 50, 173, 128, 31, 235, 228, 105, 90, 253, 134, 3, 30, 209,
        0, 19, 219, 165, 58, 69, 249, 247, 181, 218, 43, 81, 10]),
    (sampleBody ++ Text.asBytes "fimZMsGUo0kdWSue6pDEyA",
      #v[89, 172, 183, 20, 121, 9, 243, 1, 243, 158, 132, 253, 158, 33, 201, 113, 9, 230, 73, 9,
        236, 245, 139, 30, 186, 153, 230, 129, 137, 241, 103, 189]),
    (sampleBody ++ Text.asBytes "nur-XLLxJSgZwHRIyL1p4w",
      #v[132, 138, 145, 7, 155, 233, 29, 13, 67, 84, 88, 91, 38, 91, 108, 7, 211, 115, 232, 26,
        196, 110, 51, 73, 18, 5, 29, 88, 149, 108, 143, 196]),
    (sampleBody ++ Text.asBytes "rq_BXfWweekj-XD0Uq-emw",
      #v[12, 154, 122, 175, 203, 178, 167, 155, 231, 105, 109, 66, 195, 74, 201, 74, 91, 251, 88,
        11, 244, 32, 238, 239, 91, 22, 192, 147, 146, 65, 5, 183])]

/-- The outside code which finds an XML file and a JSON file in each mail. -/
def folderEnv : Externals :=
  { sampleEnv with
    sha256 := fun bytes => (folderDigests.lookup bytes).getD (Vector.replicate 32 0)
    parseMail := fun bytes => .ok [
      { contentType := some "text/xml", bodyRaw := .ok bytes },
      { contentType := some "application/tlsrpt+json", bodyRaw := .ok bytes }] }

def folderConfig : Configuration :=
  { sampleConfig with
    imapFolderDmarc := some "DMARC"
    imapFolderTls := some "TLS" }

theorem isSome_getMails_folderEnv :
    ∀ folder ∈ ["DMARC", "TLS"],
      (getMails folderEnv folderConfig (sampleSession [1, 4]) folder).run.isSome := by
  decide +kernel

def folderAttempt : Attempt folderEnv where
  config := folderConfig
  inbox := {
    dmarc := Option.get _ (isSome_getMails_folderEnv "DMARC" (by decide))
    tls := Option.get _ (isSome_getMails_folderEnv "TLS" (by decide))
    default := .error "no folder" }
  fromImap := {
    dmarc := by
      intro folder configured
      cases configured
      exact ⟨sampleSession [1, 4],
        Option.eq_some_of_isSome (isSome_getMails_folderEnv "DMARC" (by decide))⟩
    tls := by
      intro folder configured
      cases configured
      exact ⟨sampleSession [1, 4],
        Option.eq_some_of_isSome (isSome_getMails_folderEnv "TLS" (by decide))⟩
    default := by
      intro configured
      cases configured }
  order := { dmarc := .byKey String Mail, tls := .byKey String Mail, default := .byKey String Mail }
  clock := .ok 1714608000
  elapsed := 0.5

def folderMail (folder : String) (uid : UInt32) : Mail :=
  { sampleMail uid with
    id := mailId folderEnv uid "reports@mail.example" folder
    folder := folder }

def folderMails : BTreeMap String Mail :=
  (∅ : BTreeMap String Mail).insertMany
    ([folderMail "DMARC" 1, folderMail "DMARC" 4, folderMail "TLS" 1, folderMail "TLS" 4].map
      fun mail => (mail.id, mail))

theorem fetchMails_folderAttempt :
    fetchMails folderAttempt.config folderAttempt.inbox folderAttempt.order = .ok folderMails := by
  decide +kernel

/-- Mails with the same UIDs in the folders for DMARC and for TLS reports, each with an XML file
and a JSON file. -/
theorem files_of_update_sample :
    (extractedFiles folderEnv folderConfig folderMails).length = 4 ∧
    (∀ file ∈ extractedFiles folderEnv folderConfig folderMails, ∃ mail,
      folderMails[file.mailId]? = some mail ∧ file ∈ filesOf folderEnv folderConfig mail ∧
        folderConfig.allowedFolder file.fileType = some mail.folder) ∧
    (∀ left ∈ extractedFiles folderEnv folderConfig folderMails,
      ∀ right ∈ extractedFiles folderEnv folderConfig folderMails,
        left.fileType = right.fileType → left.mailId ≠ right.mailId → left.hash ≠ right.hash) :=
  ⟨by decide +kernel,
    files_of_update folderAttempt fetchMails_folderAttempt (by decide +kernel)⟩

end Sample

section Collected

/-- The hashes of the collected files are the keys of the file map. -/
theorem map_hash_collectedFiles (fileType : FileType) :
    (collectedFiles env config fetched fileType).map ReportFile.hash =
      ((collectFiles env config fetched).files fileType).keys := by
  rw [collectedFiles, valueList, List.map_map, ← Std.ExtTreeMap.map_fst_toList_eq_keys]
  apply List.map_congr_left
  rintro ⟨hash, file⟩ listed
  have found := Std.ExtTreeMap.mem_toList_iff_getElem?_eq_some.mp listed
  exact (extracted_of_files_collectFiles found).2.2

variable (env config fetched) in
/-- The files are parsed in the ascending order of their hashes. -/
theorem pairwise_collectedFiles (fileType : FileType) :
    (collectedFiles env config fetched fileType).Pairwise fun left right =>
      compare left.hash right.hash = .lt := by
  have ordered : (Std.ExtTreeMap.keys ((collectFiles env config fetched).files fileType)).Pairwise
      fun left right => compare left right = .lt := Std.ExtTreeMap.ordered_keys
  rw [← map_hash_collectedFiles, List.pairwise_map] at ordered
  exact ordered

theorem nodup_collectedFiles (fileType : FileType) :
    (collectedFiles env config fetched fileType).Nodup := by
  apply List.Nodup.of_map ReportFile.hash
  rw [map_hash_collectedFiles]
  exact Std.ExtTreeMap.nodup_keys

theorem extracted_of_mem_collectedFiles {fileType : FileType} {file : ReportFile}
    (listed : file ∈ collectedFiles env config fetched fileType) :
    file ∈ extractedFiles env config fetched ∧ file.fileType = fileType := by
  rcases mem_valueList.mp listed with ⟨hash, found⟩
  have origin := extracted_of_files_collectFiles found
  exact ⟨origin.1, origin.2.1⟩

/-- Without collisions the file maps contain every extracted file. -/
theorem getElem?_files_iff (searched : SearchedMails env config fetched)
    (collisionFree : CollisionFree env.sha256 (hashedBytes env config fetched))
    {fileType : FileType} {hash : String} {file : ReportFile} :
    ((collectFiles env config fetched).files fileType)[hash]? = some file ↔
      file ∈ extractedFiles env config fetched ∧ file.fileType = fileType ∧ file.hash = hash := by
  constructor
  · exact extracted_of_files_collectFiles
  · rintro ⟨extracted, ofType, rfl⟩
    have present : file.hash ∈ (collectFiles env config fetched).files fileType := by
      rw [files_collectFiles]
      apply mem_insertMany_iff.mpr
      left
      simp only [fileEntries, List.map_map, List.mem_map, List.mem_filter]
      exact ⟨file, ⟨extracted, by simpa using ofType⟩, rfl⟩
    rcases Option.isSome_iff_exists.mp (Std.ExtTreeMap.mem_iff_isSome_getElem?.mp present) with
      ⟨other, found⟩
    rcases extracted_of_files_collectFiles found with ⟨otherMem, otherType, otherHash⟩
    have same := file_eq_of_hash_eq searched collisionFree extracted otherMem
      (ofType.trans otherType.symm) otherHash.symm
    exact same ▸ found

theorem mem_collectedFiles_iff (searched : SearchedMails env config fetched)
    (collisionFree : CollisionFree env.sha256 (hashedBytes env config fetched))
    {fileType : FileType} {file : ReportFile} :
    file ∈ collectedFiles env config fetched fileType ↔
      file ∈ extractedFiles env config fetched ∧ file.fileType = fileType := by
  rw [collectedFiles, mem_valueList]
  constructor
  · rintro ⟨hash, found⟩
    have origin := extracted_of_files_collectFiles found
    exact ⟨origin.1, origin.2.1⟩
  · rintro ⟨extracted, ofType⟩
    exact ⟨file.hash, (getElem?_files_iff searched collisionFree).mpr ⟨extracted, ofType, rfl⟩⟩

/-- The collected files of a mail are as many as the different data in it. -/
theorem length_distinctData (searched : SearchedMails env config fetched)
    (collisionFree : CollisionFree env.sha256 (hashedBytes env config fetched)) {id : String}
    {mail : Mail} (found : fetched[id]? = some mail) (fileType : FileType) :
    (distinctData env config mail fileType).length =
      (collectedFiles env config fetched fileType).countP fun file => file.mailId = id := by
  have collected : ∀ file : ReportFile,
      file ∈ (collectedFiles env config fetched fileType).filter (fun file => file.mailId = id) ↔
        file ∈ filesOf env config mail ∧ file.fileType = fileType := by
    intro file
    simp only [List.mem_filter, decide_eq_true_eq,
      mem_collectedFiles_iff searched collisionFree]
    constructor
    · rintro ⟨⟨extracted, ofType⟩, rfl⟩
      rcases mail_of_mem_extractedFiles searched extracted with ⟨other, otherFound, fileMem⟩
      rw [found] at otherFound
      cases otherFound
      exact ⟨fileMem, ofType⟩
    · rintro ⟨fileMem, ofType⟩
      refine ⟨⟨mem_extractedFiles.mpr ⟨id, mail, found, fileMem⟩, ofType⟩, ?_⟩
      rw [(stemsFrom_of_mem_filesOf fileMem).1]
      exact (searched id mail found).1
  have distinct : (((collectedFiles env config fetched fileType).filter
      fun file => file.mailId = id).map ReportFile.data).Nodup := by
    apply List.Nodup.map_on
    · intro left leftMem right rightMem sameData
      rcases (collected left).mp leftMem with ⟨leftFile, leftType⟩
      rcases (collected right).mp rightMem with ⟨rightFile, rightType⟩
      rw [(stemsFrom_of_mem_filesOf leftFile).1, (stemsFrom_of_mem_filesOf rightFile).1, leftType,
        rightType, sameData]
    · exact (nodup_collectedFiles fileType).filter _
  have perm : (distinctData env config mail fileType).Perm
      (((collectedFiles env config fetched fileType).filter
        fun file => file.mailId = id).map ReportFile.data) := by
    apply (List.perm_ext_iff_of_nodup (List.nodup_dedup _) distinct).mpr
    intro data
    simp only [List.mem_dedup, List.mem_map]
    constructor
    · rintro ⟨file, fileMem, sameData⟩
      refine ⟨file, (collected file).mpr ?_, sameData⟩
      simpa using fileMem
    · rintro ⟨file, fileMem, sameData⟩
      refine ⟨file, ?_, sameData⟩
      simpa using (collected file).mp fileMem
  rw [perm.length_eq, List.length_map, List.countP_eq_length_filter]

end Collected

section Balance

/-- The hashes of the reports which an update keeps are distinct. -/
theorem nodup_kept_hashes (searched : SearchedMails env config fetched)
    (collisionFree : CollisionFree env.sha256 (hashedBytes env config fetched))
    (fileType : FileType) :
    (((judgedFiles env config fetched fileType).filterMap
      (keptReport env (kindOf env fileType))).map Prod.fst).Nodup := by
  have hashes : ((judgedFiles env config fetched fileType).filterMap
      (keptReport env (kindOf env fileType))).map Prod.fst =
        (leaders (kindOf env fileType).key? (!config.disableDuplicateFilter) []
          (collectedFiles env config fetched fileType)).map (reportHash env) := by
    rw [List.map_filterMap, leaders, List.map_filterMap]
    apply List.filterMap_congr
    rintro ⟨file, verdict⟩ judged
    cases verdict with
    | skipped => rfl
    | repeats leader => rfl
    | first =>
        rcases keptReport_of_first env judged with ⟨report, _, kept⟩
        rw [kept]
        rfl
  rw [hashes]
  have sublist := leaders_sublist (kindOf env fileType).key? (!config.disableDuplicateFilter) []
    (collectedFiles env config fetched fileType)
  apply List.Nodup.map_on
  · intro left leftMem right rightMem sameHash
    have leftOrigin := extracted_of_mem_collectedFiles (sublist.subset leftMem)
    have rightOrigin := extracted_of_mem_collectedFiles (sublist.subset rightMem)
    exact file_eq_of_reportHash_eq searched collisionFree leftOrigin.1 rightOrigin.1
      (leftOrigin.2.trans rightOrigin.2.symm) sameHash
  · exact sublist.nodup (nodup_collectedFiles fileType)

/-- The kept reports of a mail are its first files. -/
theorem length_filter_reports (searched : SearchedMails env config fetched)
    (collisionFree : CollisionFree env.sha256 (hashedBytes env config fetched))
    {processed : Processed} (outcome : ProcessOutcome env config fetched processed)
    (fileType : FileType) (id : String) :
    ((valueList (processed.reports fileType)).filter fun rwi => rwi.mailId = id).length =
      (judgedFiles env config fetched fileType).countP fun entry =>
        entry.1.mailId = id && entry.2 = .first := by
  have perm := valueList_insertMany_perm (nodup_kept_hashes searched collisionFree fileType)
  rw [outcome.reports, (perm.filter _).length_eq, ← List.countP_eq_length_filter, List.countP_map,
    List.countP_filterMap]
  apply List.countP_congr
  rintro ⟨file, verdict⟩ judged
  cases verdict with
  | skipped => simp [keptReport]
  | repeats leader => simp [keptReport]
  | first =>
      rcases keptReport_of_first env judged with ⟨report, _, kept⟩
      simp [kept]

theorem length_duplicatesAfter (judged : List (ReportFile × Verdict ReportFile)) (id : String) :
    (duplicatesAfter env judged id).length =
      judged.countP fun entry => entry.1.mailId = id && entry.2.isRepeat := by
  rw [duplicatesAfter, List.length_filterMap_eq_countP, List.countP_filter]
  apply List.countP_congr
  rintro ⟨file, verdict⟩ _
  cases verdict <;> simp [repeatedHash, Verdict.isRepeat]

theorem skippedCount_eq_countP (judged : List (ReportFile × Verdict ReportFile)) (id : String) :
    skippedCount judged id =
      judged.countP fun entry => entry.1.mailId = id && entry.2 = .skipped := by
  rw [skippedCount, ← List.countP_eq_length_filter, List.countP_filter]
  apply List.countP_congr
  intro entry _
  simp [and_comm]

/-- The different data of a type in a mail are its kept reports, duplicates and errors. -/
theorem length_distinctData_eq_add (searched : SearchedMails env config fetched)
    (collisionFree : CollisionFree env.sha256 (hashedBytes env config fetched))
    {processed : Processed} (outcome : ProcessOutcome env config fetched processed) {id : String}
    {mail : Mail} (found : fetched[id]? = some mail) (fileType : FileType) :
    (distinctData env config mail fileType).length =
      ((valueList (processed.reports fileType)).filter fun rwi => rwi.mailId = id).length +
        ((finishedMail env config fetched id mail).duplicates fileType).length +
          (finishedMail env config fetched id mail).parsingErrors fileType := by
  have fresh := searched.fresh found
  have counted := countP_map_fst (judgedFiles env config fetched fileType)
    fun file => file.mailId = id
  have judgedAll : (judgedFiles env config fetched fileType).map Prod.fst =
      collectedFiles env config fetched fileType := map_fst_verdicts _ _ _ _
  rw [length_distinctData searched collisionFree found,
    length_filter_reports searched collisionFree outcome, duplicates_finishedMail fresh,
    length_duplicatesAfter, parsingErrors_finishedMail fresh, skippedCount_eq_countP, ← judgedAll]
  exact counted

/-- The files of a type are the different data of the type in all mails. -/
theorem fileCount_eq_sum (searched : SearchedMails env config fetched)
    (collisionFree : CollisionFree env.sha256 (hashedBytes env config fetched))
    {processed : Processed} (outcome : ProcessOutcome env config fetched processed)
    (fileType : FileType) :
    processed.fileCount fileType = (fetched.toList.map fun entry =>
      (distinctData env config entry.2 fileType).length).sum := by
  have covered : ∀ file ∈ collectedFiles env config fetched fileType,
      file.mailId ∈ fetched.toList.map Prod.fst := by
    intro file listed
    have extracted := (extracted_of_mem_collectedFiles listed).1
    rcases mail_of_mem_extractedFiles searched extracted with ⟨mail, found, _⟩
    rw [Std.ExtTreeMap.map_fst_toList_eq_keys, Std.ExtTreeMap.mem_keys,
      Std.ExtTreeMap.mem_iff_isSome_getElem?, found]
    rfl
  have total := sum_map_countP (nodup_keys_toList fetched) ReportFile.mailId covered
  rw [outcome.fileCount, ← total, List.map_map]
  apply congrArg List.sum
  apply List.map_congr_left
  rintro ⟨id, mail⟩ listed
  have found := Std.ExtTreeMap.mem_toList_iff_getElem?_eq_some.mp listed
  exact (length_distinctData searched collisionFree found fileType).symm

/-- No report file is lost or counted twice.  The different data of a type in a
mail are as many as its kept reports, its duplicates and its parsing errors
together, and the file counter of the type is the sum over all mails. -/
theorem files_balance (attempt : Attempt env) {mails : BTreeMap String Mail}
    (fetchedOk : fetchMails attempt.config attempt.inbox attempt.order = .ok mails)
    (collisionFree : CollisionFree env.sha256 (hashedBytes env attempt.config mails))
    (state : AppState) {newMails : List String} {after : AppState}
    (updated : bgUpdate env attempt state = (.ok newMails, after)) (fileType : FileType) :
    after.mails.keys = mails.keys ∧
    (∀ (id : String) (original mail : Mail), mails[id]? = some original →
      after.mails[id]? = some mail →
        (distinctData env attempt.config original fileType).length =
          ((valueList (after.reports fileType)).filter fun rwi => rwi.mailId = id).length +
            (mail.duplicates fileType).length + mail.parsingErrors fileType) ∧
    after.fileCount fileType = (mails.toList.map fun entry =>
      (distinctData env attempt.config entry.2 fileType).length).sum := by
  rcases bgUpdate_cases state attempt with ⟨error, _, failed⟩ |
    ⟨fetched, processed, timestamp, _, fetchedHere, searched, outcome, succeeded⟩
  · rw [failed] at updated
    cases updated
  · rw [fetchedOk] at fetchedHere
    cases fetchedHere
    rw [succeeded] at updated
    cases updated
    refine ⟨?_, ?_, ?_⟩
    · rw [mails_replaceState, outcome.keys_mails]
    · intro id original mail found lookup
      rw [mails_replaceState, outcome.mails, found] at lookup
      cases lookup
      rw [reports_replaceState]
      exact length_distinctData_eq_add searched collisionFree outcome found fileType
    · rw [fileCount_replaceState]
      exact fileCount_eq_sum searched collisionFree outcome fileType

theorem files_balance_sample :
    (bgUpdate sampleEnv (sampleAttempt [1, 4]) (AppState.new 0)).2.mails.keys =
        (sampleMails [1, 4]).keys ∧
      (∀ (id : String) (original mail : Mail), (sampleMails [1, 4])[id]? = some original →
        (bgUpdate sampleEnv (sampleAttempt [1, 4]) (AppState.new 0)).2.mails[id]? = some mail →
          (distinctData sampleEnv sampleConfig original .json).length =
            ((valueList ((bgUpdate sampleEnv (sampleAttempt [1, 4])
              (AppState.new 0)).2.reports .json)).filter fun rwi => rwi.mailId = id).length +
                (mail.duplicates .json).length + mail.parsingErrors .json) ∧
      (bgUpdate sampleEnv (sampleAttempt [1, 4]) (AppState.new 0)).2.fileCount .json =
        ((sampleMails [1, 4]).toList.map fun entry =>
          (distinctData sampleEnv sampleConfig entry.2 .json).length).sum :=
  files_balance (sampleAttempt [1, 4]) fetchMails_sampleAttempt collisionFree_sampleMails
    (AppState.new 0) bgUpdate_sampleAttempt .json

end Balance

end DmarcReportViewer
