import DmarcReportViewer.Imap.Unsolicited

/-!
# What a faithful server delivers

A faithful server announces every mail of a folder and sends the texts of requested mails,
each time in any order.  What a session with such a server delivers is determined by the
folder alone, if all of its subjects can be decoded.
-/

namespace DmarcReportViewer

open Collections Fallible

/-- A mail in a folder of a server. -/
structure StoredMail where
  uid : UInt32
  size : Option UInt32
  envelope : Envelope
  internalDate : Int
  text : List UInt8

/-- A folder of a server.  A UID belongs to one mail of it. -/
structure Folder where
  mails : List StoredMail
  distinct : (mails.map StoredMail.uid).Nodup

/-- What a server tells about a mail whose body is not requested. -/
def StoredMail.header (mail : StoredMail) : Fetch where
  uid := some mail.uid
  size := mail.size
  envelope := some mail.envelope
  internalDate := some mail.internalDate
  body := none

/-- The text of the mail with a UID. -/
def Folder.textOf (folder : Folder) (uid : UInt32) : List UInt8 :=
  ((folder.mails.find? fun mail => mail.uid = uid).map StoredMail.text).getD []

/-- The server of a session announces all mails of a folder, and it answers requests for
mails of the folder.  Nothing else is sent, but the order is up to the server. -/
structure Session.Serves (session : Session) (name : String) (folder : Folder) : Prop where
  created : session.createClient = .ok ()
  loggedIn : session.login = .ok ()
  selected : session.select name = .ok folder.mails.length
  announces : ∃ fetched : List Fetch,
    session.fetch ("1:" ++ toString folder.mails.length)
        "(RFC822.SIZE UID ENVELOPE INTERNALDATE)" = .ok (fetched.map .ok) ∧
      (fetched.map fun response => { response with body := none }).Perm
        (folder.mails.map StoredMail.header)
  answers : ∀ (sent : List UidFetch) (request : UidFetch),
    (∀ uid ∈ request.uids, uid ∈ folder.mails.map StoredMail.uid) →
      ∃ fetched : List Fetch, session.uidFetch sent request = .ok (fetched.map .ok) ∧
        (fetched.map fun response => (response.uid, response.body)).Perm
          (request.uids.map fun uid => (some uid, some (folder.textOf uid)))

section Contents

variable (env : Externals) (config : Configuration) (name : String)

/-- All subjects of a folder can be decoded.  If one cannot, then the metadata phase
panics. -/
def Folder.Decodable (folder : Folder) : Prop :=
  ∀ mail ∈ folder.mails, (env.decodeSubject (mail.envelope.subjectText env)).isSome

/-- A mail as the metadata phase knows it, if its subject can be decoded. -/
def StoredMail.announcedMail (mail : StoredMail) : Mail where
  id := mailId env mail.uid config.imapUser name
  account := config.imapUser
  folder := name
  uid := mail.uid
  size := (mail.size.getD 0).toNat
  oversized := config.maxMailSize.toNat < (mail.size.getD 0).toNat
  date := mail.internalDate
  subject := (env.decodeSubject (mail.envelope.subjectText env)).getD ""
  sender := addrsToString env mail.envelope.sender
  «to» := addrsToString env mail.envelope.«to»
  body := none
  xmlFiles := 0
  jsonFiles := 0
  xmlParsingErrors := 0
  jsonParsingErrors := 0
  dmarcDuplicates := []
  tlsDuplicates := []

/-- A mail as it is delivered: its text is stored unless it is oversized. -/
def StoredMail.delivered (mail : StoredMail) : Mail :=
  let announced := mail.announcedMail env config name
  if announced.oversized then
    announced
  else
    announced.storeBody config.maxMailSize.toNat mail.text

/-- The mails which a folder delivers. -/
def Folder.deliveredMails (folder : Folder) : HashMap String Mail :=
  (∅ : HashMap String Mail).insertMany (folder.mails.map fun mail =>
    (mailId env mail.uid config.imapUser name, mail.delivered env config name))

/-- The byte strings which are hashed for the IDs of the mails of a folder. -/
def Folder.idBytes (folder : Folder) : List (List UInt8) :=
  folder.mails.map fun mail =>
    toLeBytes mail.uid ++ Text.asBytes config.imapUser ++ Text.asBytes name

variable {env config name} {folder : Folder} {session : Session}

/-- Mails of one folder have different IDs. -/
theorem Folder.nodup_ids (collisionFree : CollisionFree env.sha256 (folder.idBytes config name)) :
    (folder.mails.map fun mail => mailId env mail.uid config.imapUser name).Nodup := by
  refine List.pairwise_map.mpr ?_
  refine (List.pairwise_map.mp folder.distinct).imp_of_mem ?_
  intro left right leftMem rightMem different sameId
  have hashed : ∀ mail ∈ folder.mails,
      [toLeBytes mail.uid, Text.asBytes config.imapUser, Text.asBytes name].flatten ∈
        folder.idBytes config name := by
    intro mail mailMem
    exact List.mem_map.mpr ⟨mail, mailMem, by simp⟩
  have sameBytes := collisionFree.eq (hashed left leftMem) (hashed right rightMem) sameId
  simp only [List.flatten_cons] at sameBytes
  exact different (toLeBytes_injective (List.append_inj sameBytes (by simp)).1)

theorem Folder.textOf_uid {mail : StoredMail} (mailMem : mail ∈ folder.mails) :
    folder.textOf mail.uid = mail.text := by
  have found : folder.mails.find? (fun other => other.uid = mail.uid) = some mail := by
    have distinct := folder.distinct
    revert distinct mailMem
    induction folder.mails with
    | nil => intro mailMem; cases mailMem
    | cons first rest ih =>
        intro mailMem distinct
        rw [List.map_cons, List.nodup_cons] at distinct
        rcases List.mem_cons.mp mailMem with rfl | later
        · simp
        · have differs : first.uid ≠ mail.uid := by
            intro same
            exact distinct.1 (List.mem_map.mpr ⟨mail, later, same.symm⟩)
          rw [List.find?_cons_of_neg (by simpa using differs)]
          exact ih later distinct.2
  rw [Folder.textOf, found]
  rfl

end Contents

section Downloading

variable {env : Externals} {config : Configuration} {name : String} {folder : Folder}
  {session : Session}

/-- What the metadata phase knows of a folder. -/
def Folder.announcedMails (env : Externals) (config : Configuration) (name : String)
    (folder : Folder) : HashMap String Mail :=
  (∅ : HashMap String Mail).insertMany (folder.mails.map fun mail =>
    (mailId env mail.uid config.imapUser name, mail.announcedMail env config name))

theorem announced_header {mail : StoredMail}
    (decodable : (env.decodeSubject (mail.envelope.subjectText env)).isSome) :
    announced env config name mail.header =
      some (mailId env mail.uid config.imapUser name, mail.announcedMail env config name) := by
  rcases Option.isSome_iff_exists.mp decodable with ⟨subject, decoded⟩
  have extracted : (extractMetadata env mail.header config.maxMailSize.toNat config.imapUser
      name).run = some (.ok (mail.announcedMail env config name)) := by
    simp only [extractMetadata, run_bind_eq_ok_iff, run_pure_eq_ok_iff, run_liftM_result,
      run_liftM_option_eq_ok_iff, Option.some.injEq, orError_eq_ok_iff]
    refine ⟨mail.uid, rfl, mail.envelope, rfl, mail.internalDate, rfl, subject, decoded, ?_⟩
    simp only [StoredMail.announcedMail, decoded, Option.getD_some]
    rfl
  rw [announced, extracted]
  rfl

theorem Session.Serves.fetchMetadata_eq (serves : session.Serves name folder)
    (decodable : folder.Decodable env)
    (collisionFree : CollisionFree env.sha256 (folder.idBytes config name)) :
    (fetchMetadata env config session name folder.mails.length).run =
      some (.ok (folder.announcedMails env config name)) := by
  rcases serves.announces with ⟨fetched, answered, perm⟩
  have accepted : ∀ response ∈ fetched, HasMetadata response ∧ response.Decodable env := by
    intro response responseMem
    have listed := perm.mem_iff.mp (List.mem_map_of_mem responseMem)
    rcases List.mem_map.mp listed with ⟨mail, mailMem, same⟩
    have sameUid := congrArg Fetch.uid same
    have sameEnvelope := congrArg Fetch.envelope same
    have sameDate := congrArg Fetch.internalDate same
    simp only [StoredMail.header] at sameUid sameEnvelope sameDate
    refine ⟨by simp [HasMetadata, ← sameUid, ← sameEnvelope, ← sameDate], ?_⟩
    intro envelope given
    cases sameEnvelope.trans given
    exact decodable mail mailMem
  have received : ((fetched.map Except.ok).foldlM (receiveMetadata env config name) ∅).run =
      some (.ok ((∅ : HashMap String Mail).insertMany
        (fetched.filterMap (announced env config name)))) :=
    writesMails_metadataLoop.completes fetched accepted
  have entries : (fetched.filterMap (announced env config name)).Perm
      (folder.mails.map fun mail =>
        (mailId env mail.uid config.imapUser name, mail.announcedMail env config name)) := by
    have announcedPerm := perm.filterMap (announced env config name)
    rw [List.filterMap_map, List.filterMap_map] at announcedPerm
    refine announcedPerm.trans (List.Perm.of_eq ?_)
    rw [← List.filterMap_eq_map']
    exact List.filterMap_congr fun mail mailMem => announced_header (decodable mail mailMem)
  have distinct : ((fetched.filterMap (announced env config name)).map Prod.fst).Nodup := by
    apply (entries.map Prod.fst).nodup_iff.mpr
    rw [List.map_map]
    exact folder.nodup_ids collisionFree
  simp only [fetchMetadata]
  split
  · rw [Folder.announcedMails, ← insertMany_perm distinct entries, run_bind_eq_ok_iff]
    exact ⟨_, congrArg some (context_eq_ok_iff.mpr answered), received⟩
  · next empty =>
      have none : folder.mails = [] := List.eq_nil_of_length_eq_zero (by omega)
      simp [Folder.announcedMails, none]

/-- A session which answers requests for unknown mails as well. -/
def Session.completed (session : Session) (folder : Folder) : Session :=
  { session with
    uidFetch := fun sent request =>
      if request.uids.all fun uid => decide (uid ∈ folder.mails.map StoredMail.uid) then
        session.uidFetch sent request
      else
        .ok (request.uids.map fun uid => .ok {
          uid := some uid
          size := none
          envelope := none
          internalDate := none
          body := some (folder.textOf uid) }) }

@[simp]
theorem order_completed : (session.completed folder).order = session.order :=
  rfl

theorem Session.Serves.answersEach (serves : session.Serves name folder) :
    AnswersEach (session.completed folder) folder.textOf := by
  intro sent request
  simp only [Session.completed]
  split
  · next known =>
      refine serves.answers sent request fun uid requested => ?_
      exact of_decide_eq_true (List.all_eq_true.mp known uid requested)
  · refine ⟨request.uids.map fun uid => ?_, ?_, ?_⟩
    · exact {
        uid := some uid
        size := none
        envelope := none
        internalDate := none
        body := some (folder.textOf uid) }
    · rw [List.map_map]
      rfl
    · rw [List.map_map]
      exact List.Perm.refl _

/-- The UIDs of all mails belong to mails of a folder. -/
def Folder.Covers (folder : Folder) (mails : HashMap String Mail) : Prop :=
  ∀ (id : String) (mail : Mail), mails[id]? = some mail →
    mail.uid ∈ folder.mails.map StoredMail.uid

/-- Only mails of the folder are requested, so that the other answers are never seen. -/
theorem fetchChunk_completed {before : Download} (covers : folder.Covers before.mails)
    (chunk : List String) :
    fetchChunk config (session.completed folder) before chunk =
      fetchChunk config session before chunk := by
  have known : ((bodyRequest config before.mails chunk).uids.all fun uid =>
      decide (uid ∈ folder.mails.map StoredMail.uid)) = true := by
    apply List.all_eq_true.mpr
    intro uid requested
    apply decide_eq_true
    rcases List.mem_map.mp requested with ⟨mail, mailMem, rfl⟩
    rcases List.mem_filterMap.mp mailMem with ⟨id, _, found⟩
    exact covers id mail found
  rw [fetchChunk_eq, fetchChunk_eq, Session.completed]
  simp only [if_pos known]

theorem foldlM_fetchChunk_completed (answersEach : AnswersEach (session.completed folder)
      folder.textOf) {before : Download} (keyed : UidKeyed before.mails)
    (covers : folder.Covers before.mails) (parts : List (List String)) :
    parts.foldlM (fetchChunk config (session.completed folder)) before =
      parts.foldlM (fetchChunk config session) before := by
  induction parts generalizing before with
  | nil => rw [List.foldlM_nil, List.foldlM_nil]
  | cons chunk rest ih =>
      have stepped := @fetchChunk_eq_ok config _ _ _ keyed answersEach chunk
      have covered : folder.Covers (withBodies config.maxMailSize.toNat folder.textOf
          (requestOf before.mails chunk) before.mails) := by
        intro id mail found
        rw [getElem?_withBodies] at found
        rcases Option.map_eq_some_iff.mp found with ⟨mail, stored, rfl⟩
        have known := covers id mail stored
        split <;> exact known
      have same : fetchChunk config (session.completed folder) before chunk =
          fetchChunk config session before chunk := fetchChunk_completed covers chunk
      rw [List.foldlM_cons, List.foldlM_cons, ← same, stepped]
      exact ih keyed.withBodies covered

theorem fetchBodies_completed (answersEach : AnswersEach (session.completed folder)
      folder.textOf) {mails : HashMap String Mail} (keyed : UidKeyed mails)
    (covers : folder.Covers mails) :
    fetchBodies config (session.completed folder) mails = fetchBodies config session mails := by
  have same := fun parts => @foldlM_fetchChunk_completed config _ _ answersEach
    { mails := mails, sent := [] } keyed covers parts
  simp only [fetchBodies, same, order_completed]

theorem mem_announcedMails {id : String} {found : Mail}
    (listed : (folder.announcedMails env config name)[id]? = some found) :
    ∃ mail ∈ folder.mails, id = mailId env mail.uid config.imapUser name ∧
      found = mail.announcedMail env config name := by
  rcases mem_or_getElem?_of_insertMany listed with entryMem | empty
  · rcases List.mem_map.mp entryMem with ⟨mail, mailMem, same⟩
    cases same
    exact ⟨mail, mailMem, rfl, rfl⟩
  · simp at empty

/-- Storing the texts of all mails which are not oversized gives the delivered mails. -/
theorem withBodies_announcedMails (keyed : UidKeyed (folder.announcedMails env config name))
    (collisionFree : CollisionFree env.sha256 (folder.idBytes config name))
    {uids : List UInt32} (once : RequestedOnce (folder.announcedMails env config name) uids) :
    withBodies config.maxMailSize.toNat folder.textOf uids
      (folder.announcedMails env config name) = folder.deliveredMails env config name := by
  have ids := folder.nodup_ids collisionFree
  apply Std.ExtTreeMap.ext_getElem?
  intro id
  rw [getElem?_withBodies_of_once keyed once]
  cases found : (folder.announcedMails env config name)[id]? with
  | none =>
      have absent : id ∉ (folder.mails.map fun mail =>
          (mailId env mail.uid config.imapUser name, mail.delivered env config name)).map
            Prod.fst := by
        intro listed
        rw [List.map_map] at listed
        have present : id ∈ folder.announcedMails env config name := by
          apply mem_insertMany_iff.mpr
          rw [List.map_map]
          exact Or.inl listed
        rw [Std.ExtTreeMap.mem_iff_isSome_getElem?, found] at present
        cases present
      rw [Folder.deliveredMails, getElem?_insertMany_of_not_mem absent]
      simp
  | some announcedMail =>
      rcases mem_announcedMails found with ⟨mail, mailMem, rfl, rfl⟩
      have kept : (folder.deliveredMails env config name)[mailId env mail.uid config.imapUser
          name]? = some (mail.delivered env config name) := by
        apply getElem?_insertMany_of_mem
        · simpa [List.map_map, Function.comp_def] using ids
        · exact List.mem_map.mpr ⟨mail, mailMem, rfl⟩
      have sameUid : (mail.announcedMail env config name).uid = mail.uid := rfl
      rw [kept, Option.map_some, sameUid, folder.textOf_uid mailMem]
      rfl

/-- A session with a faithful server delivers the mails of the folder, whatever the order
of its answers, the iteration order of the mails and the chunk size. -/
theorem getMails_of_serves (serves : session.Serves name folder)
    (decodable : folder.Decodable env) (positive : 1 ≤ config.imapChunkSize)
    (collisionFree : CollisionFree env.sha256 (folder.idBytes config name)) :
    (getMails env config session name).run =
      some (.ok (folder.deliveredMails env config name)) := by
  have metadata := serves.fetchMetadata_eq decodable collisionFree
  have keyed := (deliveredMails_fetchMetadata metadata).uidKeyed
  have covers : folder.Covers (folder.announcedMails env config name) := by
    intro id found listed
    rcases mem_announcedMails listed with ⟨mail, mailMem, _, rfl⟩
    exact List.mem_map_of_mem mailMem
  have delivered := withBodies_announcedMails keyed collisionFree
    (requestedOnce_of_perm keyed (@collectedIds_perm session _ keyed))
  have bodies := @fetchBodies_eq config (session.completed folder) _ _ keyed positive
    serves.answersEach
  rw [fetchBodies_completed serves.answersEach keyed covers] at bodies
  rw [getMails_eq_ok_iff, ← delivered]
  exact ⟨_, _, _, serves.created, serves.loggedIn, serves.selected, metadata, bodies⟩

end Downloading

end DmarcReportViewer
