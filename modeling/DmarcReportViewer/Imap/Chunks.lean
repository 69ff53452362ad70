import DmarcReportViewer.Imap.SizeLimit

/-!
# Downloading in chunks

A server that answers every UID of a request with the body of that mail leaves the same
mails behind, in which chunks and in which order they are requested.
-/

namespace DmarcReportViewer

open Collections Fallible

section WithBodies

/-- The mails after the bodies of those with the given UIDs were stored. -/
def withBodies (maxMailSize : Nat) (bodyOf : UInt32 → List UInt8) (uids : List UInt32)
    (mails : HashMap String Mail) : HashMap String Mail :=
  mails.map fun _ mail =>
    if mail.uid ∈ uids then mail.storeBody maxMailSize (bodyOf mail.uid) else mail

variable {maxMailSize : Nat} {bodyOf : UInt32 → List UInt8} {uids : List UInt32}
  {mails : HashMap String Mail}

theorem getElem?_withBodies (id : String) :
    (withBodies maxMailSize bodyOf uids mails)[id]? = mails[id]?.map fun mail =>
      if mail.uid ∈ uids then mail.storeBody maxMailSize (bodyOf mail.uid) else mail := by
  rw [withBodies, Std.ExtTreeMap.getElem?_map]

theorem withBodies_nil : withBodies maxMailSize bodyOf [] mails = mails := by
  refine Std.ExtTreeMap.ext_getElem? fun id => ?_
  rw [getElem?_withBodies]
  cases mails[id]? <;> simp

theorem uid_storeBody (mail : Mail) (body : List UInt8) :
    (mail.storeBody maxMailSize body).uid = mail.uid :=
  rfl

/-- Bodies that are stored one after the other may be stored at once. -/
theorem withBodies_withBodies (later : List UInt32) :
    withBodies maxMailSize bodyOf later (withBodies maxMailSize bodyOf uids mails) =
      withBodies maxMailSize bodyOf (uids ++ later) mails := by
  refine Std.ExtTreeMap.ext_getElem? fun id => ?_
  rw [getElem?_withBodies, getElem?_withBodies, getElem?_withBodies, Option.map_map]
  cases mails[id]? with
  | none => rfl
  | some mail =>
      simp only [Option.map_some, Function.comp_apply, List.mem_append]
      by_cases first : mail.uid ∈ uids <;> by_cases second : mail.uid ∈ later <;>
        simp [first, second, uid_storeBody]

theorem withBodies_congr {other : List UInt32} (same : ∀ uid, uid ∈ uids ↔ uid ∈ other) :
    withBodies maxMailSize bodyOf uids mails = withBodies maxMailSize bodyOf other mails := by
  simp only [withBodies, same]

/-- The mails with a UID are looked up under one ID. -/
structure UidKeyed (mails : HashMap String Mail) : Prop where
  id : ∀ (id : String) (mail : Mail), mails[id]? = some mail → mail.id = id
  distinct : ∀ (id other : String) (mail found : Mail), mails[id]? = some mail →
    mails[other]? = some found → mail.uid = found.uid → id = other

theorem UidKeyed.withBodies (keyed : UidKeyed mails) :
    UidKeyed (withBodies maxMailSize bodyOf uids mails) := by
  have original : ∀ (id : String) (mail : Mail),
      (DmarcReportViewer.withBodies maxMailSize bodyOf uids mails)[id]? = some mail →
        ∃ before : Mail, mails[id]? = some before ∧ mail.id = before.id ∧
          mail.uid = before.uid := by
    intro id mail found
    rw [getElem?_withBodies] at found
    rcases Option.map_eq_some_iff.mp found with ⟨before, stored, equal⟩
    refine ⟨before, stored, ?_⟩
    rw [← equal]
    split <;> exact ⟨rfl, rfl⟩
  constructor
  case id =>
    intro id mail found
    rcases original id mail found with ⟨before, stored, sameId, _⟩
    rw [sameId, keyed.id id before stored]
  case distinct =>
    intro id other mail found here there same
    rcases original id mail here with ⟨first, stored, _, sameUid⟩
    rcases original other found there with ⟨second, kept, _, otherUid⟩
    exact keyed.distinct id other first second stored kept (by rw [← sameUid, ← otherUid, same])

end WithBodies

section Server

/-- The server answers each UID of a request with the body of that mail and nothing else,
in any order. -/
def AnswersEach (session : Session) (bodyOf : UInt32 → List UInt8) : Prop :=
  ∀ (sent : List UidFetch) (request : UidFetch), ∃ fetched : List Fetch,
    session.uidFetch sent request = .ok (fetched.map .ok) ∧
      (fetched.map fun response => (response.uid, response.body)).Perm
        (request.uids.map fun uid => (some uid, some (bodyOf uid)))

/-- The UIDs which are requested for a chunk. -/
def requestOf (mails : HashMap String Mail) (chunk : List String) : List UInt32 :=
  (chunk.filterMap fun id => mails[id]?).map Mail.uid

/-- The request for the bodies of the mails of a chunk. -/
def bodyRequest (config : Configuration) (mails : HashMap String Mail) (chunk : List String) :
    UidFetch where
  uids := requestOf mails chunk
  query := "(" ++ config.imapBodyRequest.toRequestString ++
    " RFC822.SIZE UID ENVELOPE INTERNALDATE)"

variable {config : Configuration} {session : Session} {bodyOf : UInt32 → List UInt8}
  {metadata mails : HashMap String Mail}

theorem fetchChunk_eq (before : Download) (chunk : List String) :
    fetchChunk config session before chunk =
      (session.uidFetch before.sent (bodyRequest config before.mails chunk)).context
        "Failed to fetch message stream from IMAP inbox" >>= fun stream =>
      stream.foldlM (receiveBody config ((chunk.filterMap fun id => before.mails[id]?).foldl
        (fun uidIdMap mail => uidIdMap.insert mail.uid mail.id) ∅)) before.mails >>= fun mails =>
      pure { mails := mails, sent := before.sent ++ [bodyRequest config before.mails chunk] } :=
  rfl

theorem receiveBody_eq (keyed : UidKeyed mails) {uidIdMap : HashMap UInt32 String} {id : String}
    {mail : Mail} (known : uidIdMap[mail.uid]? = some id) (stored : mails[id]? = some mail)
    {response : Fetch} (uid : response.uid = some mail.uid)
    (body : response.body = some (bodyOf mail.uid)) :
    receiveBody config uidIdMap mails (.ok response) =
      .ok (withBodies config.maxMailSize.toNat bodyOf [mail.uid] mails) := by
  have received : receiveBody config uidIdMap mails (.ok response) =
      .ok (mails.insert id (mail.storeBody config.maxMailSize.toNat (bodyOf mail.uid))) := by
    simp [receiveBody, Result.context, uid, orError, known, stored, body, bind, Except.bind, pure,
      Except.pure]
  rw [received]
  refine congrArg _ (Std.ExtTreeMap.ext_getElem? fun other => ?_)
  rw [getElem?_withBodies, Std.ExtTreeMap.getElem?_insert]
  split
  · next same =>
      rw [Std.compare_eq_iff_eq] at same
      subst same
      simp [stored]
  · next different =>
      cases found : mails[other]? with
      | none => rfl
      | some kept =>
          have otherUid : kept.uid ≠ mail.uid := by
            intro same
            have sameId := keyed.distinct id other mail kept stored found same.symm
            exact different (Std.compare_eq_iff_eq.mpr sameId)
          simp [otherUid]

/-- The responses of a stream are answers to requested UIDs. -/
structure Answers (mails : HashMap String Mail) (bodyOf : UInt32 → List UInt8)
    (uidIdMap : HashMap UInt32 String) (responses : List Fetch) : Prop where
  answer : ∀ response ∈ responses, ∃ (id : String) (mail : Mail), uidIdMap[mail.uid]? = some id ∧
    mails[id]? = some mail ∧ response.uid = some mail.uid ∧
      response.body = some (bodyOf mail.uid)

theorem Answers.withBodies {uidIdMap : HashMap UInt32 String} {responses : List Fetch}
    (answers : Answers mails bodyOf uidIdMap responses) (maxMailSize : Nat)
    (uids : List UInt32) :
    Answers (withBodies maxMailSize bodyOf uids mails) bodyOf uidIdMap responses := by
  constructor
  intro response member
  rcases answers.answer response member with ⟨id, mail, known, stored, uid, body⟩
  by_cases done : mail.uid ∈ uids
  · refine ⟨id, mail.storeBody maxMailSize (bodyOf mail.uid), known, ?_, uid, body⟩
    rw [getElem?_withBodies, stored, Option.map_some, if_pos done]
  · refine ⟨id, mail, known, ?_, uid, body⟩
    rw [getElem?_withBodies, stored, Option.map_some, if_neg done]

theorem foldlM_receiveBody (keyed : UidKeyed mails) {uidIdMap : HashMap UInt32 String}
    {responses : List Fetch} (answers : Answers mails bodyOf uidIdMap responses) :
    (responses.map Except.ok).foldlM (receiveBody config uidIdMap) mails =
      .ok (withBodies config.maxMailSize.toNat bodyOf (responses.filterMap Fetch.uid) mails) := by
  induction responses generalizing mails with
  | nil => rw [List.filterMap_nil, withBodies_nil]; rfl
  | cons response responses ih =>
      rcases answers.answer response List.mem_cons_self with
        ⟨id, mail, known, stored, uid, body⟩
      have rest : Answers mails bodyOf uidIdMap responses :=
        ⟨fun other member => answers.answer other (List.mem_cons_of_mem _ member)⟩
      have stepped : receiveBody config uidIdMap mails (.ok response) = _ :=
        receiveBody_eq keyed known stored uid body
      have merged := @withBodies_withBodies config.maxMailSize.toNat bodyOf [mail.uid] mails
        (responses.filterMap Fetch.uid)
      rw [List.map_cons, List.foldlM_cons, stepped, List.filterMap_cons_some uid]
      exact (ih keyed.withBodies (rest.withBodies _ _)).trans (congrArg Except.ok merged)

/-- The map from UIDs to IDs knows every requested mail. -/
theorem getElem?_uidIdMap_of_mem (keyed : UidKeyed mails) {chunk : List String} {mail : Mail}
    (requested : mail ∈ chunk.filterMap fun id => mails[id]?) :
    ((chunk.filterMap fun id => mails[id]?).foldl
      (fun uidIdMap mail => uidIdMap.insert mail.uid mail.id)
        (∅ : HashMap UInt32 String))[mail.uid]? = some mail.id := by
  have ofRequested : ∀ found ∈ chunk.filterMap (fun id => mails[id]?),
      mails[found.id]? = some found := by
    intro found member
    rcases List.mem_filterMap.mp member with ⟨id, _, stored⟩
    rw [keyed.id id found stored, stored]
  have present : mail.uid ∈ (chunk.filterMap fun id => mails[id]?).foldl
      (fun uidIdMap mail => uidIdMap.insert mail.uid mail.id) (∅ : HashMap UInt32 String) := by
    rw [uidIdMap_eq, mem_insertMany_iff, List.map_map]
    exact Or.inl (List.mem_map.mpr ⟨mail, requested, rfl⟩)
  rw [Std.ExtTreeMap.mem_iff_isSome_getElem?] at present
  rcases Option.isSome_iff_exists.mp present with ⟨id, known⟩
  rcases mem_of_getElem?_uidIdMap known with ⟨found, member, sameUid, rfl⟩
  rw [known, keyed.distinct found.id mail.id found mail (ofRequested found member)
    (ofRequested mail requested) sameUid]

/-- A chunk sends one request, and it leaves the bodies of the requested mails behind. -/
theorem fetchChunk_eq_ok {before : Download} (keyed : UidKeyed before.mails)
    (answersEach : AnswersEach session bodyOf) (chunk : List String) :
    fetchChunk config session before chunk =
      .ok {
        mails := withBodies config.maxMailSize.toNat bodyOf (requestOf before.mails chunk)
          before.mails
        sent := before.sent ++ [bodyRequest config before.mails chunk] } := by
  rcases answersEach before.sent (bodyRequest config before.mails chunk) with
    ⟨fetched, answered, perm⟩
  have answers : Answers before.mails bodyOf ((chunk.filterMap fun id => before.mails[id]?).foldl
      (fun uidIdMap mail => uidIdMap.insert mail.uid mail.id) ∅) fetched := by
    constructor
    intro response member
    have listed := perm.mem_iff.mp (List.mem_map_of_mem member)
    rcases List.mem_map.mp listed with ⟨uid, requested, equal⟩
    rcases List.mem_map.mp requested with ⟨mail, found, rfl⟩
    rcases List.mem_filterMap.mp found with ⟨id, _, stored⟩
    refine ⟨mail.id, mail, getElem?_uidIdMap_of_mem keyed found, ?_,
      (congrArg Prod.fst equal).symm, (congrArg Prod.snd equal).symm⟩
    rw [keyed.id id mail stored, stored]
  have received : (fetched.filterMap Fetch.uid).Perm (requestOf before.mails chunk) := by
    have uids := perm.filterMap Prod.fst
    rwa [List.filterMap_map, List.filterMap_map, Function.comp_def, Function.comp_def,
      List.filterMap_some] at uids
  have stored : (fetched.map Except.ok).foldlM (receiveBody config
      ((chunk.filterMap fun id => before.mails[id]?).foldl
        (fun uidIdMap mail => uidIdMap.insert mail.uid mail.id) ∅)) before.mails =
      .ok (withBodies config.maxMailSize.toNat bodyOf (requestOf before.mails chunk)
        before.mails) := by
    refine Eq.trans (foldlM_receiveBody keyed answers) (congrArg Except.ok ?_)
    exact withBodies_congr fun uid => received.mem_iff
  rw [fetchChunk_eq, answered]
  simp only [Result.context, bind, Except.bind]
  rw [stored]
  rfl

theorem requestOf_withBodies (maxMailSize : Nat) (uids : List UInt32) (chunk : List String) :
    requestOf (withBodies maxMailSize bodyOf uids mails) chunk = requestOf mails chunk := by
  simp only [requestOf, List.map_filterMap, getElem?_withBodies, Option.map_map]
  congr 1
  funext id
  congr 1
  funext mail
  simp only [Function.comp_apply]
  split <;> rfl

theorem bodyRequest_withBodies (maxMailSize : Nat) (uids : List UInt32) :
    bodyRequest config (withBodies maxMailSize bodyOf uids mails) = bodyRequest config mails := by
  funext chunk
  rw [bodyRequest, requestOf_withBodies, bodyRequest]

/-- The chunks are requested one after the other, and together they leave the bodies of all
their mails behind. -/
theorem foldlM_fetchChunk {before : Download} (keyed : UidKeyed before.mails)
    (answersEach : AnswersEach session bodyOf) (parts : List (List String)) :
    parts.foldlM (fetchChunk config session) before =
      .ok {
        mails := withBodies config.maxMailSize.toNat bodyOf (requestOf before.mails parts.flatten)
          before.mails
        sent := before.sent ++ parts.map (bodyRequest config before.mails) } := by
  induction parts generalizing before with
  | nil =>
      rw [List.flatten_nil, requestOf, List.filterMap_nil, List.map_nil, withBodies_nil,
        List.map_nil, List.append_nil]
      rfl
  | cons chunk rest ih =>
      rw [List.foldlM_cons, fetchChunk_eq_ok keyed answersEach chunk]
      refine Eq.trans (ih keyed.withBodies) ?_
      simp only [bodyRequest_withBodies, requestOf_withBodies, withBodies_withBodies,
        List.flatten_cons, List.map_cons, List.append_assoc, List.singleton_append]
      simp only [requestOf, List.filterMap_append, List.map_append]

theorem flatten_chunks {α : Type} {size : Nat} (positive : 0 < size) (items : List α) :
    (chunks size items).flatten = items := by
  have go : ∀ (fuel : Nat) (items : List α), items.length ≤ fuel →
      (chunks.go size fuel items).flatten = items := by
    intro fuel
    induction fuel with
    | zero =>
        intro items short
        rw [List.eq_nil_of_length_eq_zero (Nat.le_zero.mp short)]
        rfl
    | succ fuel ih =>
        intro items short
        cases items with
        | nil => rfl
        | cons first rest =>
            rw [chunks.go, List.flatten_cons, ih, List.take_append_drop]
            rw [List.length_drop, List.length_cons]
            rw [List.length_cons] at short
            omega
  exact go items.length items (Nat.le_refl _)

end Server

section OneShot

variable {env : Externals} {config : Configuration} {session : Session} {imapFolder : String}
  {bodyOf : UInt32 → List UInt8} {metadata : HashMap String Mail}

/-- The IDs of the mails which are not oversized. -/
def smallIds (metadata : HashMap String Mail) : List String :=
  (metadata.toList.filter fun entry => !entry.2.oversized).map Prod.fst

/-- The IDs which the body phase collects. -/
def collectedIds (session : Session) (metadata : HashMap String Mail) : List String :=
  ((iterate session.order metadata).filter fun entry => !entry.2.oversized).map
    fun entry => entry.2.id

theorem collectedIds_perm (keyed : UidKeyed metadata) :
    (collectedIds session metadata).Perm (smallIds metadata) := by
  have perm := ((iterate_perm session.order metadata).filter fun entry =>
    !entry.2.oversized).map Prod.fst
  refine List.Perm.trans (List.Perm.of_eq ?_) perm
  apply List.map_congr_left
  intro entry member
  have stored := (iterate_perm session.order metadata).mem_iff.mp (List.mem_of_mem_filter member)
  rw [Std.ExtTreeMap.mem_toList_iff_getElem?_eq_some] at stored
  exact keyed.id entry.1 entry.2 stored

theorem nodup_smallIds (metadata : HashMap String Mail) : (smallIds metadata).Nodup :=
  (nodup_keys_toList metadata).sublist (List.filter_sublist.map Prod.fst)

theorem mem_smallIds {id : String} :
    id ∈ smallIds metadata ↔ ∃ mail : Mail, metadata[id]? = some mail ∧ mail.oversized = false := by
  simp [smallIds, Std.ExtTreeMap.mem_toList_iff_getElem?_eq_some]

/-- Every mail which is not oversized is requested exactly once, and no other mail. -/
structure RequestedOnce (metadata : HashMap String Mail) (uids : List UInt32) : Prop where
  nodup : uids.Nodup
  mem : ∀ uid, uid ∈ uids ↔ ∃ (id : String) (mail : Mail), metadata[id]? = some mail ∧
    mail.oversized = false ∧ mail.uid = uid

theorem requestedOnce_of_perm (keyed : UidKeyed metadata) {ids : List String}
    (perm : ids.Perm (smallIds metadata)) : RequestedOnce metadata (requestOf metadata ids) := by
  constructor
  case nodup =>
    have distinct : ids.Nodup := perm.nodup_iff.mpr (nodup_smallIds metadata)
    rw [requestOf, List.map_filterMap]
    refine distinct.filterMap ?_
    intro id other uid here there
    rcases Option.map_eq_some_iff.mp here with ⟨mail, stored, rfl⟩
    rcases Option.map_eq_some_iff.mp there with ⟨found, kept, same⟩
    exact keyed.distinct id other mail found stored kept same.symm
  case mem =>
    intro uid
    simp only [requestOf, List.mem_map, List.mem_filterMap, perm.mem_iff, mem_smallIds]
    constructor
    · rintro ⟨mail, ⟨id, ⟨found, present, small⟩, stored⟩, same⟩
      rw [present] at stored
      cases stored
      exact ⟨id, mail, present, small, same⟩
    · rintro ⟨id, mail, stored, small, same⟩
      exact ⟨mail, ⟨id, ⟨mail, stored, small⟩, stored⟩, same⟩

/-- The mails of one folder are looked up under IDs which belong to their UIDs. -/
theorem DeliveredMails.uidKeyed (delivered : DeliveredMails env config imapFolder metadata) :
    UidKeyed metadata := by
  constructor
  case id => exact fun id mail found => (delivered id mail found).1
  case distinct =>
    intro id other mail found here there same
    rcases delivered id mail here with ⟨mailKey, first⟩
    rcases delivered other found there with ⟨foundKey, second⟩
    rw [← mailKey, ← foundKey, first.id, second.id, first.folder, second.folder, same]

/-- The bodies of the mails which are requested once are stored, and nothing else. -/
theorem getElem?_withBodies_of_once {maxMailSize : Nat} {uids : List UInt32}
    (keyed : UidKeyed metadata) (once : RequestedOnce metadata uids) (id : String) :
    (withBodies maxMailSize bodyOf uids metadata)[id]? = metadata[id]?.map fun mail =>
      if mail.oversized then mail else mail.storeBody maxMailSize (bodyOf mail.uid) := by
  rw [getElem?_withBodies]
  cases stored : metadata[id]? with
  | none => rfl
  | some mail =>
      have requested : mail.uid ∈ uids ↔ mail.oversized = false := by
        rw [once.mem]
        constructor
        · rintro ⟨other, found, present, small, same⟩
          have sameId := keyed.distinct other id found mail present stored same
          rw [sameId, stored] at present
          rw [Option.some.inj present]
          exact small
        · exact fun small => ⟨id, mail, stored, small, rfl⟩
      cases oversized : mail.oversized <;> simp [requested, oversized]

theorem fetchBodies_eq (keyed : UidKeyed metadata) (positive : 1 ≤ config.imapChunkSize)
    (answersEach : AnswersEach session bodyOf) :
    fetchBodies config session metadata =
      .ok {
        mails := withBodies config.maxMailSize.toNat bodyOf
          (requestOf metadata (collectedIds session metadata)) metadata
        sent := (chunks config.imapChunkSize (collectedIds session metadata)).map
          (bodyRequest config metadata) } := by
  have downloaded : (chunks config.imapChunkSize (collectedIds session metadata)).foldlM
      (fetchChunk config session) { mails := metadata, sent := [] } = _ :=
    foldlM_fetchChunk keyed answersEach _
  rw [flatten_chunks positive] at downloaded
  simp only [fetchBodies]
  rw [← collectedIds]
  split
  · next empty =>
      rw [List.isEmpty_iff.mp empty, requestOf, List.filterMap_nil, List.map_nil, withBodies_nil]
      rfl
  · rw [if_pos (Nat.lt_of_succ_le positive), downloaded, List.nil_append]

/-- The requests for the chunks ask for the same mails as one request for all. -/
theorem flatMap_uids_chunks (positive : 1 ≤ config.imapChunkSize) (ids : List String) :
    ((chunks config.imapChunkSize ids).map (bodyRequest config metadata)).flatMap UidFetch.uids =
      requestOf metadata ids := by
  conv_rhs => rw [← flatten_chunks positive ids]
  simp only [requestOf, List.filterMap_flatten, List.map_flatten, List.map_map, List.flatMap_def]
  rfl

/-- A download in chunks requests every mail once that is not oversized, and it stores the
bodies of exactly these mails.  One request for all of them delivers the same mails. -/
theorem chunked_getMails {mailboxExists : Nat} (created : session.createClient = .ok ())
    (loggedIn : session.login = .ok ()) (selected : session.select imapFolder = .ok mailboxExists)
    (fetched : (fetchMetadata env config session imapFolder mailboxExists).run =
      some (.ok metadata))
    (positive : 1 ≤ config.imapChunkSize) (answersEach : AnswersEach session bodyOf) :
    ∃ mails sent,
      (download env config session imapFolder).run =
        some (.ok { mails := mails, sent := sent }) ∧
      (getMails env config session imapFolder).run = some (.ok mails) ∧
      RequestedOnce metadata (sent.flatMap UidFetch.uids) ∧
      (∀ id : String, mails[id]? = metadata[id]?.map fun mail =>
        if mail.oversized then mail
        else mail.storeBody config.maxMailSize.toNat (bodyOf mail.uid)) ∧
      ∀ oneShot : Session, AnswersEach oneShot bodyOf → ∀ ids, ids.Perm (smallIds metadata) →
        ∃ request, RequestedOnce metadata request.uids ∧
          fetchChunk config oneShot { mails := metadata, sent := [] } ids =
            .ok { mails := mails, sent := [request] } := by
  have keyed := (deliveredMails_fetchMetadata fetched).uidKeyed
  have collected : (collectedIds session metadata).Perm (smallIds metadata) :=
    collectedIds_perm keyed
  have once := requestedOnce_of_perm keyed collected
  have bodies : fetchBodies config session metadata = _ :=
    fetchBodies_eq keyed positive answersEach
  refine ⟨_, (chunks config.imapChunkSize (collectedIds session metadata)).map
    (bodyRequest config metadata), ?_, ?_, ?_, getElem?_withBodies_of_once keyed once, ?_⟩
  · exact download_eq_ok_iff.mpr ⟨_, metadata, created, loggedIn, selected, fetched, bodies⟩
  · exact getMails_eq_ok_iff.mpr
      ⟨_, metadata, _, created, loggedIn, selected, fetched, bodies⟩
  · rw [flatMap_uids_chunks positive]
    exact once
  · intro oneShot answersShot ids perm
    have onceShot := requestedOnce_of_perm keyed perm
    refine ⟨bodyRequest config metadata ids, onceShot, ?_⟩
    have shot : fetchChunk config oneShot { mails := metadata, sent := [] } ids = _ :=
      fetchChunk_eq_ok keyed answersShot ids
    have same : ∀ uid, uid ∈ requestOf metadata ids ↔
        uid ∈ requestOf metadata (collectedIds session metadata) := by
      intro uid
      rw [onceShot.mem, once.mem]
    rw [shot, withBodies_congr same, List.nil_append]

theorem answersEach_sampleSession (uids : List UInt32) :
    AnswersEach (sampleSession uids) fun _ => sampleBody := by
  intro sent request
  refine ⟨request.uids.map (sampleFetch (some sampleBody)), ?_, ?_⟩
  · rw [List.map_map]
    rfl
  · rw [List.map_map]
    exact List.Perm.refl _

/-- The metadata which a sample session announces. -/
def sampleMetadata (uids : List UInt32) : HashMap String Mail :=
  (∅ : HashMap String Mail).insertMany (uids.map fun uid =>
    ((sampleMail uid).id, { sampleMail uid with size := 232, body := none }))

theorem chunked_getMails_sample :
    ∃ mails sent,
      (download sampleEnv { sampleConfig with imapChunkSize := 1 } (sampleSession [1, 4])
        "INBOX").run = some (.ok { mails := mails, sent := sent }) ∧
      (getMails sampleEnv { sampleConfig with imapChunkSize := 1 } (sampleSession [1, 4])
        "INBOX").run = some (.ok mails) ∧
      RequestedOnce (sampleMetadata [1, 4]) (sent.flatMap UidFetch.uids) ∧
      (∀ id : String, mails[id]? = (sampleMetadata [1, 4])[id]?.map fun mail =>
        if mail.oversized then mail
        else mail.storeBody sampleConfig.maxMailSize.toNat sampleBody) ∧
      ∀ oneShot : Session, AnswersEach oneShot (fun _ => sampleBody) →
        ∀ ids, ids.Perm (smallIds (sampleMetadata [1, 4])) →
          ∃ request, RequestedOnce (sampleMetadata [1, 4]) request.uids ∧
            fetchChunk { sampleConfig with imapChunkSize := 1 } oneShot
                { mails := sampleMetadata [1, 4], sent := [] } ids =
              .ok { mails := mails, sent := [request] } := by
  have fetched : (fetchMetadata sampleEnv { sampleConfig with imapChunkSize := 1 }
      (sampleSession [1, 4]) "INBOX" 2).run = some (.ok (sampleMetadata [1, 4])) := by
    decide +kernel
  exact chunked_getMails rfl rfl rfl fetched (by decide) (answersEach_sampleSession [1, 4])

end OneShot

end DmarcReportViewer
