import DmarcReportViewer.Background.Accounting

/-!
# The size limit of a download

Only mails which were not announced as oversized are requested, and a body which
turns out to be too large is dropped.  After every response, each mail is either the
one that was announced or a requested one with the body received last.
-/

namespace DmarcReportViewer

open Collections Fallible

section Bodies

variable {config : Configuration} {session : Session} {metadata mails next : HashMap String Mail}

@[simp]
theorem storeBody_storeBody (mail : Mail) (maxMailSize : Nat) (earlier body : List UInt8) :
    (mail.storeBody maxMailSize earlier).storeBody maxMailSize body =
      mail.storeBody maxMailSize body :=
  rfl

/-- Every mail is the announced one, or it is not oversized and a body was stored. -/
structure Downloaded (maxMailSize : Nat) (metadata mails : HashMap String Mail) : Prop where
  present : ∀ id : String, id ∈ mails ↔ id ∈ metadata
  stored : ∀ (id : String) (original mail : Mail), metadata[id]? = some original →
    mails[id]? = some mail →
      mail = original ∨
        (original.oversized = false ∧ ∃ body, mail = original.storeBody maxMailSize body)

theorem downloaded_refl (maxMailSize : Nat) (metadata : HashMap String Mail) :
    Downloaded maxMailSize metadata metadata := by
  constructor
  case present => exact fun id => Iff.rfl
  case stored =>
    intro id original mail announced found
    left
    exact Option.some.inj (found.symm.trans announced)

theorem Downloaded.exists_original {maxMailSize : Nat}
    (downloaded : Downloaded maxMailSize metadata mails) {id : String} {mail : Mail}
    (found : mails[id]? = some mail) : ∃ original : Mail, metadata[id]? = some original := by
  have member : id ∈ mails := by
    rw [Std.ExtTreeMap.mem_iff_isSome_getElem?, found]
    rfl
  rw [downloaded.present, Std.ExtTreeMap.mem_iff_isSome_getElem?] at member
  exact Option.isSome_iff_exists.mp member

theorem Downloaded.id_eq {maxMailSize : Nat} (downloaded : Downloaded maxMailSize metadata mails)
    (keyed : ∀ (id : String) (mail : Mail), metadata[id]? = some mail → mail.id = id)
    {id : String} {mail : Mail} (found : mails[id]? = some mail) : mail.id = id := by
  rcases downloaded.exists_original found with ⟨original, stored⟩
  have originalId := keyed id original stored
  rcases downloaded.stored id original mail stored found with rfl | ⟨_, body, rfl⟩
  · exact originalId
  · exact originalId

/-- Storing the body of a mail that was not announced as oversized. -/
theorem Downloaded.storeBody {maxMailSize : Nat}
    (downloaded : Downloaded maxMailSize metadata mails)
    {id : String} {mail : Mail} (found : mails[id]? = some mail)
    (requested : ∀ original : Mail, metadata[id]? = some original → original.oversized = false)
    (body : List UInt8) :
    Downloaded maxMailSize metadata (mails.insert id (mail.storeBody maxMailSize body)) := by
  constructor
  case present =>
    intro other
    rw [Std.ExtTreeMap.mem_insert, Std.compare_eq_iff_eq, downloaded.present]
    constructor
    · rintro (rfl | member)
      · rw [← downloaded.present, Std.ExtTreeMap.mem_iff_isSome_getElem?, found]
        rfl
      · exact member
    · exact Or.inr
  case stored =>
    intro other original updated announced lookup
    rw [Std.ExtTreeMap.getElem?_insert] at lookup
    split at lookup
    · next same =>
        rw [Std.compare_eq_iff_eq] at same
        subst same
        right
        refine ⟨requested original announced, body, ?_⟩
        rw [← Option.some.inj lookup]
        rcases downloaded.stored id original mail announced found with rfl | ⟨_, earlier, rfl⟩
        · rfl
        · exact storeBody_storeBody original maxMailSize earlier body
    · exact downloaded.stored other original updated announced lookup

theorem uidIdMap_eq (requested : List Mail) :
    requested.foldl (fun uidIdMap mail => uidIdMap.insert mail.uid mail.id)
        (∅ : HashMap UInt32 String) =
      (∅ : HashMap UInt32 String).insertMany
        (requested.map fun mail => (mail.uid, mail.id)) := by
  rw [Std.ExtTreeMap.insertMany_list_eq_foldl, List.foldl_map]

/-- The map from UIDs to IDs only leads to requested mails. -/
theorem mem_of_getElem?_uidIdMap {requested : List Mail} {uid : UInt32} {id : String}
    (found : (requested.foldl (fun uidIdMap mail => uidIdMap.insert mail.uid mail.id)
      (∅ : HashMap UInt32 String))[uid]? = some id) :
    ∃ mail ∈ requested, mail.uid = uid ∧ mail.id = id := by
  rw [uidIdMap_eq] at found
  rcases mem_or_getElem?_of_insertMany found with listed | empty
  · rcases List.mem_map.mp listed with ⟨mail, member, equal⟩
    cases equal
    exact ⟨mail, member, rfl, rfl⟩
  · simp at empty

theorem mem_of_mem_chunks {α : Type} {size : Nat} {items chunk : List α} {item : α}
    (member : chunk ∈ chunks size items) (inChunk : item ∈ chunk) : item ∈ items := by
  have go : ∀ (fuel : Nat) (items : List α), chunk ∈ chunks.go size fuel items → item ∈ items := by
    intro fuel
    induction fuel with
    | zero =>
        intro items member
        cases items <;> cases member
    | succ fuel ih =>
        intro items member
        cases items with
        | nil => cases member
        | cons first rest =>
            rcases List.mem_cons.mp member with rfl | later
            · exact List.mem_of_mem_take inChunk
            · exact List.mem_of_mem_drop (ih _ later)
  exact go items.length items member

theorem downloaded_receiveBody {uidIdMap : HashMap UInt32 String} {fetchResult : Result Fetch}
    (downloaded : Downloaded config.maxMailSize.toNat metadata mails)
    (requested : ∀ (uid : UInt32) (id : String), uidIdMap[uid]? = some id →
      ∀ original : Mail, metadata[id]? = some original → original.oversized = false)
    (received : receiveBody config uidIdMap mails fetchResult = .ok next) :
    Downloaded config.maxMailSize.toNat metadata next := by
  simp only [receiveBody, bind_eq_ok_iff] at received
  rcases received with ⟨fetched, _, uid, _, stored⟩
  split at stored
  · simp only [pure_eq_ok_iff] at stored
    exact stored ▸ downloaded
  · next id known =>
      split at stored
      · next mail body found _ =>
          simp only [pure_eq_ok_iff] at stored
          subst stored
          exact downloaded.storeBody found (requested uid id known) body
      · simp only [pure_eq_ok_iff] at stored
        exact stored ▸ downloaded

/-- The IDs of a chunk are those of mails which were not announced as oversized. -/
theorem downloaded_fetchChunk {before after : Download} {chunk : List String}
    (downloaded : Downloaded config.maxMailSize.toNat metadata before.mails)
    (keyed : ∀ (id : String) (mail : Mail), metadata[id]? = some mail → mail.id = id)
    (requested : ∀ id ∈ chunk, ∀ original : Mail, metadata[id]? = some original →
      original.oversized = false)
    (fetched : fetchChunk config session before chunk = .ok after) :
    Downloaded config.maxMailSize.toNat metadata after.mails := by
  simp only [fetchChunk, bind_eq_ok_iff, pure_eq_ok_iff] at fetched
  rcases fetched with ⟨stream, _, mails, received, rfl⟩
  apply foldlM_invariant (Downloaded config.maxMailSize.toNat metadata) downloaded _ received
  intro state item following _ invariant stepped
  refine downloaded_receiveBody invariant ?_ stepped
  intro uid id known original announced
  rcases mem_of_getElem?_uidIdMap known with ⟨mail, member, _, rfl⟩
  rcases List.mem_filterMap.mp member with ⟨id, inChunk, found⟩
  have sameId : mail.id = id := downloaded.id_eq keyed found
  exact requested id inChunk original (sameId ▸ announced)

theorem downloaded_fetchBodies {finished : Download}
    (keyed : ∀ (id : String) (mail : Mail), metadata[id]? = some mail → mail.id = id)
    (fetched : fetchBodies config session metadata = .ok finished) :
    Downloaded config.maxMailSize.toNat metadata finished.mails := by
  simp only [fetchBodies] at fetched
  split_ifs at fetched
  · cases fetched
    exact downloaded_refl _ metadata
  · apply foldlM_invariant (fun download : Download =>
      Downloaded config.maxMailSize.toNat metadata download.mails)
      (downloaded_refl _ metadata) _ fetched
    intro state chunk following member invariant stepped
    refine downloaded_fetchChunk invariant keyed ?_ stepped
    intro id inChunk original announced
    have listed := mem_of_mem_chunks member inChunk
    simp only [List.mem_map, List.mem_filter] at listed
    rcases listed with ⟨entry, ⟨stored, small⟩, rfl⟩
    rw [(iterate_perm session.order metadata).mem_iff,
      Std.ExtTreeMap.mem_toList_iff_getElem?_eq_some] at stored
    rw [keyed entry.1 entry.2 stored, stored] at announced
    rw [← Option.some.inj announced]
    simpa using small

end Bodies

section Limits

/-- What the size limit says about a mail. -/
structure Mail.WithinLimit (maxMailSize : Nat) (mail : Mail) : Prop where
  oversized : mail.oversized = true ↔ maxMailSize < mail.size
  body : ∀ body, mail.body = some body → body.length = mail.size ∧ body.length ≤ maxMailSize

/-- Two versions of a mail have the same metadata, apart from its size. -/
structure Mail.SameMetadata (mail original : Mail) : Prop where
  id : mail.id = original.id
  uid : mail.uid = original.uid
  account : mail.account = original.account
  folder : mail.folder = original.folder
  sender : mail.sender = original.sender
  recipient : mail.«to» = original.«to»
  subject : mail.subject = original.subject
  date : mail.date = original.date

/-- The mails after the body phase, compared with those of the metadata phase. -/
structure SizeLimited (maxMailSize : Nat) (metadata mails : HashMap String Mail) : Prop where
  withinLimit : ∀ (id : String) (mail : Mail), mails[id]? = some mail → mail.WithinLimit maxMailSize
  present : ∀ id : String, id ∈ mails ↔ id ∈ metadata
  sameMetadata : ∀ (id : String) (original mail : Mail), metadata[id]? = some original →
    mails[id]? = some mail → mail.SameMetadata original
  withoutBody : ∀ (id : String) (original mail : Mail), metadata[id]? = some original →
    original.oversized = true → mails[id]? = some mail → mail.body = none

variable {env : Externals} {config : Configuration} {session : Session} {imapFolder : String}

theorem withinLimit_storeBody (mail : Mail) (maxMailSize : Nat) (body : List UInt8) :
    (mail.storeBody maxMailSize body).WithinLimit maxMailSize := by
  constructor
  case oversized => simp [Mail.storeBody]
  case body =>
    intro kept found
    simp only [Mail.storeBody, decide_eq_true_eq] at found
    split at found
    · cases found
    · next small =>
        cases found
        exact ⟨rfl, Nat.le_of_not_lt small⟩

/-- An announced mail has no body yet, and its announced size decides whether it is
oversized. -/
def Mail.Announced (maxMailSize : Nat) (mail : Mail) : Prop :=
  mail.oversized = decide (maxMailSize < mail.size) ∧ mail.body = none

theorem announced_of_extractMetadata {fetched : Fetch} {maxSize : Nat} {account folder : String}
    {mail : Mail}
    (extracted : (extractMetadata env fetched maxSize account folder).run = some (.ok mail)) :
    mail.Announced maxSize := by
  simp only [extractMetadata, run_bind_eq_ok_iff, run_pure_eq_ok_iff] at extracted
  rcases extracted with ⟨uid, _, envelope, _, date, _, subject, _, rfl⟩
  exact ⟨rfl, rfl⟩

theorem announced_fetchMetadata {mailboxExists : Nat} {metadata : HashMap String Mail}
    (fetched : (fetchMetadata env config session imapFolder mailboxExists).run =
      some (.ok metadata)) :
    ∀ (id : String) (mail : Mail), metadata[id]? = some mail →
      mail.Announced config.maxMailSize.toNat := by
  simp only [fetchMetadata] at fetched
  split at fetched
  · simp only [run_bind_eq_ok_iff] at fetched
    rcases fetched with ⟨stream, _, received⟩
    apply run_foldlM_invariant (fun mails : HashMap String Mail =>
      ∀ (id : String) (mail : Mail), mails[id]? = some mail →
        mail.Announced config.maxMailSize.toNat) _ _ received
    · intro id mail lookup
      simp at lookup
    · intro mails item following _ invariant stepped id mail lookup
      simp only [receiveMetadata, run_bind_eq_ok_iff, run_context_eq_ok_iff, run_pure_eq_ok_iff]
        at stepped
      rcases stepped with ⟨fetched, _, added, extracted, rfl⟩
      rw [Std.ExtTreeMap.getElem?_insert] at lookup
      split at lookup
      · rw [← Option.some.inj lookup]
        exact announced_of_extractMetadata extracted
      · exact invariant id mail lookup
  · rw [← run_pure_eq_ok_iff.mp fetched]
    intro id mail lookup
    simp at lookup

theorem Downloaded.sizeLimited {maxMailSize : Nat} {metadata mails : HashMap String Mail}
    (downloaded : Downloaded maxMailSize metadata mails)
    (announced : ∀ (id : String) (mail : Mail), metadata[id]? = some mail →
      mail.Announced maxMailSize) : SizeLimited maxMailSize metadata mails := by
  constructor
  case withinLimit =>
    intro id mail found
    rcases downloaded.exists_original found with ⟨original, stored⟩
    rcases downloaded.stored id original mail stored found with rfl | ⟨_, body, rfl⟩
    · rcases announced id mail stored with ⟨oversized, empty⟩
      constructor
      case oversized => rw [oversized, decide_eq_true_iff]
      case body =>
        intro body kept
        rw [empty] at kept
        cases kept
    · exact withinLimit_storeBody original maxMailSize body
  case present => exact downloaded.present
  case sameMetadata =>
    intro id original mail stored found
    rcases downloaded.stored id original mail stored found with rfl | ⟨_, body, rfl⟩
    · constructor <;> rfl
    · constructor <;> rfl
  case withoutBody =>
    intro id original mail stored oversized found
    rcases downloaded.stored id original mail stored found with rfl | ⟨small, _⟩
    · exact (announced id mail stored).2
    · rw [small] at oversized
      cases oversized

/-- Whatever the server answers, the mails of a download that succeeds keep to the size
limit, and its body phase only changes sizes and bodies. -/
theorem sizeLimited_getMails {mails : HashMap String Mail}
    (downloaded : (getMails env config session imapFolder).run = some (.ok mails)) :
    ∃ mailboxExists metadata, session.select imapFolder = .ok mailboxExists ∧
      (fetchMetadata env config session imapFolder mailboxExists).run = some (.ok metadata) ∧
        SizeLimited config.maxMailSize.toNat metadata mails := by
  rcases getMails_eq_ok_iff.mp downloaded with
    ⟨mailboxExists, metadata, sent, _, _, selected, fetched, bodies⟩
  refine ⟨mailboxExists, metadata, selected, fetched, ?_⟩
  have keyed : ∀ (id : String) (mail : Mail), metadata[id]? = some mail → mail.id = id :=
    fun id mail found => (deliveredMails_fetchMetadata fetched id mail found).1
  exact (downloaded_fetchBodies keyed bodies).sizeLimited (announced_fetchMetadata fetched)

theorem sizeLimited_getMails_sample :
    ∃ mailboxExists metadata, (sampleSession [1, 4]).select "INBOX" = .ok mailboxExists ∧
      (fetchMetadata sampleEnv sampleConfig (sampleSession [1, 4]) "INBOX" mailboxExists).run =
        some (.ok metadata) ∧
      SizeLimited sampleConfig.maxMailSize.toNat metadata (sampleMails [1, 4]) := by
  have downloaded : (getMails sampleEnv sampleConfig (sampleSession [1, 4]) "INBOX").run =
      some (.ok (sampleMails [1, 4])) := by
    decide +kernel
  exact sizeLimited_getMails downloaded

end Limits

end DmarcReportViewer
