import DmarcReportViewer.Background

/-!
# What an update collects

The mails of an update are delivered mails of the searched folders, each under
its own ID.  The collection loop counts the files of every mail and gathers
them in two maps; both are described without the loop, by inserting all
extracted files at once.
-/

namespace DmarcReportViewer

open Collections Fallible

section Fetching

/-- The folders which an update searches for mails. -/
def Configuration.searchedFolders (config : Configuration) : List String :=
  config.imapFolderDmarc.toList ++ config.imapFolderTls.toList ++
    if expectAll config then [config.imapFolder] else []

/-- Every entry is a delivered mail of a searched folder under its own ID. -/
def SearchedMails (env : Externals) (config : Configuration) (mails : BTreeMap String Mail) :
    Prop :=
  ∀ (id : String) (mail : Mail), mails[id]? = some mail →
    mail.id = id ∧ ∃ folder ∈ config.searchedFolders, mail.DeliveredFrom env config folder

variable {env : Externals} {config : Configuration} {order : IterationOrder String Mail}

theorem SearchedMails.fresh {mails : BTreeMap String Mail}
    (searched : SearchedMails env config mails) {id : String} {mail : Mail}
    (found : mails[id]? = some mail) : mail.Fresh := by
  rcases searched id mail found with ⟨_, _, _, delivered⟩
  exact delivered.fresh

theorem SearchedMails.extendMails {wanted : Bool} {folderMails : Result (HashMap String Mail)}
    {message : String} {mails extended : BTreeMap String Mail}
    (searched : SearchedMails env config mails)
    (delivered : wanted = true → ∃ folder ∈ config.searchedFolders, ∃ session,
      (getMails env config session folder).run = some folderMails)
    (succeeded : extendMails wanted order folderMails message mails = .ok extended) :
    SearchedMails env config extended := by
  simp only [DmarcReportViewer.extendMails] at succeeded
  split at succeeded
  · next isWanted =>
      rcases delivered isWanted with ⟨folder, folderMem, session, downloaded⟩
      simp only [bind_eq_ok_iff, context_eq_ok_iff, pure_eq_ok_iff] at succeeded
      rcases succeeded with ⟨new, newOk, rfl⟩
      rw [newOk] at downloaded
      have deliveredNew := deliveredMails_getMails downloaded
      intro id mail lookup
      rcases mem_or_getElem?_of_insertMany lookup with listed | earlier
      · have entryMem := (iterate_perm order new).mem_iff.mp listed
        have found := Std.ExtTreeMap.mem_toList_iff_getElem?_eq_some.mp entryMem
        have origin := deliveredNew id mail found
        exact ⟨origin.1, folder, folderMem, origin.2⟩
      · exact searched id mail earlier
  · cases succeeded
    exact searched

/-- The mails of an update are delivered mails of the searched folders. -/
theorem searchedMails_fetchMails {inbox : Inbox} {order : Inbox.Order}
    (fromImap : inbox.FromImap env config)
    {mails : BTreeMap String Mail} (fetched : fetchMails config inbox order = .ok mails) :
    SearchedMails env config mails := by
  simp only [fetchMails, bind_eq_ok_iff] at fetched
  rcases fetched with ⟨dmarcMails, dmarcOk, tlsMails, tlsOk, defaultOk⟩
  have none : SearchedMails env config ∅ := by
    intro id mail lookup
    simp at lookup
  have dmarc := none.extendMails (by
    intro wanted
    rcases Option.isSome_iff_exists.mp wanted with ⟨folder, configured⟩
    rcases fromImap.dmarc folder configured with ⟨session, downloaded⟩
    exact ⟨folder, by simp [Configuration.searchedFolders, configured], session, downloaded⟩)
    dmarcOk
  have tls := dmarc.extendMails (by
    intro wanted
    rcases Option.isSome_iff_exists.mp wanted with ⟨folder, configured⟩
    rcases fromImap.tls folder configured with ⟨session, downloaded⟩
    exact ⟨folder, by simp [Configuration.searchedFolders, configured], session, downloaded⟩) tlsOk
  apply tls.extendMails _ defaultOk
  intro wanted
  simp only [Bool.and_eq_true, Option.isNone_iff_eq_none] at wanted
  rcases fromImap.default wanted.1 wanted.2 with ⟨session, downloaded⟩
  refine ⟨config.imapFolder, ?_, session, downloaded⟩
  simp [Configuration.searchedFolders, expectAll, wanted.1, wanted.2]

theorem extendMails_order (wanted : Bool) (left right : IterationOrder String Mail)
    (folderMails : Result (HashMap String Mail)) (message : String)
    (mails : BTreeMap String Mail) :
    extendMails wanted left folderMails message mails =
      extendMails wanted right folderMails message mails := by
  simp only [extendMails, insertMany_iterate]

/-- An update does not depend on the order in which the hash maps of the inbox
deliver the mails: it reports the same new mails and writes the same state. -/
theorem bgUpdate_order (attempt : Attempt env) (order : Inbox.Order) (state : AppState) :
    bgUpdate env { attempt with order := order } state = bgUpdate env attempt state := by
  have fetched : fetchMails attempt.config attempt.inbox order =
      fetchMails attempt.config attempt.inbox attempt.order := by
    simp only [fetchMails]
    rw [extendMails_order _ order.dmarc attempt.order.dmarc]
    simp only [extendMails_order _ order.tls attempt.order.tls,
      extendMails_order _ order.default attempt.order.default]
  have prepared : prepareUpdate env { attempt with order := order } =
      prepareUpdate env attempt := by
    simp only [prepareUpdate, fetched]
  simp only [bgUpdate, prepared]

end Fetching

section Gathering

/-- A mail after its files were collected. -/
def collectedMail (env : Externals) (config : Configuration) (mail : Mail) : Mail :=
  (filesOf env config mail).foldl (fun mail file => mail.countFile file.fileType)
    { mail with body := none }

/-- The files of a type by their hashes. -/
def Collection.files (collection : Collection) : FileType → BTreeMap String ReportFile
  | .xml => collection.xmlFiles
  | .json => collection.jsonFiles

/-- The entries for the files of a type, in the order of their extraction. -/
def fileEntries (fileType : FileType) (files : List ReportFile) : List (String × ReportFile) :=
  (files.filter fun file => file.fileType = fileType).map fun file => (file.hash, file)

/-- All files of all mails. -/
def extractedFiles (env : Externals) (config : Configuration) (mails : BTreeMap String Mail) :
    List ReportFile :=
  (valueList mails).flatMap (filesOf env config)

variable {env : Externals} {config : Configuration}

theorem fileEntries_append (fileType : FileType) (left right : List ReportFile) :
    fileEntries fileType (left ++ right) =
      fileEntries fileType left ++ fileEntries fileType right := by
  simp [fileEntries]

@[simp]
theorem mails_insertFile (collection : Collection) (file : ReportFile) :
    (collection.insertFile file).mails = collection.mails := by
  simp only [Collection.insertFile]
  split <;> rfl

theorem files_insertFile (collection : Collection) (file : ReportFile) (fileType : FileType) :
    (collection.insertFile file).files fileType =
      (collection.files fileType).insertMany (fileEntries fileType [file]) := by
  cases own : file.fileType <;> cases fileType <;>
    simp [Collection.insertFile, Collection.files, fileEntries, own]

theorem mails_foldl_insertFile (files : List ReportFile) (collection : Collection) :
    (files.foldl Collection.insertFile collection).mails = collection.mails := by
  induction files generalizing collection with
  | nil => rfl
  | cons file files ih => rw [List.foldl_cons, ih, mails_insertFile]

theorem files_foldl_insertFile (files : List ReportFile) (collection : Collection)
    (fileType : FileType) :
    (files.foldl Collection.insertFile collection).files fileType =
      (collection.files fileType).insertMany (fileEntries fileType files) := by
  induction files generalizing collection with
  | nil => simp [fileEntries]
  | cons file files ih =>
      have split := fileEntries_append fileType [file] files
      rw [List.singleton_append] at split
      rw [List.foldl_cons, ih, files_insertFile, split, Std.ExtTreeMap.insertMany_append]

@[simp]
theorem files_with_mails (collection : Collection) (mails : BTreeMap String Mail)
    (fileType : FileType) :
    Collection.files { collection with mails := mails } fileType = collection.files fileType := by
  cases fileType <;> rfl

theorem filesOf_of_body_eq_none {mail : Mail} (missing : mail.body = none) :
    filesOf env config mail = [] := by
  simp [filesOf, missing]

theorem collectedMail_of_body_eq_none {mail : Mail} (missing : mail.body = none) :
    collectedMail env config mail = mail := by
  rw [collectedMail, filesOf_of_body_eq_none missing, List.foldl_nil, ← missing]

/-- The files which the collection loop finds in a mail. -/
theorem files_collectMail (collection : Collection) (entry : String × Mail)
    (fileType : FileType) :
    (collectMail env config collection entry).files fileType =
      (collection.files fileType).insertMany
        (fileEntries fileType (filesOf env config entry.2)) := by
  cases present : entry.2.body with
  | none =>
      rw [filesOf_of_body_eq_none present]
      simp [collectMail, present, fileEntries]
  | some body =>
      cases extracted : (extractReportFiles env entry.2 config).1 with
      | ok files =>
          have found : filesOf env config entry.2 = files := by
            simp [filesOf, present, extracted]
          simp only [collectMail, present, extracted, files_with_mails, found]
          exact files_foldl_insertFile files collection fileType
      | error error =>
          have found : filesOf env config entry.2 = [] := by
            simp [filesOf, present, extracted]
          simp [collectMail, present, extracted, found, fileEntries]

/-- What the collection loop does to the mail it visits. -/
theorem mails_collectMail {collection : Collection} {entry : String × Mail}
    (present : collection.mails[entry.1]? = some entry.2) :
    (collectMail env config collection entry).mails =
      collection.mails.insert entry.1 (collectedMail env config entry.2) := by
  cases body : entry.2.body with
  | none =>
      rw [collectedMail_of_body_eq_none body]
      simp only [collectMail, body]
      apply Std.ExtTreeMap.ext_getElem?
      intro other
      rw [Std.ExtTreeMap.getElem?_insert]
      split
      · next same => rw [← Std.compare_eq_iff_eq.mp same, present]
      · rfl
  | some _ =>
      cases extracted : (extractReportFiles env entry.2 config).1 with
      | ok files =>
          have found : filesOf env config entry.2 = files := by
            simp [filesOf, body, extracted]
          simp [collectMail, body, extracted, mails_foldl_insertFile, collectedMail, found]
      | error error =>
          have found : filesOf env config entry.2 = [] := by
            simp [filesOf, body, extracted]
          simp [collectMail, body, extracted, collectedMail, found]

theorem files_foldl_collectMail (entries : List (String × Mail)) (collection : Collection)
    (fileType : FileType) :
    (entries.foldl (collectMail env config) collection).files fileType =
      (collection.files fileType).insertMany
        (fileEntries fileType (entries.flatMap fun entry => filesOf env config entry.2)) := by
  induction entries generalizing collection with
  | nil => simp [fileEntries]
  | cons entry entries ih =>
      rw [List.foldl_cons, ih, files_collectMail, List.flatMap_cons, fileEntries_append,
        Std.ExtTreeMap.insertMany_append]

theorem mails_foldl_collectMail {entries : List (String × Mail)} {collection : Collection}
    (distinct : (entries.map Prod.fst).Nodup)
    (present : ∀ entry ∈ entries, collection.mails[entry.1]? = some entry.2) :
    (entries.foldl (collectMail env config) collection).mails =
      collection.mails.insertMany
        (entries.map fun entry => (entry.1, collectedMail env config entry.2)) := by
  induction entries generalizing collection with
  | nil => simp
  | cons entry entries ih =>
      rw [List.map_cons, List.nodup_cons] at distinct
      have visited : (collectMail env config collection entry).mails = _ :=
        mails_collectMail (present entry List.mem_cons_self)
      have restPresent : ∀ other ∈ entries,
          (collectMail env config collection entry).mails[other.1]? = some other.2 := by
        intro other otherMem
        have differs : entry.1 ≠ other.1 := by
          intro same
          exact distinct.1 (List.mem_map.mpr ⟨other, otherMem, same.symm⟩)
        rw [visited, Std.ExtTreeMap.getElem?_insert, if_neg (by simpa using differs)]
        exact present other (List.mem_cons_of_mem _ otherMem)
      rw [List.foldl_cons, ih distinct.2 restPresent, visited, List.map_cons,
        Std.ExtTreeMap.insertMany_cons]

/-- The collection loop changes every mail on its own. -/
theorem mails_collectFiles (mails : BTreeMap String Mail) :
    (collectFiles env config mails).mails =
      mails.map fun _ mail => collectedMail env config mail := by
  have distinct := nodup_keys_toList mails
  have visited : (collectFiles env config mails).mails = mails.insertMany _ :=
    mails_foldl_collectMail distinct (by
      intro entry entryMem
      exact Std.ExtTreeMap.mem_toList_iff_getElem?_eq_some.mp entryMem)
  have sameKeys : (mails.toList.map fun entry =>
      (entry.1, collectedMail env config entry.2)).map Prod.fst = mails.toList.map Prod.fst := by
    rw [List.map_map]
    rfl
  rw [visited]
  apply Std.ExtTreeMap.ext_getElem?
  intro id
  rw [Std.ExtTreeMap.getElem?_map]
  cases found : mails[id]? with
  | none =>
      rw [getElem?_insertMany_of_not_mem, found]
      · rfl
      · rw [sameKeys, Std.ExtTreeMap.map_fst_toList_eq_keys, Std.ExtTreeMap.mem_keys]
        simpa using found
  | some mail =>
      apply getElem?_insertMany_of_mem (sameKeys ▸ distinct)
      apply List.mem_map.mpr
      exact ⟨(id, mail), Std.ExtTreeMap.mem_toList_iff_getElem?_eq_some.mpr found, rfl⟩

/-- The collection loop gathers the files of all mails by their hashes. -/
theorem files_collectFiles (mails : BTreeMap String Mail) (fileType : FileType) :
    (collectFiles env config mails).files fileType =
      (∅ : BTreeMap String ReportFile).insertMany
        (fileEntries fileType (extractedFiles env config mails)) := by
  have gathered : (collectFiles env config mails).files fileType = _ :=
    files_foldl_collectMail mails.toList { mails := mails, xmlFiles := ∅, jsonFiles := ∅ } fileType
  rw [gathered, extractedFiles, valueList, List.flatMap_map]
  cases fileType <;> rfl

theorem mem_extractedFiles {mails : BTreeMap String Mail} {file : ReportFile} :
    file ∈ extractedFiles env config mails ↔
      ∃ (id : String) (mail : Mail), mails[id]? = some mail ∧ file ∈ filesOf env config mail := by
  simp only [extractedFiles, List.mem_flatMap, mem_valueList]
  constructor
  · rintro ⟨mail, ⟨id, found⟩, fileMem⟩
    exact ⟨id, mail, found, fileMem⟩
  · rintro ⟨id, mail, found, fileMem⟩
    exact ⟨mail, ⟨id, found⟩, fileMem⟩

/-- A file under a key was extracted and has that key as its hash. -/
theorem extracted_of_files_collectFiles {mails : BTreeMap String Mail} {fileType : FileType}
    {hash : String} {file : ReportFile}
    (found : ((collectFiles env config mails).files fileType)[hash]? = some file) :
    file ∈ extractedFiles env config mails ∧ file.fileType = fileType ∧ file.hash = hash := by
  rw [files_collectFiles] at found
  rcases mem_or_getElem?_of_insertMany found with listed | empty
  · rcases List.mem_map.mp listed with ⟨other, otherMem, same⟩
    cases same
    simpa using otherMem
  · simp at empty

end Gathering

section Mails

variable {env : Externals} {config : Configuration} {mail : Mail}

theorem collectedMail_induction (property : Mail → Prop)
    (consumed : property { mail with body := none })
    (counted : ∀ (other : Mail) (fileType : FileType), property other →
      property (other.countFile fileType)) : property (collectedMail env config mail) := by
  simp only [collectedMail]
  generalize filesOf env config mail = files
  revert consumed
  generalize { mail with body := none } = start
  intro initially
  induction files generalizing start with
  | nil => exact initially
  | cons file files ih => exact ih _ (counted start file.fileType initially)

@[simp]
theorem id_collectedMail : (collectedMail env config mail).id = mail.id := by
  apply collectedMail_induction fun other => other.id = mail.id
  · rfl
  · intro other fileType same
    rw [Mail.id_countFile, same]

@[simp]
theorem body_collectedMail : (collectedMail env config mail).body = none := by
  apply collectedMail_induction fun other => other.body = none
  · rfl
  · intro other fileType same
    rw [Mail.body_countFile, same]

/-- Every file that was extracted from a mail is counted. -/
theorem files_collectedMail (fileType : FileType) :
    (collectedMail env config mail).files fileType =
      mail.files fileType +
        ((filesOf env config mail).filter fun file => file.fileType = fileType).length := by
  have counted : ∀ (files : List ReportFile) (start : Mail),
      (files.foldl (fun mail file => mail.countFile file.fileType) start).files fileType =
        start.files fileType + (files.filter fun file => file.fileType = fileType).length := by
    intro files
    induction files with
    | nil => simp
    | cons file files ih =>
        intro start
        rw [List.foldl_cons, ih, Mail.files_countFile, List.filter_cons]
        by_cases own : file.fileType = fileType <;> simp [own]
        omega
  rw [collectedMail, counted]
  cases fileType <;> rfl

@[simp]
theorem parsingErrors_collectedMail (fileType : FileType) :
    (collectedMail env config mail).parsingErrors fileType = mail.parsingErrors fileType := by
  apply collectedMail_induction fun other =>
    other.parsingErrors fileType = mail.parsingErrors fileType
  · cases fileType <;> rfl
  · intro other counted same
    rw [Mail.parsingErrors_countFile, same]

@[simp]
theorem duplicates_collectedMail (fileType : FileType) :
    (collectedMail env config mail).duplicates fileType = mail.duplicates fileType := by
  apply collectedMail_induction fun other =>
    other.duplicates fileType = mail.duplicates fileType
  · cases fileType <;> rfl
  · intro other counted same
    rw [Mail.duplicates_countFile, same]

/-- Every file of a collection knows a mail of the collection. -/
theorem mailId_mem_mails_collectFiles {mails : BTreeMap String Mail}
    (searched : SearchedMails env config mails) {fileType : FileType} {file : ReportFile}
    (listed : file ∈ valueList ((collectFiles env config mails).files fileType)) :
    file.mailId ∈ (collectFiles env config mails).mails := by
  rcases mem_valueList.mp listed with ⟨hash, found⟩
  rcases mem_extractedFiles.mp (extracted_of_files_collectFiles found).1 with
    ⟨id, mail, present, fileMem⟩
  have origin := (stemsFrom_of_mem_filesOf fileMem).1
  have sameId : file.mailId = id := by
    rw [origin]
    exact (searched id mail present).1
  rw [mails_collectFiles, Std.ExtTreeMap.mem_map, sameId, Std.ExtTreeMap.mem_iff_isSome_getElem?,
    present]
  rfl

end Mails

end DmarcReportViewer
