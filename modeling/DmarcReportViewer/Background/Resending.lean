import DmarcReportViewer.Background.DuplicateFilter

/-!
# Reports which are sent again

A mail that repeats reports which an earlier mail has delivered cannot add or
remove a report.  Which copy of a report is kept, however, is decided by the
file hashes and not by the time of arrival.  `resent_reports` says exactly when
the stored reports stay the same.
-/

namespace DmarcReportViewer

open Collections FirstWins

/-- A mailbox and one more mail that arrives in it. -/
structure LateMail (env : Externals) (config : Configuration) where
  early : BTreeMap String Mail
  mail : Mail
  new : mail.id ∉ early
  searched : SearchedMails env config (early.insert mail.id mail)

/-- The mailbox with the late mail. -/
def LateMail.all {env : Externals} {config : Configuration} (late : LateMail env config) :
    BTreeMap String Mail :=
  late.early.insert late.mail.id late.mail

/-- The texts by which the duplicate filter knows the kept reports. -/
def Processed.keptKeys (env : Externals) (processed : Processed) (fileType : FileType) :
    List String :=
  (valueList (processed.reports fileType)).map fun rwi => (kindOf env fileType).duplKey rwi.report

variable {env : Externals} {config : Configuration}

section Kept

variable {fetched : BTreeMap String Mail} {processed : Processed}

/-- The kept reports are the first files of their texts. -/
theorem keptKeys_perm (searched : SearchedMails env config fetched)
    (collisionFree : CollisionFree env.sha256 (hashedBytes env config fetched))
    (outcome : ProcessOutcome env config fetched processed) (fileType : FileType) :
    ((processed.keptKeys env fileType).map some).Perm
      ((leaders (kindOf env fileType).key? (!config.disableDuplicateFilter) []
        (collectedFiles env config fetched fileType)).map (kindOf env fileType).key?) := by
  have perm := valueList_insertMany_perm (nodup_kept_hashes searched collisionFree fileType)
  have keys : (((judgedFiles env config fetched fileType).filterMap
      (keptReport env (kindOf env fileType))).map Prod.snd).map
        (fun rwi => some ((kindOf env fileType).duplKey rwi.report)) =
          (leaders (kindOf env fileType).key? (!config.disableDuplicateFilter) []
            (collectedFiles env config fetched fileType)).map (kindOf env fileType).key? := by
    rw [List.map_map, List.map_filterMap, leaders, List.map_filterMap]
    apply List.filterMap_congr
    rintro ⟨file, verdict⟩ judged
    cases verdict with
    | skipped => rfl
    | repeats leader => rfl
    | first =>
        rcases keptReport_of_first env judged with ⟨report, parsed, kept⟩
        have keyed := ReportKind.key?_eq_some_iff.mpr ⟨report, parsed, rfl⟩
        rw [kept, Option.map_some, Option.map_some, keyed]
        rfl
  rw [Processed.keptKeys, List.map_map, outcome.reports, ← keys]
  exact perm.map _

/-- With the filter on, every text is kept once. -/
theorem nodup_keptKeys (enabled : config.disableDuplicateFilter = false)
    (searched : SearchedMails env config fetched)
    (collisionFree : CollisionFree env.sha256 (hashedBytes env config fetched))
    (outcome : ProcessOutcome env config fetched processed) (fileType : FileType) :
    (processed.keptKeys env fileType).Nodup := by
  apply List.Nodup.of_map some
  apply (keptKeys_perm searched collisionFree outcome fileType).nodup_iff.mpr
  have distinct : (([] ++ leaders (kindOf env fileType).key? true []
      (collectedFiles env config fetched fileType)).map (kindOf env fileType).key?).Nodup :=
    nodup_keys_leaders _ List.nodup_nil
  simpa [enabled] using distinct

/-- The texts of the kept reports are those of all files. -/
theorem mem_keptKeys_iff (searched : SearchedMails env config fetched)
    (collisionFree : CollisionFree env.sha256 (hashedBytes env config fetched))
    (outcome : ProcessOutcome env config fetched processed) {fileType : FileType}
    {name : String} :
    name ∈ processed.keptKeys env fileType ↔
      ∃ file ∈ collectedFiles env config fetched fileType,
        (kindOf env fileType).key? file = some name := by
  have listed : name ∈ processed.keptKeys env fileType ↔
      some name ∈ (processed.keptKeys env fileType).map some := by
    simp
  rw [listed, (keptKeys_perm searched collisionFree outcome fileType).mem_iff, List.mem_map]
  constructor
  · rintro ⟨file, leads, keyed⟩
    exact ⟨file, mem_items_of_mem_leaders leads, keyed⟩
  · rintro ⟨file, fileMem, keyed⟩
    rcases exists_leader_of_mem (!config.disableDuplicateFilter) [] fileMem keyed with
      ⟨leader, leads, same⟩
    exact ⟨leader, by simpa using leads, same⟩

end Kept

namespace LateMail

variable (late : LateMail env config)

theorem searched_all : SearchedMails env config late.all :=
  late.searched

theorem searched_early : SearchedMails env config late.early := by
  intro id mail found
  apply late.searched id mail
  rw [Std.ExtTreeMap.getElem?_insert, if_neg]
  · exact found
  · intro same
    apply late.new
    rw [Std.compare_eq_iff_eq.mp same, Std.ExtTreeMap.mem_iff_isSome_getElem?, found]
    rfl

theorem getElem?_all (id : String) :
    late.all[id]? = if late.mail.id = id then some late.mail else late.early[id]? := by
  rw [LateMail.all, Std.ExtTreeMap.getElem?_insert]
  simp only [Std.compare_eq_iff_eq]

theorem getElem?_early_of_some {id : String} {mail : Mail}
    (found : late.early[id]? = some mail) : late.mail.id ≠ id := by
  rintro rfl
  apply late.new
  rw [Std.ExtTreeMap.mem_iff_isSome_getElem?, found]
  rfl

theorem mem_extractedFiles_all {file : ReportFile} :
    file ∈ extractedFiles env config late.all ↔
      file ∈ extractedFiles env config late.early ∨ file ∈ filesOf env config late.mail := by
  simp only [mem_extractedFiles, getElem?_all]
  constructor
  · rintro ⟨id, mail, found, fileMem⟩
    split at found
    · cases found
      exact Or.inr fileMem
    · exact Or.inl ⟨id, mail, found, fileMem⟩
  · rintro (⟨id, mail, found, fileMem⟩ | fileMem)
    · exact ⟨id, mail, by rw [if_neg (late.getElem?_early_of_some found), found], fileMem⟩
    · exact ⟨late.mail.id, late.mail, if_pos rfl, fileMem⟩

theorem mailId_of_mem_filesOf {file : ReportFile} (fileMem : file ∈ filesOf env config late.mail) :
    file.mailId = late.mail.id := by
  rw [(stemsFrom_of_mem_filesOf fileMem).1]
  rfl

theorem mailId_of_mem_extractedFiles {file : ReportFile}
    (extracted : file ∈ extractedFiles env config late.early) : file.mailId ≠ late.mail.id := by
  rcases mail_of_mem_extractedFiles late.searched_early extracted with ⟨mail, found, _⟩
  exact (late.getElem?_early_of_some found).symm

theorem collisionFree_early
    (collisionFree : CollisionFree env.sha256 (hashedBytes env config late.all)) :
    CollisionFree env.sha256 (hashedBytes env config late.early) := by
  apply collisionFree.mono
  intro bytes listed
  rcases mem_hashedBytes.mp listed with ⟨id, mail, file, found, fileMem, hashed⟩
  refine mem_hashedBytes.mpr ⟨id, mail, file, ?_, fileMem, hashed⟩
  rw [getElem?_all, if_neg (late.getElem?_early_of_some found), found]

/-- The files of the early mails are those which do not stem from the late mail. -/
theorem filter_collectedFiles
    (collisionFree : CollisionFree env.sha256 (hashedBytes env config late.all))
    (fileType : FileType) :
    (collectedFiles env config late.all fileType).filter
        (fun file => file.mailId ≠ late.mail.id) =
      collectedFiles env config late.early fileType := by
  have sameMap : ((collectFiles env config late.all).files fileType).filter
      (fun _ file => decide (file.mailId ≠ late.mail.id)) =
        (collectFiles env config late.early).files fileType := by
    apply Std.ExtTreeMap.ext_getElem?
    intro hash
    apply Option.ext
    intro file
    rw [Std.ExtTreeMap.getElem?_filter', Option.filter_eq_some_iff,
      getElem?_files_iff late.searched_all collisionFree,
      getElem?_files_iff late.searched_early (late.collisionFree_early collisionFree),
      late.mem_extractedFiles_all, decide_eq_true_eq]
    constructor
    · rintro ⟨⟨extracted | fileMem, ofType, sameHash⟩, notLate⟩
      · exact ⟨extracted, ofType, sameHash⟩
      · exact absurd (late.mailId_of_mem_filesOf fileMem) notLate
    · rintro ⟨extracted, ofType, sameHash⟩
      exact ⟨⟨Or.inl extracted, ofType, sameHash⟩, late.mailId_of_mem_extractedFiles extracted⟩
  rw [collectedFiles, ← valueList_filter, sameMap, collectedFiles]

theorem mem_collectedFiles_of_mem_filesOf
    (collisionFree : CollisionFree env.sha256 (hashedBytes env config late.all))
    {file : ReportFile} (fileMem : file ∈ filesOf env config late.mail) :
    file ∈ collectedFiles env config late.all file.fileType :=
  (mem_collectedFiles_iff late.searched_all collisionFree).mpr
    ⟨late.mem_extractedFiles_all.mpr (Or.inr fileMem), rfl⟩

theorem mem_collectedFiles_all_iff
    (collisionFree : CollisionFree env.sha256 (hashedBytes env config late.all))
    {fileType : FileType} {file : ReportFile} :
    file ∈ collectedFiles env config late.early fileType ↔
      file ∈ collectedFiles env config late.all fileType ∧ file.mailId ≠ late.mail.id := by
  rw [← late.filter_collectedFiles collisionFree fileType, List.mem_filter, decide_eq_true_eq]

/-- A report of the early mails comes, in the order of the file hashes, before
every copy of it in the late mail. -/
def Behind : Prop :=
  ∀ file ∈ filesOf env config late.mail, ∀ name,
    (kindOf env file.fileType).key? file = some name →
      ∃ other ∈ collectedFiles env config late.early file.fileType,
        (kindOf env file.fileType).key? other = some name ∧ compare other.hash file.hash = .lt

/-- If the late mail is behind, then the verdicts on the early files stay the
same and no file of the late mail is a first one. -/
theorem Behind.verdicts {late : LateMail env config} (behind : late.Behind)
    (enabled : config.disableDuplicateFilter = false)
    (collisionFree : CollisionFree env.sha256 (hashedBytes env config late.all))
    (fileType : FileType) :
    (judgedFiles env config late.all fileType).filter
        (fun entry => entry.1.mailId ≠ late.mail.id) = judgedFiles env config late.early fileType ∧
      ∀ file verdict, (file, verdict) ∈ judgedFiles env config late.all fileType →
        file.mailId = late.mail.id → verdict ≠ .first := by
  have ordered := pairwise_collectedFiles env config late.all fileType
  have repeating : ∀ before file after,
      collectedFiles env config late.all fileType = before ++ file :: after →
        decide (file.mailId ≠ late.mail.id) = false → ∀ name,
          (kindOf env fileType).key? file = some name →
            ∃ other, (other ∈ [] ∨ other ∈ before ∧ decide (other.mailId ≠ late.mail.id) = true) ∧
              (kindOf env fileType).key? other = some name := by
    intro before file after split ofLate name keyed
    have listed : file ∈ collectedFiles env config late.all fileType := by
      rw [split]
      exact List.mem_append_right _ List.mem_cons_self
    rcases extracted_of_mem_collectedFiles listed with ⟨extracted, rfl⟩
    have fileMem : file ∈ filesOf env config late.mail := by
      rcases late.mem_extractedFiles_all.mp extracted with early | own
      · exact absurd (late.mailId_of_mem_extractedFiles early) (by simpa using ofLate)
      · exact own
    rcases behind file fileMem name keyed with ⟨other, otherMem, otherKeyed, earlier⟩
    rcases (late.mem_collectedFiles_all_iff collisionFree).mp otherMem with ⟨otherAll, notLate⟩
    refine ⟨other, Or.inr ⟨?_, by simpa using notLate⟩, otherKeyed⟩
    -- The files are sorted by their hashes, so that the other file cannot follow.
    rw [split] at otherAll ordered
    rcases List.mem_append.mp otherAll with inside | rest
    · exact inside
    · rcases List.mem_cons.mp rest with rfl | following
      · simp at earlier
      · have suffixOrdered := (List.pairwise_append.mp ordered).2.1
        have later := (List.pairwise_cons.mp suffixOrdered).1 other following
        have notEarlier : compare other.hash file.hash ≠ .lt :=
          Std.OrientedCmp.not_lt_of_lt later
        exact absurd earlier notEarlier
  have filtered := verdicts_filter
    (fun file : ReportFile => decide (file.mailId ≠ late.mail.id)) repeating
  rw [late.filter_collectedFiles collisionFree] at filtered
  simp only [judgedFiles, ReportKind.judge, enabled, Bool.not_false]
  refine ⟨filtered.1, ?_⟩
  intro file verdict judged ofLate
  exact filtered.2 file verdict judged (by simpa using ofLate)

variable {late : LateMail env config} {before after : Processed}

/-- If the late mail is behind, then the stored reports stay the same. -/
theorem Behind.reports_eq (behind : late.Behind) (enabled : config.disableDuplicateFilter = false)
    (collisionFree : CollisionFree env.sha256 (hashedBytes env config late.all))
    (beforeOutcome : ProcessOutcome env config late.early before)
    (afterOutcome : ProcessOutcome env config late.all after) (fileType : FileType) :
    after.reports fileType = before.reports fileType := by
  rcases behind.verdicts enabled collisionFree fileType with ⟨same, notFirst⟩
  have kept : (judgedFiles env config late.all fileType).filterMap
      (keptReport env (kindOf env fileType)) =
        (judgedFiles env config late.early fileType).filterMap
          (keptReport env (kindOf env fileType)) := by
    rw [← same, List.filterMap_filter]
    apply List.filterMap_congr
    rintro ⟨file, verdict⟩ judged
    split
    · rfl
    · next ofLate =>
        cases found : keptReport env (kindOf env fileType) (file, verdict) with
        | none => rfl
        | some kept =>
            have first := (keptReport_eq_some_iff.mp found).1
            exact absurd first (notFirst file verdict judged (by simpa using ofLate))
  rw [afterOutcome.reports, beforeOutcome.reports, kept]

/-- If the late mail is behind, then the duplicates of the early mails stay the
same. -/
theorem Behind.duplicates_eq (behind : late.Behind)
    (enabled : config.disableDuplicateFilter = false)
    (collisionFree : CollisionFree env.sha256 (hashedBytes env config late.all))
    (beforeOutcome : ProcessOutcome env config late.early before)
    (afterOutcome : ProcessOutcome env config late.all after) (fileType : FileType) {id : String}
    (early : id ≠ late.mail.id) :
    after.mails[id]?.map (fun mail => mail.duplicates fileType) =
      before.mails[id]?.map (fun mail => mail.duplicates fileType) := by
  have same : duplicatesAfter env (judgedFiles env config late.all fileType) id =
      duplicatesAfter env (judgedFiles env config late.early fileType) id := by
    rw [← (behind.verdicts enabled collisionFree fileType).1, duplicatesAfter, duplicatesAfter,
      List.filter_filter]
    apply congrArg (List.filterMap (repeatedHash env))
    apply List.filter_congr
    intro entry _
    by_cases own : entry.1.mailId = id <;> simp [own, early]
  rw [afterOutcome.mails, beforeOutcome.mails, late.getElem?_all, if_neg early.symm]
  cases found : late.early[id]? with
  | none => rfl
  | some mail =>
      have fresh := late.searched_early.fresh found
      simp only [Option.map_some, duplicates_finishedMail fresh, same]

/-- If the late mail is behind, then each of its files is recorded as a duplicate
or as a parsing error. -/
theorem Behind.recorded (behind : late.Behind) (enabled : config.disableDuplicateFilter = false)
    (collisionFree : CollisionFree env.sha256 (hashedBytes env config late.all))
    (afterOutcome : ProcessOutcome env config late.all after) (fileType : FileType) :
    ∃ mail, after.mails[late.mail.id]? = some mail ∧
      (distinctData env config late.mail fileType).length =
        (mail.duplicates fileType).length + mail.parsingErrors fileType := by
  have found : late.all[late.mail.id]? = some late.mail := by
    rw [late.getElem?_all, if_pos rfl]
  have fresh := late.searched_all.fresh found
  refine ⟨_, by rw [afterOutcome.mails, found]; rfl, ?_⟩
  have counted := countP_map_fst (judgedFiles env config late.all fileType)
    fun file => file.mailId = late.mail.id
  have judgedAll : (judgedFiles env config late.all fileType).map Prod.fst =
      collectedFiles env config late.all fileType := map_fst_verdicts _ _ _ _
  have noneFirst : (judgedFiles env config late.all fileType).countP
      (fun entry => decide (entry.1.mailId = late.mail.id) && decide (entry.2 = .first)) = 0 := by
    apply List.countP_eq_zero.mpr
    rintro ⟨file, verdict⟩ judged both
    simp only [Bool.and_eq_true, decide_eq_true_eq] at both
    exact (behind.verdicts enabled collisionFree fileType).2 file verdict judged both.1 both.2
  rw [length_distinctData late.searched_all collisionFree found, duplicates_finishedMail fresh,
    length_duplicatesAfter, parsingErrors_finishedMail fresh, skippedCount_eq_countP, ← judgedAll,
    counted, noneFirst, Nat.zero_add]

/-- If the stored reports stay the same, then the late mail is behind: a copy of
a report which no early copy precedes, or one before it, would be kept. -/
theorem behind_of_reports_eq (enabled : config.disableDuplicateFilter = false)
    (collisionFree : CollisionFree env.sha256 (hashedBytes env config late.all))
    (beforeOutcome : ProcessOutcome env config late.early before)
    (afterOutcome : ProcessOutcome env config late.all after)
    (same : ∀ fileType, after.reports fileType = before.reports fileType) : late.Behind := by
  intro file fileMem name keyed
  have listed := late.mem_collectedFiles_of_mem_filesOf collisionFree fileMem
  rcases List.append_of_mem listed with ⟨earlier, later, split⟩
  -- The first file of the text up to and including this one.
  have upTo : file ∈ earlier ++ [file] := List.mem_append_right _ List.mem_cons_self
  rcases exists_leader_of_mem true [] upTo keyed with ⟨leader, leads, leaderKeyed⟩
  rw [List.nil_append] at leads
  have judged : (leader, .first) ∈ judgedFiles env config late.all file.fileType := by
    have wide : leader ∈ leaders (kindOf env file.fileType).key? true []
        ((earlier ++ [file]) ++ later) := by
      rw [leaders_append]
      exact List.mem_append_left _ leads
    rw [List.append_assoc, List.singleton_append, ← split] at wide
    simpa [judgedFiles, ReportKind.judge, enabled] using mem_leaders.mp wide
  have leaderListed := mem_of_mem_verdicts judged
  -- It is an early file, since it is kept in both updates.
  have notLate : leader.mailId ≠ late.mail.id := by
    have present := afterOutcome.mem_reports judged
    rw [same, Std.ExtTreeMap.mem_iff_isSome_getElem?] at present
    rcases Option.isSome_iff_exists.mp present with ⟨rwi, found⟩
    rcases beforeOutcome.origin found with ⟨other, otherJudged, sameHash, _, _⟩
    have otherMem := mem_of_mem_verdicts otherJudged
    rcases (late.mem_collectedFiles_all_iff collisionFree).mp otherMem with ⟨otherAll, otherEarly⟩
    have leaderOrigin := extracted_of_mem_collectedFiles leaderListed
    have otherOrigin := extracted_of_mem_collectedFiles otherAll
    have sameFile := file_eq_of_reportHash_eq late.searched_all collisionFree leaderOrigin.1
      otherOrigin.1 (leaderOrigin.2.trans otherOrigin.2.symm) sameHash
    rw [sameFile]
    exact otherEarly
  refine ⟨leader, (late.mem_collectedFiles_all_iff collisionFree).mpr ⟨leaderListed, notLate⟩,
    leaderKeyed, ?_⟩
  have ordered := pairwise_collectedFiles env config late.all file.fileType
  rw [split] at ordered
  rcases List.mem_append.mp (mem_items_of_mem_leaders leads) with inside | here
  · exact (List.pairwise_append.mp ordered).2.2 leader inside file List.mem_cons_self
  · rw [List.mem_singleton.mp here] at notLate
    exact absurd (late.mailId_of_mem_filesOf fileMem) notLate

/-- All reports of the late mail have the organization and the ID of a report
which is kept without it. -/
def RepeatsOnly (late : LateMail env config) (before : Processed) : Prop :=
  ∀ file ∈ filesOf env config late.mail, ∀ report,
    (kindOf env file.fileType).fromSlice file.data = .ok report →
      ∃ rwi ∈ valueList (before.reports file.fileType),
        (kindOf env file.fileType).identity rwi.report =
          (kindOf env file.fileType).identity report

/-- A mail which only repeats reports does not change the texts of the kept ones. -/
theorem RepeatsOnly.keptKeys_perm (enabled : config.disableDuplicateFilter = false)
    (collisionFree : CollisionFree env.sha256 (hashedBytes env config late.all))
    (beforeOutcome : ProcessOutcome env config late.early before)
    (afterOutcome : ProcessOutcome env config late.all after)
    (repeats : late.RepeatsOnly before) (fileType : FileType) :
    (after.keptKeys env fileType).Perm (before.keptKeys env fileType) := by
  have earlyFree := late.collisionFree_early collisionFree
  apply (List.perm_ext_iff_of_nodup
    (nodup_keptKeys enabled late.searched_all collisionFree afterOutcome fileType)
    (nodup_keptKeys enabled late.searched_early earlyFree beforeOutcome fileType)).mpr
  intro name
  constructor
  · intro kept
    rcases (mem_keptKeys_iff late.searched_all collisionFree afterOutcome).mp kept with
      ⟨file, fileMem, keyed⟩
    by_cases ofLate : file.mailId = late.mail.id
    · rcases extracted_of_mem_collectedFiles fileMem with ⟨extracted, rfl⟩
      rcases late.mem_extractedFiles_all.mp extracted with early | own
      · exact absurd ofLate (late.mailId_of_mem_extractedFiles early)
      · rcases ReportKind.key?_eq_some_iff.mp keyed with ⟨report, parsed, rfl⟩
        rcases repeats file own report parsed with ⟨rwi, rwiMem, same⟩
        rw [← ReportKind.duplKey_eq_of_identity_eq _ same]
        exact List.mem_map.mpr ⟨rwi, rwiMem, rfl⟩
    · apply (mem_keptKeys_iff late.searched_early earlyFree beforeOutcome).mpr
      exact ⟨file, (late.mem_collectedFiles_all_iff collisionFree).mpr ⟨fileMem, ofLate⟩, keyed⟩
  · intro kept
    rcases (mem_keptKeys_iff late.searched_early earlyFree beforeOutcome).mp kept with
      ⟨file, fileMem, keyed⟩
    apply (mem_keptKeys_iff late.searched_all collisionFree afterOutcome).mpr
    exact ⟨file, ((late.mem_collectedFiles_all_iff collisionFree).mp fileMem).1, keyed⟩

/-- A mail which only repeats reports neither adds nor removes a report.  The
stored reports stay the same if and only if the mail is behind, and in this case
it only adds duplicates and parsing errors of its own. -/
theorem resent_reports (late : LateMail env config)
    (enabled : config.disableDuplicateFilter = false)
    (collisionFree : CollisionFree env.sha256 (hashedBytes env config late.all))
    {before after : Processed} (beforeOk : processMails env config late.early = .ok before)
    (afterOk : processMails env config late.all = .ok after) (repeats : late.RepeatsOnly before) :
    (∀ fileType, (after.keptKeys env fileType).Perm (before.keptKeys env fileType) ∧
      (after.keptKeys env fileType).Nodup) ∧
    ((∀ fileType, after.reports fileType = before.reports fileType) ↔ late.Behind) ∧
    (late.Behind → ∀ fileType,
      (∀ id : String, id ≠ late.mail.id →
        after.mails[id]?.map (fun mail => mail.duplicates fileType) =
          before.mails[id]?.map (fun mail => mail.duplicates fileType)) ∧
      ∃ mail, after.mails[late.mail.id]? = some mail ∧
        (distinctData env config late.mail fileType).length =
          (mail.duplicates fileType).length + mail.parsingErrors fileType) := by
  rcases processMails_outcome late.searched_early with ⟨expected, expectedOk, beforeOutcome⟩
  rw [beforeOk] at expectedOk
  cases expectedOk
  rcases processMails_outcome late.searched_all with ⟨expected, expectedOk, afterOutcome⟩
  rw [afterOk] at expectedOk
  cases expectedOk
  refine ⟨?_, ⟨?_, ?_⟩, ?_⟩
  · intro fileType
    exact ⟨repeats.keptKeys_perm enabled collisionFree beforeOutcome afterOutcome fileType,
      nodup_keptKeys enabled late.searched_all collisionFree afterOutcome fileType⟩
  · exact behind_of_reports_eq enabled collisionFree beforeOutcome afterOutcome
  · intro behind fileType
    exact behind.reports_eq enabled collisionFree beforeOutcome afterOutcome fileType
  · intro behind fileType
    refine ⟨?_, behind.recorded enabled collisionFree afterOutcome fileType⟩
    intro id early
    exact behind.duplicates_eq enabled collisionFree beforeOutcome afterOutcome fileType early

end LateMail

section Sample

/-- The same report arrives once more in a later mail. -/
def sampleLate : LateMail sampleEnv sampleConfig where
  early := sampleMails [1]
  mail := sampleMail 4
  new := by decide +kernel
  searched := by
    apply searchedMails_fetchMails (sampleAttempt [1, 4]).fromImap
    have fetched : fetchMails sampleConfig (sampleInbox [1, 4]) (sampleAttempt [1, 4]).order =
        .ok ((sampleMails [1]).insert (sampleMail 4).id (sampleMail 4)) := by
      decide +kernel
    exact fetched

def sampleBefore : Processed where
  mails := (∅ : BTreeMap String Mail).insertMany [
    ("80PIQSMHanHfacyq6aXj_A", { sampleMail 1 with body := none, jsonFiles := 1 })]
  dmarcReports := ∅
  tlsReports := (∅ : BTreeMap String TlsReportWithMailId).insertMany [
    ("BYZDA5Pam9oegOQI2tSEWw",
      { mailId := "80PIQSMHanHfacyq6aXj_A", report := sampleReport "Example" "12" })]
  xmlFiles := 0
  jsonFiles := 1
  parsingErrors := ∅

def sampleAfter : Processed where
  mails := (∅ : BTreeMap String Mail).insertMany [
    ("80PIQSMHanHfacyq6aXj_A",
      { sampleMail 1 with
        body := none
        jsonFiles := 1
        tlsDuplicates := ["LYa1t8DiuhPZLmlG7gj7Fg"] }),
    ("sfOZPQKuwzuMb9NBo6st9A", { sampleMail 4 with body := none, jsonFiles := 1 })]
  dmarcReports := ∅
  tlsReports := (∅ : BTreeMap String TlsReportWithMailId).insertMany [
    ("LYa1t8DiuhPZLmlG7gj7Fg",
      { mailId := "sfOZPQKuwzuMb9NBo6st9A", report := sampleReport "Example" "12" })]
  xmlFiles := 0
  jsonFiles := 2
  parsingErrors := ∅

theorem insert_sampleMails : (sampleMails [4]).insert (sampleMail 1).id (sampleMail 1) =
    (sampleMails [1]).insert (sampleMail 4).id (sampleMail 4) := by
  have different : (sampleMail 1).id ≠ (sampleMail 4).id := by decide +kernel
  apply Std.ExtTreeMap.ext_getElem?
  intro id
  simp only [sampleMails, List.map_cons, List.map_nil, Std.ExtTreeMap.insertMany_cons,
    Std.ExtTreeMap.insertMany_nil, Std.ExtTreeMap.getElem?_insert, Std.compare_eq_iff_eq]
  by_cases first : (sampleMail 1).id = id
  · simp [← first, different.symm]
  · simp [first]

/-- The two mails arrive the other way around. -/
def sampleBehind : LateMail sampleEnv sampleConfig where
  early := sampleMails [4]
  mail := sampleMail 1
  new := by decide +kernel
  searched := by
    rw [insert_sampleMails]
    exact sampleLate.searched

def sampleBehindBefore : Processed where
  mails := (∅ : BTreeMap String Mail).insertMany [
    ("sfOZPQKuwzuMb9NBo6st9A", { sampleMail 4 with body := none, jsonFiles := 1 })]
  dmarcReports := ∅
  tlsReports := sampleAfter.tlsReports
  xmlFiles := 0
  jsonFiles := 1
  parsingErrors := ∅

theorem processMails_early_sampleLate :
    processMails sampleEnv sampleConfig sampleLate.early = .ok sampleBefore := by
  decide +kernel

theorem processMails_all_sampleLate :
    processMails sampleEnv sampleConfig sampleLate.all = .ok sampleAfter := by
  decide +kernel

theorem processMails_early_sampleBehind :
    processMails sampleEnv sampleConfig sampleBehind.early = .ok sampleBehindBefore := by
  decide +kernel

theorem processMails_all_sampleBehind :
    processMails sampleEnv sampleConfig sampleBehind.all = .ok sampleAfter := by
  rw [← processMails_all_sampleLate]
  exact congrArg (processMails sampleEnv sampleConfig) insert_sampleMails

theorem repeatsOnly_of_stored {late : LateMail sampleEnv sampleConfig} {before : Processed}
    {mailId : String} (files : filesOf sampleEnv sampleConfig late.mail =
      [reportFile sampleEnv late.mail .json (sampleJson "Example" "12")])
    (stored : { mailId := mailId, report := sampleReport "Example" "12" } ∈
      valueList before.tlsReports) :
    late.RepeatsOnly before := by
  intro file fileMem report parsed
  rw [files] at fileMem
  cases List.mem_singleton.mp fileMem
  have parsedHere : (kindOf sampleEnv .json).fromSlice (sampleJson "Example" "12") =
      .ok (sampleReport "Example" "12") := by
    decide +kernel
  have same : Except.ok (sampleReport "Example" "12") = Except.ok report :=
    parsedHere.symm.trans parsed
  cases same
  exact ⟨_, stored, rfl⟩

theorem repeatsOnly_sampleLate : sampleLate.RepeatsOnly sampleBefore :=
  @repeatsOnly_of_stored _ _ "80PIQSMHanHfacyq6aXj_A" (by decide +kernel) (by decide +kernel)

theorem repeatsOnly_sampleBehind : sampleBehind.RepeatsOnly sampleBehindBefore :=
  @repeatsOnly_of_stored _ _ "sfOZPQKuwzuMb9NBo6st9A" (by decide +kernel) (by decide +kernel)

/-- The copy which displaces the other one, and the copy which is behind it. -/
theorem resent_reports_sample :
    ((∀ fileType, (sampleAfter.keptKeys sampleEnv fileType).Perm
        (sampleBefore.keptKeys sampleEnv fileType) ∧
      (sampleAfter.keptKeys sampleEnv fileType).Nodup) ∧
    ((∀ fileType, sampleAfter.reports fileType = sampleBefore.reports fileType) ↔
      sampleLate.Behind) ∧
    (sampleLate.Behind → ∀ fileType,
      (∀ id : String, id ≠ sampleLate.mail.id →
        sampleAfter.mails[id]?.map (fun mail => mail.duplicates fileType) =
          sampleBefore.mails[id]?.map (fun mail => mail.duplicates fileType)) ∧
      ∃ mail, sampleAfter.mails[sampleLate.mail.id]? = some mail ∧
        (distinctData sampleEnv sampleConfig sampleLate.mail fileType).length =
          (mail.duplicates fileType).length + mail.parsingErrors fileType)) ∧
    sampleBehind.Behind ∧ ∀ fileType, ∃ mail,
      sampleAfter.mails[sampleBehind.mail.id]? = some mail ∧
        (distinctData sampleEnv sampleConfig sampleBehind.mail fileType).length =
          (mail.duplicates fileType).length + mail.parsingErrors fileType := by
  refine ⟨sampleLate.resent_reports rfl (by decide +kernel) processMails_early_sampleLate
    processMails_all_sampleLate repeatsOnly_sampleLate, ?_⟩
  rcases sampleBehind.resent_reports rfl (by decide +kernel) processMails_early_sampleBehind
    processMails_all_sampleBehind repeatsOnly_sampleBehind with ⟨_, unchanged, recorded⟩
  have behind : sampleBehind.Behind := by
    apply unchanged.mp
    intro fileType
    cases fileType <;> rfl
  exact ⟨behind, fun fileType => (recorded behind fileType).2⟩

/-- The copy in the later mail has the smaller file hash.  It displaces the
stored report, which gets a new key and a new mail, and the earlier mail is left
with a duplicate. -/
theorem resent_report_displaces_sample :
    processMails sampleEnv sampleConfig sampleLate.early = .ok sampleBefore ∧
    processMails sampleEnv sampleConfig sampleLate.all = .ok sampleAfter ∧
    sampleLate.RepeatsOnly sampleBefore ∧
    (sampleBefore.reports .json).keys = ["BYZDA5Pam9oegOQI2tSEWw"] ∧
    (sampleAfter.reports .json).keys = ["LYa1t8DiuhPZLmlG7gj7Fg"] ∧
    sampleBefore.mails["80PIQSMHanHfacyq6aXj_A"]?.map Mail.tlsDuplicates = some [] ∧
    sampleAfter.mails["80PIQSMHanHfacyq6aXj_A"]?.map Mail.tlsDuplicates =
      some ["LYa1t8DiuhPZLmlG7gj7Fg"] := by
  refine ⟨processMails_early_sampleLate, processMails_all_sampleLate, repeatsOnly_sampleLate,
    ?_, ?_, ?_, ?_⟩ <;>
  decide +kernel

end Sample

end DmarcReportViewer
