import DmarcReportViewer.Lib.Fallible
import DmarcReportViewer.Lib.Placeholders
import DmarcReportViewer.WebHook

/-!
# Filling the templates of a web hook

`inject_mail_details` replaces one placeholder after the other, in an order which is not
determined, in the text into which it has put other values already.  All placeholders
of the original template are filled at once as long as no value makes up a placeholder.
-/

namespace DmarcReportViewer.Templates

open Collections Runs Substitution

section Placeholders

def brackets : Marks Char where
  opening := '['
  closing := ']'
  different := by decide

/-- No key contains a bracket. -/
def PlainKeys (details : HashMap String String) : Prop :=
  ∀ key ∈ details, brackets.Plain key.toList

theorem toList_placeholder (key : String) :
    (placeholder key).toList = brackets.placeholder key.toList := by
  simp [placeholder, Marks.placeholder, brackets]

/-- Search for a placeholder at the beginning of a text. -/
def findPlaceholder (details : HashMap String String) (text : List Char) : Option (String × ℕ) :=
  (details.keys.find? fun key => (placeholder key).toList.isPrefixOf text).map fun key =>
    (key, (placeholder key).toList.length)

/-- The pieces of a template: its characters, and the placeholders as holes. -/
def templatePieces (details : HashMap String String) (template : String) :
    List (Piece Char String) :=
  scan (findPlaceholder details) template.toList

theorem findsText_findPlaceholder (details : HashMap String String) :
    FindsText (findPlaceholder details) fun key => (placeholder key).toList := by
  have starts : ∀ whole key length, findPlaceholder details whole = some (key, length) →
      (placeholder key).toList <+: whole ∧ length = (placeholder key).toList.length := by
    intro whole key length found
    rcases Option.map_eq_some_iff.mp found with ⟨other, searched, same⟩
    cases same
    have begins := @List.find?_some _
      (fun key => (placeholder key).toList.isPrefixOf whole) key _ searched
    exact ⟨List.isPrefixOf_iff_prefix.mp begins, rfl⟩
  constructor
  case starts =>
    intro whole key length found
    rcases (starts whole key length found).1 with ⟨rest, split⟩
    exact ⟨rest, split.symm⟩
  case length => exact fun whole key length found => (starts whole key length found).2
  case nonempty =>
    intro _ key _ _
    rw [toList_placeholder]
    exact brackets.placeholder_ne_nil

theorem plainKeys_insertMany {entries : List (String × String)}
    (plain : ∀ key ∈ entries.map Prod.fst, '[' ∉ key.toList ∧ ']' ∉ key.toList) :
    PlainKeys ((∅ : HashMap String String).insertMany entries) := by
  intro key member
  rcases mem_insertMany_iff.mp member with listed | absent
  · exact ⟨(plain key listed).1, (plain key listed).2⟩
  · exact absurd absent Std.ExtTreeMap.not_mem_empty

/-- The keys of the details of a mail contain no brackets. -/
theorem plainKeys_getMailDetails {mailId : String} {state : AppState}
    {details : HashMap String String} (found : getMailDetails mailId state = .ok details) :
    PlainKeys details := by
  rcases Fallible.bind_eq_ok_iff.mp found with ⟨mail, _, filled⟩
  rw [← Fallible.pure_eq_ok_iff.mp filled]
  apply plainKeys_insertMany
  have plain : ∀ key ∈ ["id", "uid", "sender", "subject", "folder", "account", "dmarc_reports",
      "tls_reports"], '[' ∉ key.toList ∧ ']' ∉ key.toList := by
    decide
  exact plain

end Placeholders

section Filling

variable (urlEncode : String → String) (urlEncodeValue : Bool) (details : HashMap String String)
  (template : String)

/-- The text to be put in the place of a placeholder. -/
def inserted (key : String) : Option (List Char) :=
  details[key]?.map fun value => (encodeValue urlEncode urlEncodeValue value).toList

/-- The template with the placeholders of some keys filled. -/
def filledWith (done : List String) : List Char :=
  partialFill (fun key => (placeholder key).toList) (inserted urlEncode urlEncodeValue details)
    (templatePieces details template) done

/-- The template with all its placeholders filled. -/
def simultaneous : String :=
  String.ofList (fill (fun key =>
    (inserted urlEncode urlEncodeValue details key).getD (placeholder key).toList)
      (templatePieces details template))

/-- A search for the placeholder of a key finds it where it stands in the template, and
nowhere else. -/
def FoundInTemplate (done : List String) (key text : String) : Prop :=
  FoundInPlace (fun key => (placeholder key).toList) (inserted urlEncode urlEncodeValue details)
    (templatePieces details template) text.toList done key

/-- In every iteration order, all placeholders of the template are filled and no
placeholder is found in a text that was inserted. -/
structure FillsSimultaneously : Prop where
  result : ∀ order, injectMailDetails urlEncode order details template urlEncodeValue =
    .ok (simultaneous urlEncode urlEncodeValue details template)
  touches : ∀ order, Explained (fun done entry =>
    FoundInTemplate urlEncode urlEncodeValue details template (done.map Prod.fst) entry.1
      (injectEntries urlEncode urlEncodeValue done template)) (iterate order details)

def otherKeys (key : String) : List String :=
  details.keys.filter fun other => other ≠ key

/-- With all other placeholders filled, the placeholder of a key does not occur between the
places which it has in the template. -/
def MakesNoPlaceholder (key : String) : Prop :=
  NoneBetween (placeholder key).toList (fun other => other = key)
    (standing (fun key => (placeholder key).toList) (inserted urlEncode urlEncodeValue details)
      (otherKeys details key)) [] (templatePieces details template)

variable {urlEncode urlEncodeValue details template}

theorem isSome_inserted_iff {key : String} :
    (inserted urlEncode urlEncodeValue details key).isSome ↔ key ∈ details := by
  rw [inserted, Option.isSome_map, Std.ExtTreeMap.mem_iff_isSome_getElem?]

theorem toList_injectEntries {entries : List (String × String)}
    (listed : ∀ entry ∈ entries, details[entry.1]? = some entry.2) (text : String) :
    (injectEntries urlEncode urlEncodeValue entries text).toList =
      (entries.map Prod.fst).foldl (replaceLabel (fun key => (placeholder key).toList)
        (inserted urlEncode urlEncodeValue details)) text.toList := by
  induction entries generalizing text with
  | nil => rfl
  | cons entry entries ih =>
      have value : inserted urlEncode urlEncodeValue details entry.1 =
          some (encodeValue urlEncode urlEncodeValue entry.2).toList := by
        rw [inserted, listed entry List.mem_cons_self]
        rfl
      have rest := ih (fun other member => listed other (List.mem_cons_of_mem _ member))
        (replaceText text (placeholder entry.1) (encodeValue urlEncode urlEncodeValue entry.2))
      rw [replaceText, String.toList_ofList] at rest
      rw [List.map_cons, List.foldl_cons, replaceLabel, value]
      exact rest

theorem fill_templatePieces :
    fill (fun key => (placeholder key).toList) (templatePieces details template) =
      template.toList :=
  fill_scan (findsText_findPlaceholder details) template.toList

/-- A placeholder is found in its own places only if and only if it does not occur between
them. -/
theorem foundInPlace_filledWith_iff (plain : PlainKeys details) {key : String}
    (member : key ∈ details) {done : List String} (new : key ∉ done) :
    FoundInPlace (fun key => (placeholder key).toList) (inserted urlEncode urlEncodeValue details)
        (templatePieces details template)
        (filledWith urlEncode urlEncodeValue details template done) done key ↔
      NoneBetween (placeholder key).toList (fun other => other = key)
        (standing (fun key => (placeholder key).toList)
          (inserted urlEncode urlEncodeValue details) done) []
        (templatePieces details template) := by
  have stands : ∀ label, decide (label = key) = true →
      standing (fun key => (placeholder key).toList)
        (inserted urlEncode urlEncodeValue details) done label =
          brackets.placeholder key.toList := by
    intro label same
    rw [of_decide_eq_true same, ← toList_placeholder, standing_of_not_mem new]
  have found := (plain key member).occurrences_fill_iff stands [] (templatePieces details template)
  rw [List.nil_append, List.map_nil, List.nil_append, ← toList_placeholder] at found
  rw [← found, FoundInPlace, filledWith, partialFill]
  simp [new]

/-- Filling fewer placeholders does not make up a placeholder either. -/
theorem MakesNoPlaceholder.of_not_mem (plain : PlainKeys details) {key : String}
    (member : key ∈ details) {done : List String} (new : key ∉ done)
    (harmless : MakesNoPlaceholder urlEncode urlEncodeValue details template key) :
    NoneBetween (placeholder key).toList (fun other => other = key)
      (standing (fun key => (placeholder key).toList)
        (inserted urlEncode urlEncodeValue details) done) []
        (templatePieces details template) := by
  refine NoneBetween.of_separating harmless (fun _ found => found) fun label => ?_
  have others : label ∈ otherKeys details key ↔ label ∈ details ∧ label ≠ key := by
    simp [otherKeys]
  by_cases known : label ∈ details
  · by_cases filled : label ∈ done
    · left
      have different : label ≠ key := fun same => new (same ▸ filled)
      rw [standing_eq_getD fun _ => filled,
        standing_eq_getD fun _ => others.mpr ⟨known, different⟩]
    · rw [standing_of_not_mem filled]
      by_cases same : label = key
      · left
        rw [standing_of_not_mem fun member => (others.mp member).2 same]
      · right
        intro left right found
        rw [toList_placeholder, toList_placeholder] at found
        rw [toList_placeholder]
        have different : key.toList ≠ label.toList := fun equal =>
          same (String.toList_inj.mp equal).symm
        exact (plain key member).isInfix (plain label known) different found
  · left
    have nothing : inserted urlEncode urlEncodeValue details label = none := by
      rw [inserted, Std.ExtTreeMap.getElem?_eq_none known]
      rfl
    unfold standing
    rw [nothing]

/-- The keys of the entries are handled in their order. -/
theorem explained_injectEntries_iff {entries : List (String × String)}
    (listed : ∀ entry ∈ entries, details[entry.1]? = some entry.2) :
    Explained (fun done entry =>
        FoundInTemplate urlEncode urlEncodeValue details template (done.map Prod.fst) entry.1
          (injectEntries urlEncode urlEncodeValue done template)) entries ↔
      Explained (fun done key => (inserted urlEncode urlEncodeValue details key).isSome →
        FoundInPlace (fun key => (placeholder key).toList)
          (inserted urlEncode urlEncodeValue details) (templatePieces details template)
          (filledWith urlEncode urlEncodeValue details template done) done key)
        (entries.map Prod.fst) := by
  unfold filledWith
  rw [← foundInPlace_foldl_iff, explained_map, fill_templatePieces]
  have value : ∀ done entry rest, entries = done ++ entry :: rest →
      (inserted urlEncode urlEncodeValue details entry.1).isSome := by
    intro done entry rest split
    rw [inserted, listed entry (split ▸ List.mem_append_right _ List.mem_cons_self)]
    rfl
  have texts : ∀ done entry rest, entries = done ++ entry :: rest →
      (injectEntries urlEncode urlEncodeValue done template).toList =
        (done.map Prod.fst).foldl (replaceLabel (fun key => (placeholder key).toList)
          (inserted urlEncode urlEncodeValue details)) template.toList :=
    fun done entry rest split => toList_injectEntries (fun other member =>
      listed other (split ▸ List.mem_append_left _ member)) template
  constructor
  · intro explained done entry rest split _
    exact texts done entry rest split ▸ explained done entry rest split
  · intro explained done entry rest split
    rw [FoundInTemplate, texts done entry rest split]
    exact explained done entry rest split (value done entry rest split)

/-- The iteration order in which a key comes last. -/
def keyLast (key : String) : IterationOrder String String where
  arrange entries :=
    entries.filter (fun entry => entry.1 ≠ key) ++ entries.filter (fun entry => ¬ entry.1 ≠ key)
  arrange_perm entries := by
    simpa using List.filter_append_perm (fun entry => decide (entry.1 ≠ key)) entries

theorem iterate_keyLast {key : String} (member : key ∈ details) :
    ∃ rest, (iterate (keyLast key) details).map Prod.fst =
      otherKeys details key ++ key :: rest := by
  have others : (details.toList.filter fun entry => entry.1 ≠ key).map Prod.fst =
      otherKeys details key := by
    rw [otherKeys, ← Std.ExtTreeMap.map_fst_toList_eq_keys, List.filter_map]
    rfl
  rw [← Std.ExtTreeMap.mem_keys, ← Std.ExtTreeMap.map_fst_toList_eq_keys] at member
  rcases List.mem_map.mp member with ⟨found, listed, rfl⟩
  have last : found ∈ details.toList.filter fun entry => ¬ entry.1 ≠ found.1 := by
    rw [List.mem_filter]
    exact ⟨listed, by simp⟩
  cases same : details.toList.filter fun entry => ¬ entry.1 ≠ found.1 with
  | nil =>
      rw [same] at last
      cases last
  | cons entry rest =>
      have equal : entry.1 = found.1 := by
        have kept : entry ∈ details.toList.filter fun entry => ¬ entry.1 ≠ found.1 :=
          same ▸ List.mem_cons_self
        simpa using (List.mem_filter.mp kept).2
      refine ⟨rest.map Prod.fst, ?_⟩
      change (details.toList.filter (fun entry => entry.1 ≠ found.1) ++
        details.toList.filter fun entry => ¬ entry.1 ≠ found.1).map Prod.fst = _
      rw [same, List.map_append, others, List.map_cons, equal]

/-- If no value makes up a placeholder, then every placeholder is found in its own places
only, in whatever order the keys are handled. -/
theorem foundInPlace_of_harmless (plain : PlainKeys details)
    (harmless : ∀ key ∈ details, MakesNoPlaceholder urlEncode urlEncodeValue details template key)
    {keys : List String} (distinct : keys.Nodup) :
    Explained (fun done key => (inserted urlEncode urlEncodeValue details key).isSome →
      FoundInPlace (fun key => (placeholder key).toList)
        (inserted urlEncode urlEncodeValue details) (templatePieces details template)
        (filledWith urlEncode urlEncodeValue details template done) done key) keys := by
  intro done key rest split known
  have member := isSome_inserted_iff.mp known
  have new : key ∉ done := by
    rw [split] at distinct
    intro again
    exact (List.nodup_append.mp distinct).2.2 key again key List.mem_cons_self rfl
  exact (foundInPlace_filledWith_iff plain member new).mpr
    ((harmless key member).of_not_mem plain member new)

theorem listed_of_mem_iterate {order : IterationOrder String String} :
    ∀ entry ∈ iterate order details, details[entry.1]? = some entry.2 := by
  intro entry member
  exact Std.ExtTreeMap.mem_toList_iff_getElem?_eq_some.mp
    ((iterate_perm order details).mem_iff.mp member)

/-- A template is filled simultaneously if and only if no value makes up a placeholder. -/
theorem fillsSimultaneously_iff (plain : PlainKeys details) :
    FillsSimultaneously urlEncode urlEncodeValue details template ↔
      ∀ key ∈ details, MakesNoPlaceholder urlEncode urlEncodeValue details template key := by
  constructor
  · intro fills key member
    have explained := (explained_injectEntries_iff listed_of_mem_iterate).mp
      (fills.touches (keyLast key))
    rcases iterate_keyLast member with ⟨rest, split⟩
    have found := explained _ _ _ split (isSome_inserted_iff.mpr member)
    rw [foundInPlace_filledWith_iff plain member (by simp [otherKeys])] at found
    exact found
  · intro harmless
    have keys : ∀ order, ((iterate order details).map Prod.fst).Perm details.keys := fun order => by
      rw [← Std.ExtTreeMap.map_fst_toList_eq_keys]
      exact (iterate_perm order details).map Prod.fst
    have places := fun order => foundInPlace_of_harmless plain harmless
      ((keys order).nodup_iff.mpr Std.ExtTreeMap.nodup_keys)
    constructor
    case touches => exact fun order =>
      (explained_injectEntries_iff listed_of_mem_iterate).mpr (places order)
    case result =>
      intro order
      have whole := @toList_injectEntries urlEncode urlEncodeValue _ _
        (@listed_of_mem_iterate details order) template
      rw [← @fill_templatePieces details template,
        foldl_replaceLabel fun done key rest split known _ =>
          places order done key rest split known] at whole
      rw [injectMailDetails, simultaneous, Except.ok.injEq, ← String.toList_inj, whole,
        String.toList_ofList]
      refine fill_congr fun key _ => standing_eq_getD fun known => ?_
      rw [(keys order).mem_iff, Std.ExtTreeMap.mem_keys]
      exact isSome_inserted_iff.mp known

end Filling

section Samples

/-- The details of a mail whose subject is a placeholder. -/
def sampleDetails : HashMap String String :=
  (∅ : HashMap String String).insertMany [("id", "0c3d"), ("uid", "1"),
    ("sender", "reports@example.org"), ("subject", "[sender]"), ("folder", "INBOX"),
    ("account", "dmarc@example.com"), ("dmarc_reports", "0"), ("tls_reports", "0")]

def sampleMailState : AppState :=
  { AppState.new 0 with
    mails := (∅ : BTreeMap String Mail).insertMany [("0c3d", {
      id := "0c3d"
      account := "dmarc@example.com"
      folder := "INBOX"
      uid := 1
      size := 232
      oversized := false
      date := 1714608000
      subject := "[sender]"
      sender := "reports@example.org"
      «to» := "dmarc@example.com"
      body := none
      xmlFiles := 0
      jsonFiles := 0
      xmlParsingErrors := 0
      jsonParsingErrors := 0
      dmarcDuplicates := []
      tlsDuplicates := [] })] }

theorem getMailDetails_sampleMailState :
    getMailDetails "0c3d" sampleMailState = .ok sampleDetails := by
  decide +kernel

theorem not_fillsSimultaneously_sample :
    ¬ FillsSimultaneously id false sampleDetails "Subject: [subject]" := by
  intro fills
  exact absurd (fills.result (keyLast "sender")) (by decide +kernel)

theorem fillsSimultaneously_iff_sample :
    FillsSimultaneously id false sampleDetails "Subject: [subject]" ↔
      ∀ key ∈ sampleDetails, MakesNoPlaceholder id false sampleDetails "Subject: [subject]" key :=
  fillsSimultaneously_iff (plainKeys_getMailDetails getMailDetails_sampleMailState)

end Samples

end DmarcReportViewer.Templates
