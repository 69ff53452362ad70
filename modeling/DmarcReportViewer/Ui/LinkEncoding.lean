import DmarcReportViewer.Ui.Links

/-!
# Encoding and decoding of links

Which characters of a link and of a request are encoded, and how a value passes through
the query of a request to the pairs which the server extracts from it.
-/

namespace DmarcReportViewer.Ui

open Forms Text

section Characters

theorem isVisible_of_isAlphanum {char : Char} (alphanum : char.isAlphanum = true) :
    isVisible char = true := by
  rw [isAlphanum_iff] at alphanum
  simp only [isVisible, Bool.and_eq_true, decide_eq_true_eq]
  omega

theorem keptInFragment_of_unreserved {char : Char} (unreserved : unreserved char = true) :
    keptInFragment char = true := by
  have visible : isVisible char = true := by
    rw [Ui.unreserved, Bool.or_eq_true, List.contains_iff_mem] at unreserved
    rcases unreserved with alphanum | mark
    · exact isVisible_of_isAlphanum alphanum
    · have marks : "-_.!~*'()".toList.all isVisible = true := by decide
      exact List.all_eq_true.mp marks char mark
  have delimiters : ("\"<>\x60".toList.any Ui.unreserved) = false := by decide
  have absent : char ∉ "\"<>\x60".toList := fun member =>
    List.any_eq_false.mp delimiters char member unreserved
  rw [keptInFragment, visible, Bool.true_and, Bool.not_eq_true', Bool.eq_false_iff, Ne,
    List.contains_iff_mem]
  exact absent

theorem keptInQuery_of_isAlphanum {char : Char} (alphanum : char.isAlphanum = true) :
    keptInQuery char = true := by
  have delimiters : "\"#<>'".toList.any Char.isAlphanum = false := by decide
  have absent : char ∉ "\"#<>'".toList := fun member =>
    List.any_eq_false.mp delimiters char member alphanum
  rw [keptInQuery, isVisible_of_isAlphanum alphanum, Bool.true_and, Bool.not_eq_true',
    Bool.eq_false_iff, Ne, List.contains_iff_mem]
  exact absent

/-- An encoded value consists of characters which stay as they are in a fragment. -/
theorem keptInFragment_of_mem_encode {char : Char} {value : String}
    (member : char ∈ (encodeURIComponent value).toList) : keptInFragment char = true := by
  rcases Percent.mem_encode member with rfl | alphanum | ⟨kept, _⟩
  · decide
  · exact keptInFragment_of_unreserved (by simp [unreserved, alphanum])
  · exact keptInFragment_of_unreserved kept

theorem not_mem_encodeURIComponent {char : Char} (reserved : unreserved char = false)
    (sign : char ≠ '%') (value : String) : char ∉ (encodeURIComponent value).toList := by
  have other : char.isAlphanum = false := by
    rw [unreserved, Bool.or_eq_false_iff] at reserved
    exact reserved.1
  exact Percent.not_mem_encode sign other (.inl reserved)

theorem decodeChars_encodeURIComponent (value : String) :
    Percent.decodeChars (encodeURIComponent value).toList = asBytes value := by
  rw [encodeURIComponent, Percent.encode, String.toList_ofList,
    Percent.decodeChars_encodeChars (by decide), String.ofList_toList]

/-- The characters are letters, digits and dashes, as in names and numbers. -/
def Plain (text : String) : Prop :=
  ∀ char ∈ text.toList, (char.isAlphanum || "_-".toList.contains char) = true

instance (text : String) : Decidable (Plain text) :=
  decidable_of_iff _ List.all_eq_true

theorem Plain.not_mem {text : String} (plain : Plain text) {char : Char}
    (other : (char.isAlphanum || "_-".toList.contains char) = false) : char ∉ text.toList := by
  intro member
  exact Bool.false_ne_true (other.symm.trans (plain char member))

theorem Plain.encode {text : String} (plain : Plain text) :
    Percent.encode keptInQuery text = text := by
  apply Percent.encode_of_keeps
  intro char member
  have shape := plain char member
  rw [Bool.or_eq_true, List.contains_iff_mem] at shape
  rcases shape with alphanum | dash
  · exact keptInQuery_of_isAlphanum alphanum
  · have dashes : "_-".toList.all keptInQuery = true := by decide
    exact List.all_eq_true.mp dashes char dash

theorem plain_repr (number : Nat) : Plain number.repr := by
  intro char member
  rw [Nat.toList_repr] at member
  have digit : char.isDigit = true :=
    Nat.isDigit_of_mem_toDigits (by decide) (by decide) member
  simp [Char.isAlphanum, digit]

theorem plain_toString (number : Int) : Plain (toString number) := by
  cases number with
  | ofNat number => exact plain_repr number
  | negSucc number =>
      intro char member
      change char ∈ ("-" ++ (number + 1).repr).toList at member
      rw [String.toList_append, List.mem_append] at member
      rcases member with sign | digit
      · rw [List.mem_singleton.mp sign]
        decide
      · exact plain_repr _ char digit

/-- A path which may stand in front of the parameters of a link. -/
def IsRoute (route : String) : Prop :=
  '?' ∉ route.toList ∧ ∀ char ∈ route.toList, keptInFragment char = true

instance (route : String) : Decidable (IsRoute route) :=
  decidable_of_iff ('?' ∉ route.toList ∧ route.toList.all keptInFragment = true)
    (and_congr_right' List.all_eq_true)

theorem Plain.keptInFragment {text : String} (plain : Plain text) :
    ∀ char ∈ text.toList, keptInFragment char = true := by
  intro char member
  have shape := plain char member
  rw [Bool.or_eq_true, List.contains_iff_mem] at shape
  rcases shape with alphanum | dash
  · exact keptInFragment_of_unreserved (by simp [unreserved, alphanum])
  · have dashes : "_-".toList.all Ui.keptInFragment = true := by decide
    exact List.all_eq_true.mp dashes char dash

end Characters

section Requests

variable {env : Externals}

/-- A parameter which arrives at the server. -/
structure Sendable (param : String × String) : Prop where
  plain : Plain param.1
  value : '&' ∉ param.2.toList ∧ '#' ∉ param.2.toList ∧ '+' ∉ param.2.toList

theorem Plain.sendable {param : String × String} (name : Plain param.1) (value : Plain param.2) :
    Sendable param :=
  ⟨name, value.not_mem (by decide), value.not_mem (by decide), value.not_mem (by decide)⟩

theorem sendable_encodeURIComponent {name : String} (plain : Plain name) (value : String) :
    Sendable (name, encodeURIComponent value) :=
  ⟨plain, not_mem_encodeURIComponent (by decide) (by decide) value,
    not_mem_encodeURIComponent (by decide) (by decide) value,
    not_mem_encodeURIComponent (by decide) (by decide) value⟩

theorem encode_pairText {param : String × String} (plain : Plain param.1) :
    Percent.encode keptInQuery (pairText param) =
      pairText (param.1, Percent.encode keptInQuery param.2) := by
  rw [pairText, Percent.encode_append, Percent.encode_append, plain.encode,
    Percent.encode_of_keeps (List.all_eq_true.mp (by decide : "=".toList.all keptInQuery = true)),
    pairText]

theorem encode_join {params : Params} (plain : ∀ param ∈ params, Plain param.1) :
    Percent.encode keptInQuery (join params) =
      join (params.map fun param => (param.1, Percent.encode keptInQuery param.2)) := by
  induction params with
  | nil => rfl
  | cons param params ih =>
      have first := encode_pairText (plain param List.mem_cons_self)
      have rest := ih fun other member => plain other (List.mem_cons_of_mem _ member)
      cases params with
      | nil => simpa [join] using first
      | cons next params =>
          simp only [join, List.map_cons] at rest
          simp only [join, List.map_cons, String.intercalate_cons_cons, Percent.encode_append,
            first, rest,
            Percent.encode_of_keeps
              (List.all_eq_true.mp (by decide : "&".toList.all keptInQuery = true))]

theorem not_mem_join {char : Char} {params : Params} (separator : char ≠ '&' ∧ char ≠ '=')
    (absent : ∀ param ∈ params, char ∉ param.1.toList ∧ char ∉ param.2.toList) :
    char ∉ (join params).toList := by
  rw [join, String.toList_intercalate]
  intro member
  rcases mem_intercalate member with inSeparator | ⟨piece, inPieces, inPiece⟩
  · exact separator.1 (by simpa using inSeparator)
  · simp only [List.map_map, List.mem_map] at inPieces
    rcases inPieces with ⟨param, inParams, rfl⟩
    have absent := absent param inParams
    simp [pairText, absent, separator.2] at inPiece

theorem fetchedQuery_address {path : String} (inPath : '#' ∉ path.toList ∧ '?' ∉ path.toList)
    {params : Params} (sendable : ∀ param ∈ params, Sendable param) :
    fetchedQuery (address path params) = Percent.encode keptInQuery (join params) := by
  by_cases none : params = []
  · subst none
    have absent := splitOnce_eq_none_of_not_mem inPath.1
    have absentQuery := splitOnce_eq_none_of_not_mem inPath.2
    simp only [address, if_pos, fetchedQuery, absent, absentQuery]
    rfl
  · have inUrl : '#' ∉ (path ++ "?" ++ join params).toList := by
      have inJoin := @not_mem_join '#' params (by decide) fun param member =>
        ⟨(sendable param member).plain.not_mem (by decide), (sendable param member).value.2.1⟩
      simp [inPath.1, inJoin]
    have url : path ++ "?" ++ join params =
        String.ofList (path.toList ++ '?' :: (join params).toList) := by
      apply String.toList_inj.mp
      simp
    have found : splitOnce (path ++ "?" ++ join params) '?' = some (path, join params) := by
      rw [url, splitOnce_of_not_mem inPath.2, String.ofList_toList, String.ofList_toList]
    simp only [address, if_neg none, fetchedQuery, splitOnce_eq_none_of_not_mem inUrl, found]

/-- The server finds the parameters which were sent, each decoded once. -/
theorem parse_fetchedQuery (decodes : env.DecodesUtf8) {path : String}
    (inPath : '#' ∉ path.toList ∧ '?' ∉ path.toList) {params : Params}
    (sendable : ∀ param ∈ params, Sendable param) :
    parse env.fromUtf8Lossy (fetchedQuery (address path params)) =
      params.map fun param =>
        (param.1, env.fromUtf8Lossy (Percent.decodeChars param.2.toList)) := by
  have separable : ∀ pair ∈ params.map fun param => (param.1, Percent.encode keptInQuery param.2),
      Separable pair := by
    intro pair member
    rcases List.mem_map.mp member with ⟨param, inParams, rfl⟩
    have sent := sendable param inParams
    exact ⟨sent.plain.not_mem (by decide), sent.plain.not_mem (by decide),
      Percent.not_mem_encode (by decide) (by decide) (.inr sent.value.1)⟩
  rw [fetchedQuery_address inPath sendable, encode_join fun param member =>
    (sendable param member).plain, parse_join separable, List.map_map]
  apply List.map_congr_left
  intro param member
  have sent := sendable param member
  have name : decode env.fromUtf8Lossy param.1 = param.1 := by
    rw [decode_of_not_mem (sent.plain.not_mem (by decide)),
      Percent.decodeChars_of_not_mem (sent.plain.not_mem (by decide)), String.ofList_toList,
      decodes.lossy]
  have value : decode env.fromUtf8Lossy (Percent.encode keptInQuery param.2) =
      env.fromUtf8Lossy (Percent.decodeChars param.2.toList) := by
    rw [decode_of_not_mem (Percent.not_mem_encode (by decide) (by decide) (.inr sent.value.2.2)),
      Percent.encode, String.toList_ofList,
      Percent.decodeChars_encodeChars_again (by decide)
        fun _ digit => keptInQuery_of_isAlphanum (Percent.isAlphanum_of_hexValue digit)]
  exact Prod.ext name value

/-- A value which was encoded twice arrives encoded once, and numbers arrive unchanged. -/
theorem parse_textParam (decodes : env.DecodesUtf8) {path : String}
    (inPath : '#' ∉ path.toList ∧ '?' ∉ path.toList) {texts numbers : Params}
    (names : ∀ param ∈ texts ++ numbers, Plain param.1)
    (values : ∀ param ∈ numbers, Plain param.2) :
    parse env.fromUtf8Lossy (fetchedQuery (address path
      ((texts.map fun param => (param.1, encodeURIComponent param.2)) ++ numbers))) =
        texts ++ numbers := by
  have sendable : ∀ param ∈ (texts.map fun param => (param.1, encodeURIComponent param.2)) ++
      numbers, Sendable param := by
    intro param member
    rcases List.mem_append.mp member with inTexts | inNumbers
    · rcases List.mem_map.mp inTexts with ⟨text, found, rfl⟩
      exact sendable_encodeURIComponent (names text (List.mem_append_left _ found)) text.2
    · exact (names param (List.mem_append_right _ inNumbers)).sendable (values param inNumbers)
  rw [parse_fetchedQuery decodes inPath sendable, List.map_append, List.map_map]
  congr 1
  · apply List.map_id''
    intro param
    simp [decodeChars_encodeURIComponent, decodes.lossy]
  · apply (List.map_congr_left _).trans (List.map_id _)
    intro param member
    rw [Percent.decodeChars_of_not_mem ((values param member).not_mem (by decide)),
      String.ofList_toList, decodes.lossy]
    rfl

end Requests

end DmarcReportViewer.Ui
