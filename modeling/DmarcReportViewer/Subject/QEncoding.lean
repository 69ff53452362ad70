import DmarcReportViewer.Lib.Fallible
import DmarcReportViewer.Subject

/-!
# Slices inside of characters

`q_decode` cuts its data at byte offsets.  It decodes ASCII text, and it returns an
error for some malformed texts, but other texts make it cut through a character.
-/

namespace DmarcReportViewer.Subject

open Substitution Text

/-- What `q_decode` passes over: characters of one byte, and equal signs followed by two
characters which stand for a byte. -/
inductive QText : List Char → Prop where
  | nil : QText []
  | letter {char : Char} {rest : List Char} : char ≠ '=' → char.utf8Size = 1 → QText rest →
      QText (char :: rest)
  | escape {first second : Char} {rest : List Char} {value : UInt8} :
      fromStrRadix16 [first, second] = .ok value → QText rest →
      QText ('=' :: first :: second :: rest)

/-- What stands at the beginning of a text can be cut off: one byte, or three bytes after
an equal sign, do not end inside of a character. -/
def Cuttable : List Char → Prop
  | [] => True
  | ['='] => True
  | ['=', first] => first.utf8Size ≤ 2
  | '=' :: first :: second :: _ =>
      first.utf8Size = 2 ∨ first.utf8Size = 1 ∧ second.utf8Size = 1
  | char :: _ => char.utf8Size = 1

/-- Wherever `q_decode` gets in a text, it can go on. -/
def Readable (data : List Char) : Prop :=
  ∀ before after, data = before ++ after → QText before → Cuttable after

section Digits

theorem utf8Size_of_hexDigit {char : Char} {digit : Nat} (found : hexDigit char = some digit) :
    char.utf8Size = 1 := by
  rw [Char.utf8Size_eq_one_iff]
  unfold hexDigit at found
  split at found
  · next range => exact Nat.le_trans range.2 (by decide)
  · split at found
    · next range => exact Nat.le_trans range.2 (by decide)
    · split at found
      · next range => exact Nat.le_trans range.2 (by decide)
      · cases found

theorem hexDigit_eq_none {char : Char} (wide : char.utf8Size ≠ 1) : hexDigit char = none := by
  cases found : hexDigit char with
  | none => rfl
  | some digit => exact absurd (utf8Size_of_hexDigit found) wide

/-- No number starts with a character of several bytes. -/
theorem fromStrRadix16_of_wide {char : Char} (wide : char.utf8Size ≠ 1) (rest : List Char) :
    fromStrRadix16 (char :: rest) = .error "invalid digit found in string" := by
  have sign : char ≠ '+' := by
    rintro rfl
    exact wide (by decide)
  simp [fromStrRadix16, sign, hexValue, hexDigit_eq_none wide, bind, Except.bind]

end Digits

section Readable

variable {char first second : Char} {rest : List Char}

/-- What follows a piece of Q-encoded text which was passed over. -/
theorem Readable.drop {before after : List Char} (readable : Readable (before ++ after))
    (passed : ∀ {tail : List Char}, QText tail → QText (before ++ tail)) : Readable after := by
  intro inner last split text
  exact readable (before ++ inner) last (by rw [split, List.append_assoc]) (passed text)

theorem readable_letter (other : char ≠ '=') (narrow : char.utf8Size = 1) :
    Readable (char :: rest) ↔ Readable rest := by
  constructor
  · intro readable
    exact @Readable.drop [char] rest readable fun text => .letter other narrow text
  · intro readable before after split text
    cases text with
    | nil =>
        cases split
        simp [Cuttable, narrow, other]
    | letter _ _ inner =>
        cases split
        exact readable _ _ rfl inner
    | escape _ _ =>
        cases split
        exact absurd rfl other

theorem readable_escape {value : UInt8}
    (valid : fromStrRadix16 [first, second] = .ok value)
    (cuttable : Cuttable ('=' :: first :: second :: rest)) :
    Readable ('=' :: first :: second :: rest) ↔ Readable rest := by
  constructor
  · intro readable
    exact @Readable.drop ['=', first, second] rest readable fun text => .escape valid text
  · intro readable before after split text
    cases text with
    | nil =>
        cases split
        exact cuttable
    | letter other _ _ => exact absurd (List.cons.inj split).1.symm other
    | escape _ inner =>
        cases split
        exact readable _ _ rfl inner

/-- Where `q_decode` stops with an error, only the beginning of the text matters. -/
theorem readable_of_invalid {data : List Char}
    (start : data.head? = some '=')
    (invalid : ∀ first second rest value, data = '=' :: first :: second :: rest →
      fromStrRadix16 [first, second] ≠ .ok value) : Readable data ↔ Cuttable data := by
  constructor
  · intro readable
    exact readable [] data rfl .nil
  · intro cuttable before after split text
    cases text with
    | nil =>
        rw [List.nil_append] at split
        exact split ▸ cuttable
    | letter other _ _ =>
        rw [split] at start
        cases start
        exact absurd rfl other
    | escape valid _ => exact absurd valid (invalid _ _ _ _ split)

end Readable

section Loop

variable {char : Char} {rest : List Char}

theorem sliceFrom_one (narrow : char.utf8Size = 1) : sliceFrom 1 (char :: rest) = some rest := by
  simp [sliceFrom, narrow]

theorem sliceFrom_one_of_wide (wide : char.utf8Size ≠ 1) : sliceFrom 1 (char :: rest) = none := by
  have positive := char.utf8Size_pos
  rw [sliceFrom, if_neg (by omega)]

theorem qDecodeLoop_nil (result : List UInt8) : qDecodeLoop result [] = some (.ok result) := by
  rw [qDecodeLoop, if_pos rfl]

theorem qDecodeLoop_space (result : List UInt8) (rest : List Char) :
    qDecodeLoop result ('_' :: rest) = qDecodeLoop (result ++ [0x20]) rest := by
  have cut := @sliceFrom_one '_' rest rfl
  rw [qDecodeLoop, if_neg (List.cons_ne_nil _ _), if_pos List.head?_cons]
  split
  · next missing => cases cut.symm.trans missing
  · next found => cases cut.symm.trans found; rfl

theorem qDecodeLoop_other (result : List UInt8) (space : char ≠ '_') (other : char ≠ '=')
    (narrow : char.utf8Size = 1) :
    qDecodeLoop result (char :: rest) =
      qDecodeLoop (result ++ (asBytes (String.ofList (char :: rest))).take 1) rest := by
  have cut := @sliceFrom_one char rest narrow
  rw [qDecodeLoop, if_neg (List.cons_ne_nil _ _), if_neg (by simpa using space),
    if_neg (by simpa using other)]
  simp only
  split
  · next missing => cases cut.symm.trans missing
  · next found => cases cut.symm.trans found; rfl

/-- A character of one byte is passed over. -/
theorem qDecodeLoop_letter (result : List UInt8) (other : char ≠ '=')
    (narrow : char.utf8Size = 1) :
    ∃ bytes, qDecodeLoop result (char :: rest) = qDecodeLoop (result ++ bytes) rest := by
  by_cases space : char = '_'
  · exact ⟨[0x20], space ▸ qDecodeLoop_space result rest⟩
  · exact ⟨_, qDecodeLoop_other result space other narrow⟩

/-- A character of several bytes is cut through. -/
theorem qDecodeLoop_wide (result : List UInt8) (wide : char.utf8Size ≠ 1) :
    qDecodeLoop result (char :: rest) = none := by
  have cut := @sliceFrom_one_of_wide char rest wide
  have space : char ≠ '_' := by
    rintro rfl
    exact wide (by decide)
  have sign : char ≠ '=' := by
    rintro rfl
    exact wide (by decide)
  rw [qDecodeLoop, if_neg (List.cons_ne_nil _ _), if_neg (by simpa using space),
    if_neg (by simpa using sign)]
  simp only
  split
  · rfl
  · next found => cases cut.symm.trans found

/-- After an equal sign, two bytes are read as a number if they can be cut out. -/
theorem qDecodeLoop_escape (result : List UInt8) (rest : List Char) :
    qDecodeLoop result ('=' :: rest) =
      if byteLength rest < 2 then
        some (.error "The equal character must be followed by two hex characters")
      else
        (sliceTo 2 rest).bind fun hex =>
          match fromStrRadix16 hex with
          | .error error =>
              some (.error ("Expected valid hex string but found something else" ++ ": " ++ error))
          | .ok value => (sliceFrom 2 rest).bind (qDecodeLoop (result ++ [value])) := by
  have size : byteLength ('=' :: rest) = 1 + byteLength rest := by
    simp [byteLength, show '='.utf8Size = 1 from rfl]
  have first : sliceFrom 1 ('=' :: rest) = some rest := sliceFrom_one rfl
  have third : sliceFrom 3 ('=' :: rest) = sliceFrom 2 rest := rfl
  rw [qDecodeLoop, if_neg (List.cons_ne_nil _ _), if_neg (by simp), if_pos (List.head?_cons), size,
    first, Option.bind_some]
  by_cases short : byteLength rest < 2
  · rw [if_neg (by omega), if_pos short]
  · rw [if_pos (by omega), if_neg short]
    cases sliceTo 2 rest with
    | none => rfl
    | some hex =>
        simp only [Option.bind_some]
        cases fromStrRadix16 hex with
        | error error => rfl
        | ok value =>
            simp only [Result.context]
            split
            · next missing => rw [← third, missing]; rfl
            · next found => rw [← third, found]; rfl

theorem qDecodeLoop_of_not_cuttable (result : List UInt8) {data : List Char}
    (stuck : ¬ Cuttable data) : qDecodeLoop result data = none := by
  cases data with
  | nil => exact absurd trivial stuck
  | cons char rest =>
      by_cases sign : char = '='
      · subst sign
        rw [qDecodeLoop_escape]
        cases rest with
        | nil => exact absurd trivial stuck
        | cons first rest =>
            have positive := first.utf8Size_pos
            cases rest with
            | nil =>
                have wide : ¬ first.utf8Size ≤ 2 := stuck
                rw [if_neg (by simp [byteLength]; omega), sliceTo, if_neg wide, Option.bind_none]
            | cons second rest =>
                have sizes : ¬ (first.utf8Size = 2 ∨ first.utf8Size = 1 ∧ second.utf8Size = 1) :=
                  stuck
                have following := second.utf8Size_pos
                rw [if_neg (by simp [byteLength]; omega), sliceTo]
                by_cases narrow : first.utf8Size ≤ 2
                · have one : first.utf8Size = 1 := by omega
                  rw [if_pos narrow, one, sliceTo, if_neg (by omega)]
                  rfl
                · rw [if_neg narrow, Option.bind_none]
      · apply qDecodeLoop_wide
        intro narrow
        exact stuck (by simp [Cuttable, sign, narrow])

/-- An equal sign which is not followed by a number is an error. -/
theorem qDecodeLoop_of_invalid (result : List UInt8) {rest : List Char}
    (cuttable : Cuttable ('=' :: rest))
    (invalid : ∀ first second tail value, rest = first :: second :: tail →
      fromStrRadix16 [first, second] ≠ .ok value) :
    ∃ error, qDecodeLoop result ('=' :: rest) = some (.error error) := by
  rw [qDecodeLoop_escape]
  by_cases short : byteLength rest < 2
  · exact ⟨_, if_pos short⟩
  · rw [if_neg short]
    cases rest with
    | nil => exact absurd (show byteLength [] < 2 by decide) short
    | cons first rest =>
        have positive := first.utf8Size_pos
        by_cases two : first.utf8Size = 2
        · rw [sliceTo, if_pos (by omega), two, sliceTo, Option.map_some, Option.bind_some,
            fromStrRadix16_of_wide (by omega)]
          exact ⟨_, rfl⟩
        · cases rest with
          | nil =>
              have narrow : first.utf8Size ≤ 2 := cuttable
              exact absurd (show byteLength [first] < 2 by simp [byteLength]; omega) short
          | cons second rest =>
              rcases cuttable with wide | ⟨one, next⟩
              · exact absurd wide two
              · rw [sliceTo, if_pos (by omega), one, sliceTo, if_pos (by omega), next, sliceTo,
                  Option.map_some, Option.map_some, Option.bind_some]
                cases valid : fromStrRadix16 [first, second] with
                | error error => exact ⟨_, rfl⟩
                | ok value => exact absurd valid (invalid first second rest value rfl)

theorem qDecodeLoop_of_valid (result : List UInt8) {first second : Char} {value : UInt8}
    (valid : fromStrRadix16 [first, second] = .ok value)
    (cuttable : Cuttable ('=' :: first :: second :: rest)) :
    qDecodeLoop result ('=' :: first :: second :: rest) =
      qDecodeLoop (result ++ [value]) rest := by
  have sizes : first.utf8Size = 1 ∧ second.utf8Size = 1 := by
    rcases cuttable with wide | narrow
    · rw [fromStrRadix16_of_wide (by omega)] at valid
      cases valid
    · exact narrow
  have enough : 2 ≤ byteLength (first :: second :: rest) := by
    simp only [byteLength, List.map_cons, List.sum_cons, sizes]
    omega
  rw [qDecodeLoop_escape, if_neg (Nat.not_lt.mpr enough)]
  simp [sliceTo, sliceFrom, sizes, valid]

/-- `q_decode` comes to an end, with a result or an error, if and only if no slice ends
inside of a character. -/
theorem isSome_qDecodeLoop_iff (result : List UInt8) (data : List Char) :
    (qDecodeLoop result data).isSome ↔ Readable data := by
  induction long : data.length using Nat.strongRecOn generalizing result data with
  | ind size ih =>
      by_cases cuttable : Cuttable data
      · cases data with
        | nil =>
            rw [qDecodeLoop_nil]
            refine ⟨fun _ before after split _ => ?_, fun _ => rfl⟩
            rw [(List.append_eq_nil_iff.mp split.symm).2]
            trivial
        | cons char rest =>
            by_cases sign : char = '='
            · subst sign
              by_cases escape : ∃ first second tail value, rest = first :: second :: tail ∧
                  fromStrRadix16 [first, second] = .ok value
              · rcases escape with ⟨first, second, tail, value, rfl, valid⟩
                rw [qDecodeLoop_of_valid result valid cuttable, readable_escape valid cuttable]
                exact ih tail.length (by simp [← long]; omega) _ tail rfl
              · have invalid : ∀ first second tail value, rest = first :: second :: tail →
                    fromStrRadix16 [first, second] ≠ .ok value :=
                  fun first second tail value split valid =>
                    escape ⟨first, second, tail, value, split, valid⟩
                rcases qDecodeLoop_of_invalid result cuttable invalid with ⟨error, stopped⟩
                rw [stopped, readable_of_invalid rfl fun first second tail value split =>
                  invalid first second tail value (List.cons.inj split).2]
                exact ⟨fun _ => cuttable, fun _ => rfl⟩
            · have narrow : char.utf8Size = 1 := by
                simpa [Cuttable, sign] using cuttable
              rcases qDecodeLoop_letter result sign narrow with ⟨bytes, stepped⟩
              rw [stepped, readable_letter sign narrow]
              exact ih rest.length (by simp [← long]) _ rest rfl
      · rw [qDecodeLoop_of_not_cuttable result cuttable]
        constructor
        · intro finished
          cases finished
        · intro readable
          exact absurd (readable [] data rfl .nil) cuttable

end Loop

section Words

variable (codecs : Codecs)

theorem isSome_decodeWord_iff (charset encoding data : String) :
    (decodeWord codecs charset encoding data).isSome ↔
      (codecs.toLowercase encoding = "q" → Readable data.toList) := by
  unfold decodeWord
  by_cases base64 : codecs.toLowercase encoding = "b"
  · simp [base64]
  · by_cases quoted : codecs.toLowercase encoding = "q"
    · rw [← isSome_qDecodeLoop_iff []]
      simp only [quoted, qDecode]
      cases qDecodeLoop [] data.toList <;> simp
    · simp [base64, quoted]

/-- A subject is decoded if and only if the data of every Q-encoded word in it can be cut
where `q_decode` cuts it. -/
theorem isSome_decodeSubject_iff (value : String) :
    (decodeSubject (decodeWord codecs) value).isSome ↔
      ∀ capture ∈ captures value,
        codecs.toLowercase (String.ofList [capture.encoding]) = "q" →
          Readable capture.encoded := by
  have step : ∀ (result : List Char) (capture : Capture),
      (replaceCapture (decodeWord codecs) result capture).isSome ↔
        (codecs.toLowercase (String.ofList [capture.encoding]) = "q" →
          Readable capture.encoded) := by
    intro result capture
    have word := isSome_decodeWord_iff codecs (String.ofList capture.charset)
      (String.ofList [capture.encoding]) (String.ofList capture.encoded)
    rw [String.toList_ofList] at word
    rw [← word, replaceCapture]
    cases decodeWord codecs _ _ _ with
    | none => rfl
    | some decoded => cases decoded <;> simp
  rw [decodeSubject, ← Fallible.isSome_foldlM_iff step]
  cases (captures value).foldlM (replaceCapture (decodeWord codecs)) value.toList <;> simp

end Words

section Samples

def sampleCodecs : Codecs where
  base64Decode _ := .error "Invalid padding"
  forLabel label :=
    if label = asBytes "utf-8" then some fun bytes => (fromUtf8 bytes).getD "" else none
  toLowercase := String.toLower

/-- A subject which consists of one word with a character of two bytes. -/
theorem not_isSome_decodeSubject_sample :
    ¬ (decodeSubject (decodeWord sampleCodecs) "=?utf-8?q?ä?=").isSome := by
  decide +kernel

end Samples

end DmarcReportViewer.Subject
