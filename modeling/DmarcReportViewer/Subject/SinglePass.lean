import DmarcReportViewer.Lib.Runs
import DmarcReportViewer.Subject

/-!
# Decoding in a single pass

`decode_subject` searches the original subject for words, but replaces them in the text
in which it has replaced words already.  The outcome is that of a single pass as long as
no replaced text makes up the text of a later word.
-/

namespace DmarcReportViewer.Subject

open Runs Substitution

section Matches

variable {γ : Type} {next : List Char → Option γ} {chars : List Char}

theorem literal_eq_some {text : String} {found : γ}
    (matched : literal text next chars = some found) :
    ∃ rest, chars = text.toList ++ rest ∧ next rest = some found := by
  unfold literal at matched
  split at matched
  · next starts =>
      rcases List.isPrefixOf_iff_prefix.mp starts with ⟨rest, rfl⟩
      rw [← String.length_toList, List.drop_left] at matched
      exact ⟨rest, rfl, matched⟩
  · cases matched

theorem dot_eq_some {char : Char} {found : γ} (matched : dot next chars = some (char, found)) :
    ∃ rest, chars = char :: rest ∧ next rest = some found := by
  cases chars with
  | nil => cases matched
  | cons first rest =>
      rw [dot] at matched
      split at matched
      · cases matched
      · rcases Option.map_eq_some_iff.mp matched with ⟨found, continued, same⟩
        cases same
        exact ⟨rest, rfl, continued⟩

theorem lazyDots_eq_some {dots : List Char} {found : γ}
    (matched : lazyDots next chars = some (dots, found)) :
    ∃ rest, chars = dots ++ rest ∧ next rest = some found := by
  induction chars generalizing dots with
  | nil => cases matched
  | cons first rest ih =>
      rw [lazyDots] at matched
      split at matched
      · cases matched
      · split at matched
        · next continued =>
            cases matched
            exact ⟨rest, rfl, continued⟩
        · rcases Option.map_eq_some_iff.mp matched with ⟨⟨more, last⟩, later, same⟩
          cases same
          rcases ih later with ⟨tail, rfl, continued⟩
          exact ⟨tail, rfl, continued⟩

/-- A match is the text at the beginning. -/
theorem matchWord_eq_some {capture : Capture} (matched : matchWord chars = some capture) :
    ∃ rest, chars = capture.matched ++ rest := by
  rcases Option.map_eq_some_iff.mp matched with ⟨⟨charset, encoding, encoded, _⟩, found, rfl⟩
  rcases literal_eq_some found with ⟨opened, begins, charsetFound⟩
  rcases lazyDots_eq_some charsetFound with ⟨afterCharset, opens, firstMark⟩
  rcases literal_eq_some firstMark with ⟨marked, marks, encodingFound⟩
  rcases dot_eq_some encodingFound with ⟨afterEncoding, kind, secondMark⟩
  rcases literal_eq_some secondMark with ⟨data, starts, encodedFound⟩
  rcases lazyDots_eq_some encodedFound with ⟨closing, reads, last⟩
  rcases literal_eq_some last with ⟨rest, closes, _⟩
  refine ⟨rest, ?_⟩
  rw [begins, opens, marks, kind, starts, reads, closes]
  simp [Capture.matched]

theorem findsText_findWord : FindsText findWord Capture.matched := by
  have word : ∀ whole capture length, findWord whole = some (capture, length) →
      matchWord whole = some capture ∧ length = capture.matched.length := by
    intro whole capture length found
    rcases Option.map_eq_some_iff.mp found with ⟨other, matched, same⟩
    cases same
    exact ⟨matched, rfl⟩
  constructor
  case starts => exact fun whole capture length found =>
    matchWord_eq_some (word whole capture length found).1
  case length => exact fun whole capture length found => (word whole capture length found).2
  case nonempty => exact fun _ capture _ _ => List.cons_ne_nil _ _

theorem fill_pieces (value : String) : fill Capture.matched (pieces value) = value.toList :=
  fill_scan findsText_findWord value.toList

end Matches

section Passes

variable (decodeWord : String → String → String → Result String)

/-- The decoded text of a word, if it can be decoded. -/
def decoded (capture : Capture) : Option (List Char) :=
  match decodeWord (String.ofList capture.charset) (String.ofList [capture.encoding])
      (String.ofList capture.encoded) with
  | .ok word => some word.toList
  | .error _ => none

/-- A subject in which some of its words are decoded, each at its own place. -/
def partialPass (done : List Capture) (value : String) : List Char :=
  partialFill Capture.matched (decoded decodeWord) (pieces value) done

def singlePass (value : String) : String :=
  String.ofList (partialPass decodeWord (captures value) value)

/-- The text in the loop of `decode_subject` after some iterations. -/
def loopText (done : List Capture) (value : String) : Option (List Char) :=
  done.foldlM (replaceCapture fun charset encoding data => some (decodeWord charset encoding data))
    value.toList

/-- A search for a word finds the word where it stands in the subject, unless it has been
decoded already, and nowhere else. -/
def FoundOnce (done : List Capture) (capture : Capture) (value : String) (text : List Char) :
    Prop :=
  FoundInPlace Capture.matched (decoded decodeWord) (pieces value) text done capture

/-- The subject is decoded in a single pass, and no replacement touches anything but the
word it is made for. -/
structure DecodesInPlace (value : String) : Prop where
  result : decodeSubject (fun charset encoding data => some (decodeWord charset encoding data))
    value = some (singlePass decodeWord value)
  touches : Explained (fun done capture => ∀ text, (decoded decodeWord capture).isSome →
    loopText decodeWord done value = some text →
      FoundOnce decodeWord done capture value text) (captures value)

/-- With the words before it decoded, every word which can be decoded is found at its own
places only. -/
def Separate (value : String) : Prop :=
  Explained (fun done capture => (decoded decodeWord capture).isSome →
    FoundOnce decodeWord done capture value (partialPass decodeWord done value)) (captures value)

theorem loopText_eq (done : List Capture) (value : String) :
    loopText decodeWord done value =
      some (done.foldl (replaceLabel Capture.matched (decoded decodeWord))
        (fill Capture.matched (pieces value))) := by
  induction done using List.reverseRecOn with
  | nil => exact congrArg some (fill_pieces value).symm
  | append_singleton done capture ih =>
      unfold loopText at ih ⊢
      rw [List.foldlM_append, ih, List.foldl_append]
      simp only [List.foldlM_cons, List.foldlM_nil, List.foldl_cons, List.foldl_nil,
        replaceCapture, replaceLabel, decoded]
      cases decodeWord _ _ _ <;> rfl

/-- The loop decodes a subject in place if and only if with the words before it decoded,
every word is found at its own places only. -/
theorem decodesInPlace_iff (value : String) :
    DecodesInPlace decodeWord value ↔ Separate decodeWord value := by
  unfold Separate FoundOnce partialPass
  rw [← foundInPlace_foldl_iff]
  constructor
  · intro inPlace done capture rest split success
    exact inPlace.touches done capture rest split _ success (loopText_eq decodeWord done value)
  · intro found
    constructor
    case result =>
      have whole := loopText_eq decodeWord (captures value) value
      rw [foldl_replaceLabel fun done capture rest split success same =>
        same ▸ found done capture rest split success] at whole
      rw [loopText] at whole
      rw [decodeSubject, whole]
      rfl
    case touches =>
      intro done capture rest split text success same
      rw [loopText_eq] at same
      exact Option.some.inj same ▸ found done capture rest split success

end Passes

section Samples

/-- A Base64 word whose text looks like the Q-encoded word behind it. -/
def sampleSubject : String :=
  "=?utf-8?b?PT91dGYtOD9xP2E/PQ==?= =?utf-8?q?a?="

def sampleDecodeWord (_charset encoding data : String) : Result String :=
  if encoding = "b" ∧ data = "PT91dGYtOD9xP2E/PQ==" then .ok "=?utf-8?q?a?="
  else if encoding = "q" then .ok data
  else .error ("Unsupported encoding: " ++ encoding)

theorem not_decodesInPlace_sample : ¬ DecodesInPlace sampleDecodeWord sampleSubject := by
  intro inPlace
  exact absurd inPlace.result (by decide +kernel)

end Samples

end DmarcReportViewer.Subject
