import DmarcReportViewer.Lib.Splitting
import DmarcReportViewer.Unpack

/-!
# File names in parts

A mailer may cut the file name in a content type into numbered parts.  They are merged
again, and the file type is detected from the merged text.
-/

namespace DmarcReportViewer.NameParts

open Text

/-- A part of the name, with the characters around its value. -/
structure Part where
  before : String
  quoted : Bool
  value : String
  semicolon : Bool
  after : String

def Part.inner (part : Part) : String :=
  if part.quoted then "\"" ++ part.value ++ "\"" else part.value

/-- The part without the white space around it. -/
def Part.core (part : Part) (number : Nat) : String :=
  "name*" ++ toString number ++ "=" ++ (part.inner ++ if part.semicolon then ";" else "")

def Part.text (part : Part) (number : Nat) : String :=
  part.before ++ part.core number ++ part.after

/-- The value is not empty, and has no quotes, semicolons and white space. -/
structure Part.Valid (part : Part) : Prop where
  before : ∀ char ∈ part.before.toList, isWhitespace char = true
  after : ∀ char ∈ part.after.toList, isWhitespace char = true
  nonempty : part.value ≠ ""
  plain : ∀ char ∈ part.value.toList, char ≠ '"' ∧ char ≠ ';' ∧ isWhitespace char = false

inductive Segment where
  | part (part : Part)
  | other (text : String)

def Segment.Valid : Segment → Prop
  | .part name => name.Valid
  | .other text => ∀ number : Nat, ¬ startsWith (trim text) ("name*" ++ toString number ++ "=")

/-- The texts of segments whose parts are numbered from `number` on. -/
def render (number : Nat) : List Segment → List String
  | [] => []
  | .part part :: segments => part.text number :: render (number + 1) segments
  | .other text :: segments => text :: render number segments

def others (segments : List Segment) : List String :=
  segments.filterMap fun
    | .part _ => none
    | .other text => some text

def values (segments : List Segment) : List String :=
  segments.filterMap fun
    | .part part => some part.value
    | .other _ => none

/-- A content type which consists of a media type and further segments. -/
structure ConsistsOf (value : String) (segments : List Segment) : Prop where
  text : trim value = "; ".intercalate (render 0 segments)
  mediaType : ∃ text rest, segments = .other text :: rest ∧ text ≠ ""
  valid : ∀ segment ∈ segments, segment.Valid
  separated : ∀ piece ∈ render 0 segments, contains piece "; " = false

section Characters

theorem startsWith_of_not_mem {char : Char} {text : String} (absent : char ∉ text.toList) :
    startsWith text (String.singleton char) = false := by
  rw [startsWith, String.toList_singleton, ← Bool.not_eq_true, List.isPrefixOf_iff_prefix]
  intro starts
  exact absent (starts.subset List.mem_cons_self)

theorem endsWith_of_not_mem {char : Char} {text : String} (absent : char ∉ text.toList) :
    endsWith text (String.singleton char) = false := by
  rw [endsWith, String.toList_singleton, ← Bool.not_eq_true, List.isSuffixOf_iff_suffix]
  intro ends
  exact absent (ends.subset List.mem_cons_self)

theorem startsWith_append (pattern text : String) :
    startsWith (pattern ++ text) pattern = true := by
  rw [startsWith, String.toList_append]
  exact List.isPrefixOf_iff_prefix.mpr (List.prefix_append _ _)

theorem endsWith_append (text pattern : String) : endsWith (text ++ pattern) pattern = true := by
  rw [endsWith, String.toList_append]
  exact List.isSuffixOf_iff_suffix.mpr (List.suffix_append _ _)

theorem pop_append_singleton (text : String) (char : Char) :
    pop (text ++ String.singleton char) = text := by
  simp [pop]

theorem removeFirst_singleton_append (char : Char) (text : String) :
    removeFirst (String.singleton char ++ text) = text := by
  simp [removeFirst]

end Characters

/-- The name is merged, and the files of a part of a mail do not depend on where it was
cut. -/
structure MergesName (value : String) (segments : List Segment) : Prop where
  merged : values segments ≠ [] →
    mergeNameParts value = "; ".intercalate (others segments) ++ "; name=\"" ++
      String.join (values segments) ++ "\""
  unchanged : values segments = [] → mergeNameParts value = trim value
  cut : ∀ other otherSegments, ConsistsOf other otherSegments →
    others otherSegments = others segments →
      String.join (values otherSegments) = String.join (values segments) →
        ∀ env mail config body,
          partFiles env mail config { contentType := some other, bodyRaw := body } =
            partFiles env mail config { contentType := some value, bodyRaw := body }

section Segments

variable {part : Part}

theorem mem_inner {char : Char} (member : char ∈ part.inner.toList) :
    char = '"' ∨ char ∈ part.value.toList := by
  rw [Part.inner] at member
  split at member
  · simp at member
    tauto
  · exact .inr member

theorem mem_core {number : Nat} {char : Char} (member : char ∈ (part.core number).toList) :
    char ∈ ['n', 'a', 'm', 'e', '*', '=', '"', ';'] ∨ char.isDigit = true ∨
      char ∈ part.value.toList := by
  simp only [Part.core, String.toList_append, List.mem_append] at member
  rcases member with (((name | digit) | equal) | inner | semicolon)
  · simp at name
    simp
    tauto
  · have digits : char ∈ Nat.toDigits 10 number := by
      rwa [← Nat.toList_repr]
    exact .inr (.inl (Nat.isDigit_of_mem_toDigits (by decide) (by decide) digits))
  · simp at equal
    simp [equal]
  · rcases mem_inner inner with quote | value
    · simp [quote]
    · exact .inr (.inr value)
  · split at semicolon
    · simp at semicolon
      simp [semicolon]
    · cases semicolon

theorem solid_core (valid : part.Valid) (number : Nat) :
    ∀ char ∈ (part.core number).toList, isWhitespace char = false := by
  intro char member
  rcases mem_core member with fixed | digit | value
  · have solid : ['n', 'a', 'm', 'e', '*', '=', '"', ';'].any isWhitespace = false := by decide
    exact Bool.eq_false_iff.mpr (List.any_eq_false.mp solid char fixed)
  · exact isWhitespace_of_isDigit digit
  · exact (valid.plain char value).2.2

theorem trim_text (valid : part.Valid) (number : Nat) :
    trim (part.text number) = part.core number := by
  have nonempty : (part.core number).toList ≠ [] := by
    simp [Part.core]
  have trimmed := trim_append valid.before valid.after (solid_core valid number) nonempty
  rw [String.ofList_toList, ← String.toList_append, ← String.toList_append,
    String.ofList_toList] at trimmed
  exact trimmed

/-- A semicolon behind the value is dropped. -/
theorem drop_semicolon (valid : part.Valid) :
    (if endsWith (part.inner ++ if part.semicolon then ";" else "") ";" then
      pop (part.inner ++ if part.semicolon then ";" else "")
    else part.inner ++ if part.semicolon then ";" else "") = part.inner := by
  cases part.semicolon with
  | true =>
      rw [if_pos rfl, if_pos (endsWith_append _ _)]
      exact pop_append_singleton part.inner ';'
  | false =>
      have absent : ';' ∉ part.inner.toList := by
        intro member
        rcases mem_inner member with quote | value
        · cases quote
        · exact (valid.plain ';' value).2.1 rfl
      have ends : endsWith part.inner ";" = false := endsWith_of_not_mem absent
      rw [if_neg Bool.false_ne_true, String.append_empty, ends, if_neg Bool.false_ne_true]

/-- Quotes around the value are dropped. -/
theorem drop_quotes (valid : part.Valid) :
    (if 2 < part.inner.utf8ByteSize ∧ startsWith part.inner "\"" ∧ endsWith part.inner "\"" then
      pop (removeFirst part.inner)
    else part.inner) = part.value := by
  rw [Part.inner]
  cases part.quoted with
  | true =>
      have size : part.value.utf8ByteSize ≠ 0 := by
        rw [ne_eq, String.utf8ByteSize_eq_zero_iff]
        exact valid.nonempty
      have quote : "\"".utf8ByteSize = 1 := rfl
      rw [if_pos rfl, if_pos, String.append_assoc]
      · exact (congrArg pop (removeFirst_singleton_append '"' _)).trans
          (pop_append_singleton part.value '"')
      · refine ⟨?_, ?_, endsWith_append _ _⟩
        · rw [String.utf8ByteSize_append, String.utf8ByteSize_append, quote]
          omega
        · rw [String.append_assoc]
          exact startsWith_append _ _
  | false =>
      have absent : '"' ∉ part.value.toList := fun member => (valid.plain '"' member).1 rfl
      rw [if_neg Bool.false_ne_true, if_neg]
      rintro ⟨_, starts, _⟩
      exact Bool.false_ne_true ((startsWith_of_not_mem absent).symm.trans starts)

/-- The value of a part is cut out of its text. -/
theorem mergeSegment_part (valid : part.Valid) (state : MergeState) :
    mergeSegment state (part.text state.next) =
      { state with nameBuffer := state.nameBuffer ++ part.value, next := state.next + 1 } := by
  have stripped : stripPrefix (part.core state.next) ("name*" ++ toString state.next ++ "=") =
      some (part.inner ++ if part.semicolon then ";" else "") :=
    stripPrefix_eq_some_iff.mpr rfl
  simp only [mergeSegment, trim_text valid, stripped]
  rw [drop_semicolon valid, drop_quotes valid]

theorem mergeSegment_other {text : String} (valid : (Segment.other text).Valid)
    (state : MergeState) :
    mergeSegment state text =
      { state with
        outBuffer := if state.outBuffer = "" then text else state.outBuffer ++ "; " ++ text } := by
  have absent : stripPrefix (trim text) ("name*" ++ toString state.next ++ "=") = none := by
    rw [stripPrefix]
    exact if_neg (valid state.next)
  simp only [mergeSegment, absent]
  split_ifs <;> rfl

/-- The two buffers hold the other segments and the values of the parts. -/
theorem foldl_mergeSegment {segments : List Segment} (valid : ∀ segment ∈ segments, segment.Valid)
    {state : MergeState} (started : state.outBuffer ≠ "") :
    (render state.next segments).foldl mergeSegment state =
      { outBuffer := "; ".intercalate (state.outBuffer :: others segments)
        nameBuffer := state.nameBuffer ++ String.join (values segments)
        next := state.next + (values segments).length } := by
  induction segments generalizing state with
  | nil => simp [render, others, values]
  | cons segment segments ih =>
      have first := valid segment List.mem_cons_self
      have rest : ∀ segment ∈ segments, segment.Valid := fun other member =>
        valid other (List.mem_cons_of_mem _ member)
      cases segment with
      | part part =>
          have counted : state.next + 1 + (values segments).length =
              state.next + (values (.part part :: segments)).length := by
            rw [Nat.add_assoc, Nat.add_comm 1]
            rfl
          have merged := @ih rest { state with
            nameBuffer := state.nameBuffer ++ part.value, next := state.next + 1 } started
          rw [render, List.foldl_cons, @mergeSegment_part part first, merged, counted]
          simp [others, values, String.append_assoc]
      | other text =>
          have appended : state.outBuffer ++ "; " ++ text ≠ "" := by simp
          have merged := @ih rest { state with
            outBuffer := state.outBuffer ++ "; " ++ text } appended
          rw [render, List.foldl_cons, mergeSegment_other first, if_neg started, merged]
          simp [others, values, String.intercalate_cons_append, String.append_assoc]

end Segments

section Names

variable {value : String} {segments : List Segment}

theorem split_of_consistsOf (consists : ConsistsOf value segments) :
    split (trim value) "; " = render 0 segments := by
  rcases consists.mediaType with ⟨text, rest, rfl, _⟩
  rw [consists.text]
  apply split_intercalate (by decide) (List.cons_ne_nil _ _)
  intro piece member
  have separated := consists.separated piece member
  rw [contains, decide_eq_false_iff_not] at separated
  exact (clear_pair_iff (by decide)).mpr separated

theorem join_values_eq_empty_iff (valid : ∀ segment ∈ segments, segment.Valid) :
    String.join (values segments) = "" ↔ values segments = [] := by
  constructor
  · intro empty
    induction segments with
    | nil => rfl
    | cons segment segments ih =>
        cases segment with
        | part part =>
            have first : part.Valid := valid _ List.mem_cons_self
            simp [values] at empty
            exact absurd empty.1 first.nonempty
        | other text =>
            exact ih (fun other member => valid other (List.mem_cons_of_mem _ member)) empty
  · intro none
    rw [none, String.join_nil]

theorem mergeNameParts_of_consistsOf (consists : ConsistsOf value segments) :
    mergeNameParts value =
      if String.join (values segments) = "" then "; ".intercalate (others segments)
      else "; ".intercalate (others segments) ++ "; name=\"" ++ String.join (values segments) ++
        "\"" := by
  rw [mergeNameParts, split_of_consistsOf consists]
  rcases consists.mediaType with ⟨text, rest, rfl, nonempty⟩
  have first := consists.valid _ List.mem_cons_self
  have merged := @foldl_mergeSegment rest
    (fun segment member => consists.valid segment (List.mem_cons_of_mem _ member))
    { outBuffer := text, nameBuffer := "", next := 0 } nonempty
  rw [render, List.foldl_cons, mergeSegment_other first, if_pos rfl, merged, String.empty_append]
  rfl

theorem others_of_values_eq_nil (none : values segments = []) (number : Nat) :
    others segments = render number segments := by
  induction segments with
  | nil => rfl
  | cons segment segments ih =>
      cases segment with
      | part part => simp [values] at none
      | other text => exact congrArg (text :: ·) (ih none)

theorem mergesName_of_consistsOf (consists : ConsistsOf value segments) :
    MergesName value segments where
  merged some := by
    rw [mergeNameParts_of_consistsOf consists, if_neg]
    rwa [join_values_eq_empty_iff consists.valid]
  unchanged none := by
    rw [mergeNameParts_of_consistsOf consists,
      if_pos ((join_values_eq_empty_iff consists.valid).mpr none), others_of_values_eq_nil none 0,
      consists.text]
  cut other otherSegments otherConsists sameOthers sameName := by
    have same : mergeNameParts other = mergeNameParts value := by
      rw [mergeNameParts_of_consistsOf consists, mergeNameParts_of_consistsOf otherConsists,
        sameOthers, sameName]
    intro env mail config body
    simp only [partFiles, same]

/-- A file name which was cut within its extension. -/
theorem mergesName_of_consistsOf_sample :
    MergesName "application/octet-stream;  name*0=\"a.xm\"; name*1=l.gz;"
      [.other "application/octet-stream", .part ⟨" ", true, "a.xm", false, ""⟩,
        .part ⟨"", false, "l.gz", true, ""⟩] := by
  apply mergesName_of_consistsOf
  refine ⟨by decide +kernel, ⟨_, _, rfl, by decide⟩, ?_, by decide +kernel⟩
  intro segment member
  simp only [List.mem_cons, List.not_mem_nil, or_false] at member
  rcases member with rfl | rfl | rfl
  · intro number starts
    have trimmed : trim "application/octet-stream" = "application/octet-stream" := by
      decide +kernel
    have same := List.isPrefixOf_iff_prefix.mp starts
    rw [trimmed, String.append_assoc, String.toList_append] at same
    simp at same
  · exact ⟨by simp [isWhitespace], by simp, by decide, by simp [isWhitespace]⟩
  · exact ⟨by simp [isWhitespace], by simp, by decide, by simp [isWhitespace]⟩

end Names

end DmarcReportViewer.NameParts
