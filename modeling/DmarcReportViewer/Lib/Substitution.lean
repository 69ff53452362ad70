import DmarcReportViewer.Lib.Runs
import Mathlib.Data.List.Infix

/-!
# Textual substitution

A scan reads a text from left to right and cuts out what it finds, so that the text
becomes a list of letters and holes.  A template is filled by giving a value to every
hole.  Replacing a pattern is a scan for its occurrences, filled with the new text.
Replacing the texts of the holes one after the other fills a template as long as every
search finds the holes it is meant for and nothing else.
-/

namespace Substitution

open Runs

universe u v

/-- A piece of a template: a letter of the text around the holes, or a hole. -/
inductive Piece (α : Type u) (κ : Type v) where
  | letter (letter : α)
  | hole (label : κ)
deriving DecidableEq

variable {α : Type u} {κ : Type v}

/-- The labels of the holes, from left to right. -/
def holes (pieces : List (Piece α κ)) : List κ :=
  pieces.filterMap fun piece =>
    match piece with
    | .letter _ => none
    | .hole label => some label

section Scan

/-- The pieces of a text.  `find` tells what starts at the beginning of a text, with its
length; `skip` letters of what was found last are still to be passed over. -/
def scanAux (find : List α → Option (κ × ℕ)) : ℕ → List α → List (Piece α κ)
  | _, [] => []
  | skip + 1, _ :: rest => scanAux find skip rest
  | 0, letter :: rest =>
      match find (letter :: rest) with
      | some (label, length) => .hole label :: scanAux find (length - 1) rest
      | none => .letter letter :: scanAux find 0 rest

def scan (find : List α → Option (κ × ℕ)) (text : List α) : List (Piece α κ) :=
  scanAux find 0 text

variable {find : List α → Option (κ × ℕ)}

theorem scanAux_eq (skip : ℕ) (text : List α) :
    scanAux find skip text = scan find (text.drop skip) := by
  induction skip generalizing text with
  | zero => rfl
  | succ skip ih =>
      cases text with
      | nil => rfl
      | cons letter rest => exact ih rest

@[simp]
theorem scan_nil : scan find [] = [] :=
  rfl

theorem scan_cons_of_none {letter : α} {rest : List α} (nothing : find (letter :: rest) = none) :
    scan find (letter :: rest) = .letter letter :: scan find rest := by
  simp only [scan, scanAux, nothing]

theorem scan_cons_of_some {letter : α} {rest : List α} {label : κ} {length : ℕ}
    (found : find (letter :: rest) = some (label, length)) :
    scan find (letter :: rest) = .hole label :: scan find (rest.drop (length - 1)) := by
  rw [← scanAux_eq]
  simp only [scan, scanAux, found]

end Scan

section Fill

/-- The text in which every hole has its value. -/
def fill (value : κ → List α) (pieces : List (Piece α κ)) : List α :=
  pieces.flatMap fun piece =>
    match piece with
    | .letter letter => [letter]
    | .hole label => value label

variable {value : κ → List α} {find : List α → Option (κ × ℕ)}

@[simp]
theorem fill_nil : fill value [] = [] :=
  rfl

@[simp]
theorem fill_letter (letter : α) (pieces : List (Piece α κ)) :
    fill value (.letter letter :: pieces) = letter :: fill value pieces :=
  rfl

@[simp]
theorem fill_hole (label : κ) (pieces : List (Piece α κ)) :
    fill value (.hole label :: pieces) = value label ++ fill value pieces :=
  rfl

@[simp]
theorem fill_append (left right : List (Piece α κ)) :
    fill value (left ++ right) = fill value left ++ fill value right :=
  List.flatMap_append

@[simp]
theorem fill_map_letter (text : List α) : fill value (text.map .letter) = text := by
  induction text with
  | nil => rfl
  | cons letter text ih => rw [List.map_cons, fill_letter, ih]

/-- Only the values of the holes matter. -/
theorem fill_congr {other : κ → List α} {pieces : List (Piece α κ)}
    (same : ∀ label ∈ holes pieces, value label = other label) :
    fill value pieces = fill other pieces := by
  induction pieces with
  | nil => rfl
  | cons piece pieces ih =>
      cases piece with
      | letter letter => rw [fill_letter, fill_letter, ih same]
      | hole label =>
          rw [fill_hole, fill_hole, same label List.mem_cons_self,
            ih fun other member => same other (List.mem_cons_of_mem _ member)]

/-- The first hole behind a text tells the text from what follows. -/
theorem append_hole_eq_iff {pattern text : List α} (filled : pattern ≠ [])
    {found rest others : List (Piece α Unit)} (stands : fill (fun _ => pattern) found = text) :
    found ++ .hole () :: rest = text.map .letter ++ .hole () :: others ↔
      found = text.map .letter ∧ rest = others := by
  induction text generalizing found with
  | nil =>
      cases found with
      | nil => simp
      | cons piece found =>
          cases piece with
          | letter letter => cases stands
          | hole label => exact absurd (List.append_eq_nil_iff.mp stands).1 filled
  | cons letter text ih =>
      cases found with
      | nil => cases stands
      | cons piece found =>
          cases piece with
          | letter letter =>
              rw [fill_letter, List.cons.injEq] at stands
              rw [stands.1, List.cons_append, List.map_cons, List.cons_append, List.cons.injEq,
                List.cons.injEq, ih stands.2]
              simp
          | hole label => simp

/-- What a search finds is the text of its label, which is not empty. -/
structure FindsText (find : List α → Option (κ × ℕ)) (text : κ → List α) : Prop where
  starts : ∀ whole label length, find whole = some (label, length) →
    ∃ rest, whole = text label ++ rest
  length : ∀ whole label length, find whole = some (label, length) → length = (text label).length
  nonempty : ∀ whole label length, find whole = some (label, length) → text label ≠ []

/-- Filling the holes with the texts that were cut out gives the text back. -/
theorem fill_scan {text : κ → List α} (finds : FindsText find text) (whole : List α) :
    fill text (scan find whole) = whole := by
  induction long : whole.length using Nat.strongRecOn generalizing whole with
  | ind size ih =>
      cases whole with
      | nil => rfl
      | cons letter rest =>
          cases found : find (letter :: rest) with
          | none =>
              rw [scan_cons_of_none found, fill_letter, ih rest.length (by simp [← long]) rest rfl]
          | some result =>
              rcases result with ⟨label, length⟩
              rcases finds.starts _ _ _ found with ⟨after, whole⟩
              have size := finds.length _ _ _ found
              cases first : text label with
              | nil => exact absurd first (finds.nonempty _ _ _ found)
              | cons head tail =>
                  rw [first, List.cons_append] at whole
                  rw [first, List.length_cons] at size
                  cases whole
                  have shorter : after.length < (letter :: (tail ++ after)).length := by
                    rw [List.length_cons, List.length_append]
                    omega
                  rw [scan_cons_of_some found, fill_hole, size, Nat.add_sub_cancel, List.drop_left,
                    first, ih after.length (long ▸ shorter) after rfl, List.cons_append]

end Fill

section LeaveOpen

/-- A template with all its holes filled except for the chosen ones. -/
def leaveOpen (chosen : κ → Bool) (value : κ → List α) (pieces : List (Piece α κ)) :
    List (Piece α Unit) :=
  pieces.flatMap fun piece =>
    match piece with
    | .letter letter => [.letter letter]
    | .hole label => if chosen label then [.hole ()] else (value label).map .letter

variable {chosen : κ → Bool} {value : κ → List α} {pieces : List (Piece α κ)}

@[simp]
theorem leaveOpen_nil : leaveOpen chosen value ([] : List (Piece α κ)) = [] :=
  rfl

@[simp]
theorem leaveOpen_letter (letter : α) :
    leaveOpen chosen value (.letter letter :: pieces) =
      .letter letter :: leaveOpen chosen value pieces :=
  rfl

@[simp]
theorem leaveOpen_hole (label : κ) :
    leaveOpen chosen value (.hole label :: pieces) =
      (if chosen label then [.hole ()] else (value label).map .letter) ++
        leaveOpen chosen value pieces :=
  rfl

theorem fill_leaveOpen (new : List α) :
    fill (fun _ => new) (leaveOpen chosen value pieces) =
      fill (fun label => if chosen label then new else value label) pieces := by
  induction pieces with
  | nil => rfl
  | cons piece pieces ih =>
      cases piece with
      | letter letter => simp [ih]
      | hole label => cases open' : chosen label <;> simp [ih, open']

end LeaveOpen

section Replace

variable [DecidableEq α]

/-- Search for a pattern at the beginning of a text. -/
def findText (pattern text : List α) : Option (Unit × ℕ) :=
  if pattern.isPrefixOf text then some ((), pattern.length) else none

/-- A text with its occurrences of a pattern cut out, from left to right. -/
def occurrences (pattern text : List α) : List (Piece α Unit) :=
  scan (findText pattern) text

/-- Replace all occurrences of a pattern. -/
def replace (pattern new text : List α) : List α :=
  fill (fun _ => new) (occurrences pattern text)

variable {chosen : κ → Bool} {value : κ → List α} {pieces : List (Piece α κ)}

/-- A search for a pattern finds the pattern. -/
theorem findsText_findText {pattern : List α} (filled : pattern ≠ []) :
    FindsText (findText pattern) fun _ => pattern := by
  have starts : ∀ whole label length, findText pattern whole = some (label, length) →
      pattern <+: whole ∧ length = pattern.length := by
    intro whole label length found
    unfold findText at found
    split at found
    · next starts =>
        cases found
        exact ⟨List.isPrefixOf_iff_prefix.mp starts, rfl⟩
    · cases found
  constructor
  case starts =>
    intro whole label length found
    rcases (starts whole label length found).1 with ⟨rest, split⟩
    exact ⟨rest, split.symm⟩
  case length => exact fun whole label length found => (starts whole label length found).2
  case nonempty => exact fun _ _ _ _ => filled

section Occurrences

variable {pattern text rest : List α} {letter : α}

theorem occurrences_of_isPrefix (filled : pattern ≠ []) (rest : List α) :
    occurrences pattern (pattern ++ rest) = .hole () :: occurrences pattern rest := by
  cases pattern with
  | nil => exact absurd rfl filled
  | cons first pattern =>
      have found : findText (first :: pattern) (first :: (pattern ++ rest)) =
          some ((), pattern.length + 1) :=
        if_pos (List.isPrefixOf_iff_prefix.mpr (List.prefix_append (first :: pattern) rest))
      rw [occurrences, List.cons_append, scan_cons_of_some found, Nat.add_sub_cancel,
        List.drop_left, occurrences]

theorem occurrences_of_not_isPrefix (other : ¬ pattern <+: letter :: rest) :
    occurrences pattern (letter :: rest) = .letter letter :: occurrences pattern rest :=
  scan_cons_of_none (if_neg fun starts => other (List.isPrefixOf_iff_prefix.mp starts))

/-- A pattern is not found where it does not occur, and only there. -/
theorem occurrences_eq_map_letter_iff (filled : pattern ≠ []) :
    occurrences pattern text = text.map .letter ↔ ¬ pattern <:+: text := by
  induction text with
  | nil => simp [occurrences, filled]
  | cons letter rest ih =>
      rw [List.infix_cons_iff, not_or]
      by_cases starts : pattern <+: letter :: rest
      · rcases id starts with ⟨tail, split⟩
        have found := occurrences_of_isPrefix filled tail
        rw [split] at found
        rw [found, List.map_cons]
        simp [starts]
      · rw [occurrences_of_not_isPrefix starts, List.map_cons, List.cons.injEq, ih]
        simp [starts]

end Occurrences

/-- If a pattern occurs in a filled template at the chosen holes and nowhere else, then
replacing it fills these holes anew. -/
theorem replace_fill {pattern : List α}
    (exact : occurrences pattern (fill value pieces) = leaveOpen chosen value pieces)
    (new : List α) :
    replace pattern new (fill value pieces) =
      fill (fun label => if chosen label then new else value label) pieces := by
  rw [replace, exact, fill_leaveOpen]

end Replace

section Sequential

variable [DecidableEq κ] (text : κ → List α) (new : κ → Option (List α))
  (pieces : List (Piece α κ))

/-- What stands in a hole when the holes with some labels have been filled: the new text
of its label, if there is one, or the text that was there before. -/
def standing (done : List κ) (label : κ) : List α :=
  match new label with
  | some value => if label ∈ done then value else text label
  | none => text label

def partialFill (done : List κ) : List α :=
  fill (standing text new done) pieces

variable {text new} in
theorem standing_of_not_mem {done : List κ} {label : κ} (absent : label ∉ done) :
    standing text new done label = text label := by
  unfold standing
  cases new label with
  | none => rfl
  | some value => exact if_neg absent

variable {text new} in
theorem standing_eq_getD {done : List κ} {label : κ} (filled : (new label).isSome → label ∈ done) :
    standing text new done label = (new label).getD (text label) := by
  unfold standing
  cases outcome : new label with
  | none => rfl
  | some value => exact if_pos (filled (by rw [outcome]; rfl))

theorem partialFill_nil : partialFill text new pieces [] = fill text pieces := by
  apply fill_congr
  intro label _
  unfold standing
  cases new label <;> rfl

variable [DecidableEq α]

/-- Replace the text of a label, if there is a new one. -/
def replaceLabel (state : List α) (label : κ) : List α :=
  match new label with
  | some value => replace (text label) value state
  | none => state

/-- A search for the text of a label finds the holes with this label, unless they have
been filled already, and nothing else. -/
def FoundInPlace (state : List α) (done : List κ) (label : κ) : Prop :=
  occurrences (text label) state =
    leaveOpen (fun other => other = label ∧ label ∉ done) (standing text new done) pieces

variable {text new pieces}

theorem replaceLabel_partialFill {done : List κ} {label : κ}
    (found : (new label).isSome →
      FoundInPlace text new pieces (partialFill text new pieces done) done label) :
    replaceLabel text new (partialFill text new pieces done) label =
      partialFill text new pieces (done ++ [label]) := by
  unfold replaceLabel
  cases outcome : new label with
  | none =>
      apply fill_congr
      intro other _
      unfold standing
      by_cases same : other = label
      · rw [same, outcome]
      · simp [same]
  | some value =>
      refine (replace_fill (found (by rw [outcome]; rfl)) value).trans (fill_congr ?_)
      intro other _
      unfold standing
      by_cases same : other = label
      · subst same
        by_cases repeated : other ∈ done <;> simp [outcome, repeated]
      · simp [same]

/-- Replacing one label after the other fills the template, as long as each of them is
found in its holes only. -/
theorem foldl_replaceLabel {trace : List κ}
    (found : Explained (fun done label => (new label).isSome →
      done.foldl (replaceLabel text new) (fill text pieces) = partialFill text new pieces done →
        FoundInPlace text new pieces (partialFill text new pieces done) done label) trace) :
    trace.foldl (replaceLabel text new) (fill text pieces) = partialFill text new pieces trace := by
  induction trace using List.reverseRecOn with
  | nil => exact (partialFill_nil text new pieces).symm
  | append_singleton done label ih =>
      have before := ih found.init
      rw [List.foldl_append, before]
      exact replaceLabel_partialFill fun replaced => found.last replaced before

/-- Whether every search finds what it should can be told from the template. -/
theorem foundInPlace_foldl_iff {trace : List κ} :
    Explained (fun done label => (new label).isSome →
        FoundInPlace text new pieces (done.foldl (replaceLabel text new) (fill text pieces))
          done label) trace ↔
      Explained (fun done label => (new label).isSome →
        FoundInPlace text new pieces (partialFill text new pieces done) done label) trace := by
  constructor
  · intro found done label rest split replaced
    have earlier : done.foldl (replaceLabel text new) (fill text pieces) =
        partialFill text new pieces done := by
      subst split
      exact foldl_replaceLabel fun before other after inner replaced same =>
        same ▸ found.of_append before other after inner replaced
    exact earlier ▸ found done label rest split replaced
  · intro found done label rest split replaced
    have earlier : done.foldl (replaceLabel text new) (fill text pieces) =
        partialFill text new pieces done := by
      subst split
      exact foldl_replaceLabel fun before other after inner replaced _ =>
        found.of_append before other after inner replaced
    exact earlier ▸ found done label rest split replaced

end Sequential

end Substitution
