import DmarcReportViewer.Lib.Substitution
import Mathlib.Data.List.Infix

/-!
# Placeholders between marks

A placeholder is a name between an opening and a closing mark, which do not occur in the
name itself.  Placeholders do not overlap, so what is found of one of them between the
places of another one was there before these places were filled.
-/

namespace Substitution

universe u v

/-- Two marks which enclose the name of a placeholder. -/
structure Marks (α : Type u) where
  opening : α
  closing : α
  different : opening ≠ closing

variable {α : Type u} {κ : Type v} {marks : Marks α} {name other : List α}

/-- The name contains none of the marks. -/
structure Marks.Plain (marks : Marks α) (name : List α) : Prop where
  opening : marks.opening ∉ name
  closing : marks.closing ∉ name

def Marks.placeholder (marks : Marks α) (name : List α) : List α :=
  marks.opening :: (name ++ [marks.closing])

theorem Marks.placeholder_ne_nil (marks : Marks α) : marks.placeholder name ≠ [] :=
  List.cons_ne_nil _ _

section Marked

variable {mark : α} {before after : List α}

/-- A text without the mark which starts at the left of a mark ends there, too. -/
theorem isPrefix_of_not_mem {text : List α} (absent : mark ∉ text)
    (starts : text <+: before ++ mark :: after) : text <+: before := by
  induction before generalizing text with
  | nil =>
      cases text with
      | nil => exact List.nil_prefix
      | cons first text =>
          rw [List.nil_append, List.cons_prefix_cons] at starts
          exact absurd (starts.1 ▸ List.mem_cons_self) absent
  | cons first before ih =>
      cases text with
      | nil => exact List.nil_prefix
      | cons head text =>
          rw [List.cons_append, List.cons_prefix_cons] at starts
          rw [List.cons_prefix_cons]
          exact ⟨starts.1, ih (fun member => absent (List.mem_cons_of_mem _ member)) starts.2⟩

/-- A text which starts with a mark is found behind a text without it. -/
theorem isInfix_of_not_mem {text : List α} (absent : mark ∉ before)
    (found : mark :: text <:+: before ++ after) : mark :: text <:+: after := by
  induction before with
  | nil => exact found
  | cons first before ih =>
      rcases List.infix_cons_iff.mp found with starts | later
      · rw [List.cons_prefix_cons] at starts
        exact absurd (starts.1 ▸ List.mem_cons_self) absent
      · exact ih (fun member => absent (List.mem_cons_of_mem _ member)) later

/-- A mark ends a text without marks. -/
theorem eq_of_isPrefix {left right : List α} (leftPlain : mark ∉ left) (rightPlain : mark ∉ right)
    (starts : left ++ [mark] <+: right ++ mark :: after) : left = right := by
  induction left generalizing right with
  | nil =>
      cases right with
      | nil => rfl
      | cons first right =>
          rw [List.nil_append, List.cons_append, List.cons_prefix_cons] at starts
          exact absurd (starts.1 ▸ List.mem_cons_self) rightPlain
  | cons first left ih =>
      cases right with
      | nil =>
          rw [List.cons_append, List.nil_append, List.cons_prefix_cons] at starts
          exact absurd (starts.1 ▸ List.mem_cons_self) leftPlain
      | cons head right =>
          rw [List.cons_append, List.cons_append, List.cons_prefix_cons] at starts
          rw [starts.1, ih (fun member => leftPlain (List.mem_cons_of_mem _ member))
            (fun member => rightPlain (List.mem_cons_of_mem _ member)) starts.2]

end Marked

section Overlaps

variable {before after : List α}

theorem Marks.Plain.opening_not_mem (plain : marks.Plain name) :
    marks.opening ∉ name ++ [marks.closing] := by
  rw [List.mem_append, List.mem_singleton, not_or]
  exact ⟨plain.opening, marks.different⟩

/-- A placeholder which starts at the left of an opening mark ends there, too. -/
theorem Marks.Plain.isPrefix (plain : marks.Plain name) {first : α}
    (starts : marks.placeholder name <+: first :: before ++ marks.opening :: after) :
    marks.placeholder name <+: first :: before := by
  rw [Marks.placeholder, List.cons_append, List.cons_prefix_cons] at starts
  rw [Marks.placeholder, List.cons_prefix_cons]
  exact ⟨starts.1, isPrefix_of_not_mem plain.opening_not_mem starts.2⟩

/-- A placeholder does not overlap with another one. -/
theorem Marks.Plain.isInfix (plain : marks.Plain name) (otherPlain : marks.Plain other)
    (different : name ≠ other)
    (found : marks.placeholder name <:+: before ++ (marks.placeholder other ++ after)) :
    marks.placeholder name <:+: before ∨ marks.placeholder name <:+: after := by
  induction before with
  | nil =>
      right
      rw [List.nil_append, Marks.placeholder, Marks.placeholder, List.cons_append,
        List.infix_cons_iff, List.cons_prefix_cons] at found
      rcases found with ⟨_, starts⟩ | inside
      · rw [List.append_assoc, List.singleton_append] at starts
        exact absurd (eq_of_isPrefix plain.closing otherPlain.closing starts) different
      · exact isInfix_of_not_mem otherPlain.opening_not_mem inside
  | cons first before ih =>
      rcases List.infix_cons_iff.mp found with starts | later
      · left
        exact (plain.isPrefix starts).isInfix
      · rcases ih later with inBefore | inAfter
        · exact Or.inl (inBefore.trans (List.suffix_cons first before).isInfix)
        · exact Or.inr inAfter

end Overlaps

section Occurrences

variable [DecidableEq α] {before after : List α}

/-- Placeholders are found one by one. -/
theorem Marks.Plain.occurrences_append (plain : marks.Plain name) :
    occurrences (marks.placeholder name) (before ++ (marks.placeholder name ++ after)) =
      occurrences (marks.placeholder name) before ++
        .hole () :: occurrences (marks.placeholder name) after := by
  induction long : before.length using Nat.strongRecOn generalizing before with
  | ind size ih =>
      cases before with
      | nil => exact occurrences_of_isPrefix marks.placeholder_ne_nil after
      | cons first before =>
          by_cases starts : marks.placeholder name <+: first :: before
          · rcases starts with ⟨rest, split⟩
            have shorter : rest.length < size := by
              rw [← long, ← split, List.length_append, Marks.placeholder, List.length_cons]
              omega
            rw [← split, List.append_assoc, occurrences_of_isPrefix marks.placeholder_ne_nil,
              occurrences_of_isPrefix marks.placeholder_ne_nil, ih rest.length shorter rfl,
              List.cons_append]
          · have none : ¬ marks.placeholder name <+:
                first :: (before ++ (marks.placeholder name ++ after)) :=
              fun found => starts (plain.isPrefix found)
            rw [List.cons_append, occurrences_of_not_isPrefix none,
              occurrences_of_not_isPrefix starts, ih before.length (by simp [← long]) rfl,
              List.cons_append]

end Occurrences

section Between

variable {pattern : List α} {chosen : κ → Bool} {value : κ → List α}

/-- The pattern does not occur between the chosen holes of a template, nor before the first
or after the last one.  `before` is the text since the last chosen hole. -/
def NoneBetween (pattern : List α) (chosen : κ → Bool) (value : κ → List α) :
    List α → List (Piece α κ) → Prop
  | before, [] => ¬ pattern <:+: before
  | before, .letter letter :: rest => NoneBetween pattern chosen value (before ++ [letter]) rest
  | before, .hole label :: rest =>
      if chosen label then ¬ pattern <:+: before ∧ NoneBetween pattern chosen value [] rest
      else NoneBetween pattern chosen value (before ++ value label) rest

/-- Where another filling of the other holes does not make up more occurrences of the
pattern, it does not occur between the chosen holes either. -/
theorem NoneBetween.of_separating {less : κ → List α} {before fewer : List α}
    {pieces : List (Piece α κ)} (none : NoneBetween pattern chosen value before pieces)
    (carries : ∀ after, pattern <:+: fewer ++ after → pattern <:+: before ++ after)
    (separates : ∀ label, less label = value label ∨ ∀ left right,
      pattern <:+: left ++ (less label ++ right) → pattern <:+: left ∨ pattern <:+: right) :
    NoneBetween pattern chosen less fewer pieces := by
  induction pieces generalizing before fewer with
  | nil =>
      intro found
      have more := carries [] (by rwa [List.append_nil])
      rw [List.append_nil] at more
      exact none more
  | cons piece pieces ih =>
      cases piece with
      | letter letter =>
          refine ih none fun after found => ?_
          rw [List.append_assoc] at found ⊢
          exact carries _ found
      | hole label =>
          rw [NoneBetween] at none ⊢
          cases open' : chosen label with
          | true =>
              rw [if_pos open'] at none
              refine ⟨fun found => none.1 ?_, ih none.2 fun after found => found⟩
              have more := carries [] (by rwa [List.append_nil])
              rwa [List.append_nil] at more
          | false =>
              rw [if_neg (by simp [open'])] at none ⊢
              refine ih none fun after found => ?_
              rw [List.append_assoc] at found ⊢
              rcases separates label with same | separate
              · exact carries _ (same ▸ found)
              · rcases separate _ _ found with left | right
                · have more := carries [] (by rwa [List.append_nil])
                  rw [List.append_nil] at more
                  exact more.trans (List.prefix_append _ _).isInfix
                · rw [← List.append_assoc]
                  exact right.trans (List.suffix_append _ _).isInfix

variable [DecidableEq α]

/-- A placeholder is found at the chosen holes and nowhere else if and only if it does not
occur between them. -/
theorem Marks.Plain.occurrences_fill_iff (plain : marks.Plain name)
    (stands : ∀ label, chosen label = true → value label = marks.placeholder name)
    (before : List α) (pieces : List (Piece α κ)) :
    occurrences (marks.placeholder name) (before ++ fill value pieces) =
        before.map .letter ++ leaveOpen chosen value pieces ↔
      NoneBetween (marks.placeholder name) chosen value before pieces := by
  induction pieces generalizing before with
  | nil =>
      rw [fill_nil, leaveOpen_nil, List.append_nil, List.append_nil]
      exact occurrences_eq_map_letter_iff marks.placeholder_ne_nil
  | cons piece pieces ih =>
      cases piece with
      | letter letter =>
          rw [NoneBetween, ← ih]
          simp
      | hole label =>
          rw [NoneBetween, fill_hole, leaveOpen_hole]
          cases open' : chosen label with
          | false =>
              simp only [Bool.false_eq_true, if_false]
              rw [← ih]
              simp
          | true =>
              have again : fill (fun _ => marks.placeholder name)
                  (occurrences (marks.placeholder name) before) = before :=
                fill_scan (findsText_findText marks.placeholder_ne_nil) before
              rw [if_pos rfl, if_pos rfl, stands label open', plain.occurrences_append,
                List.singleton_append, append_hole_eq_iff marks.placeholder_ne_nil again,
                occurrences_eq_map_letter_iff marks.placeholder_ne_nil, ← ih]
              simp

end Between

end Substitution
