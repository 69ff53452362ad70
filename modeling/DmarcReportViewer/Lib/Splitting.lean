import DmarcReportViewer.Lib.Text

/-!
# Splitting what was joined

A text which was joined from pieces is split into these pieces again, if the separator
does not begin within one of them.
-/

namespace Text

/-- The separator does not begin within a piece, also if it follows the piece. -/
def Clear (separator piece : List Char) : Prop :=
  ∀ suffix, suffix <:+ piece → suffix ≠ [] → ¬ separator <+: suffix ++ separator

section Pieces

variable {separator piece rest : List Char}

theorem Clear.tail {char : Char} (clear : Clear separator (char :: piece)) :
    Clear separator piece :=
  fun suffix tail => clear suffix (tail.trans (List.suffix_cons _ _))

/-- The separator does not begin with the first character of a piece. -/
theorem Clear.not_prefix {char : Char} (clear : Clear separator (char :: piece)) :
    ¬ separator <+: char :: (piece ++ separator ++ rest) := by
  intro starts
  apply clear (char :: piece) (List.suffix_refl _) (List.cons_ne_nil _ _)
  apply List.prefix_of_prefix_length_le starts
  · exact ⟨rest, by simp⟩
  · rw [List.length_append, List.length_cons]
    omega

theorem clear_singleton_iff {char : Char} : Clear [char] piece ↔ char ∉ piece := by
  constructor
  · intro clear member
    rcases List.append_of_mem member with ⟨before, after, rfl⟩
    exact clear (char :: after) (List.suffix_append _ _) (List.cons_ne_nil _ _)
      ⟨after ++ [char], rfl⟩
  · intro absent suffix tail nonempty starts
    cases suffix with
    | nil => exact nonempty rfl
    | cons first others =>
        cases (List.cons_prefix_cons.mp starts).1
        exact absent (tail.subset List.mem_cons_self)

/-- A separator of two different characters does not overlap with itself. -/
theorem clear_pair_iff {first second : Char} (distinct : first ≠ second) :
    Clear [first, second] piece ↔ ¬ [first, second] <:+: piece := by
  constructor
  · rintro clear ⟨before, after, rfl⟩
    refine clear (first :: second :: after) ⟨before, by simp⟩ (List.cons_ne_nil _ _) ?_
    exact ⟨after ++ [first, second], rfl⟩
  · intro absent suffix tail nonempty starts
    cases suffix with
    | nil => exact nonempty rfl
    | cons char others =>
        cases others with
        | nil =>
            have next := (List.cons_prefix_cons.mp (List.cons_prefix_cons.mp starts).2).1
            exact distinct next.symm
        | cons next others =>
            cases (List.cons_prefix_cons.mp starts).1
            cases (List.cons_prefix_cons.mp (List.cons_prefix_cons.mp starts).2).1
            exact absent (List.IsInfix.trans ⟨[], others, rfl⟩ tail.isInfix)

/-- A separator which was found is passed over. -/
theorem splitAux_skip (passed : List Char) (piece : List Char) :
    splitAux separator passed.length piece (passed ++ rest) = splitAux separator 0 piece rest := by
  induction passed with
  | nil => rfl
  | cons char passed ih => exact ih

theorem splitAux_separator (nonempty : separator ≠ []) (piece : List Char) :
    splitAux separator 0 piece (separator ++ rest) =
      piece.reverse :: splitAux separator 0 [] rest := by
  cases separator with
  | nil => exact absurd rfl nonempty
  | cons char separator =>
      have starts : (char :: separator).isPrefixOf (char :: (separator ++ rest)) = true :=
        List.isPrefixOf_iff_prefix.mpr ⟨rest, rfl⟩
      rw [List.cons_append, splitAux, if_pos starts]
      exact congrArg _ (splitAux_skip separator [])

theorem splitAux_append (nonempty : separator ≠ []) (clear : Clear separator piece)
    (before : List Char) :
    splitAux separator 0 before (piece ++ separator ++ rest) =
      (before.reverse ++ piece) :: splitAux separator 0 [] rest := by
  induction piece generalizing before with
  | nil => rw [List.nil_append, List.append_nil, splitAux_separator nonempty]
  | cons char piece ih =>
      have absent : ¬ separator.isPrefixOf (char :: (piece ++ separator ++ rest)) = true := by
        rw [List.isPrefixOf_iff_prefix]
        exact clear.not_prefix
      rw [List.cons_append, List.cons_append, splitAux, if_neg absent, ih clear.tail]
      simp

theorem splitAux_last (clear : Clear separator piece) (before : List Char) :
    splitAux separator 0 before piece = [before.reverse ++ piece] := by
  induction piece generalizing before with
  | nil => simp [splitAux]
  | cons char piece ih =>
      have absent : ¬ separator.isPrefixOf (char :: piece) = true := by
        rw [List.isPrefixOf_iff_prefix]
        intro starts
        exact clear (char :: piece) (List.suffix_refl _) (List.cons_ne_nil _ _)
          (starts.trans (List.prefix_append _ _))
      rw [splitAux, if_neg absent, ih clear.tail]
      simp

theorem splitAux_intercalate (nonempty : separator ≠ []) {pieces : List (List Char)}
    (some : pieces ≠ []) (clear : ∀ piece ∈ pieces, Clear separator piece) :
    splitAux separator 0 [] (separator.intercalate pieces) = pieces := by
  induction pieces with
  | nil => exact absurd rfl some
  | cons piece pieces ih =>
      have first := clear piece List.mem_cons_self
      cases pieces with
      | nil =>
          rw [List.intercalate_singleton, splitAux_last first, List.reverse_nil, List.nil_append]
      | cons next pieces =>
          rw [List.intercalate_cons_cons, splitAux_append nonempty first,
            ih (List.cons_ne_nil _ _) fun other member =>
              clear other (List.mem_cons_of_mem _ member)]
          rfl

end Pieces

section Texts

theorem split_intercalate {separator : String} (nonempty : separator ≠ "") {pieces : List String}
    (some : pieces ≠ []) (clear : ∀ piece ∈ pieces, Clear separator.toList piece.toList) :
    split (separator.intercalate pieces) separator = pieces := by
  have list : separator.toList ≠ [] := by simpa using nonempty
  rw [split, String.toList_intercalate, splitAux_intercalate list (by simpa using some)
    (by simpa using clear), List.map_map]
  simp

theorem splitOnce_eq_none_of_not_mem {text : String} {separator : Char}
    (absent : separator ∉ text.toList) : splitOnce text separator = none := by
  cases found : splitOnce text separator with
  | none => rfl
  | some parts =>
      rw [splitOnce_eq_some found] at absent
      exact absurd (List.mem_append_right _ List.mem_cons_self) absent

theorem mem_intercalate {separator : List Char} {pieces : List (List Char)} {char : Char}
    (member : char ∈ separator.intercalate pieces) :
    char ∈ separator ∨ ∃ piece ∈ pieces, char ∈ piece := by
  induction pieces with
  | nil => exact absurd member List.not_mem_nil
  | cons piece pieces ih =>
      cases pieces with
      | nil =>
          rw [List.intercalate_singleton] at member
          exact .inr ⟨piece, List.mem_cons_self, member⟩
      | cons next pieces =>
          rw [List.intercalate_cons_cons, List.mem_append, List.mem_append] at member
          rcases member with (inPiece | inSeparator) | later
          · exact .inr ⟨piece, List.mem_cons_self, inPiece⟩
          · exact .inl inSeparator
          · rcases ih later with inSeparator | ⟨other, inRest, inOther⟩
            · exact .inl inSeparator
            · exact .inr ⟨other, List.mem_cons_of_mem _ inRest, inOther⟩

theorem not_mem_splitAux {char : Char} {before text piece : List Char}
    (absent : char ∉ before) (found : piece ∈ splitAux [char] 0 before text) : char ∉ piece := by
  induction text generalizing before with
  | nil =>
      rw [splitAux, List.mem_singleton] at found
      rw [found, List.mem_reverse]
      exact absent
  | cons next text ih =>
      rw [splitAux] at found
      split at found
      · rcases List.mem_cons.mp found with rfl | later
        · rwa [List.mem_reverse]
        · exact ih List.not_mem_nil later
      · next other =>
          refine ih ?_ found
          rw [List.isPrefixOf_iff_prefix, List.cons_prefix_cons] at other
          rw [List.mem_cons, not_or]
          exact ⟨fun same => other ⟨same, List.nil_prefix⟩, absent⟩

theorem mem_of_mem_splitAux {separator before text piece : List Char} {skip : Nat} {char : Char}
    (found : piece ∈ splitAux separator skip before text) (member : char ∈ piece) :
    char ∈ before ∨ char ∈ text := by
  induction text generalizing skip before with
  | nil =>
      rw [splitAux, List.mem_singleton] at found
      rw [found, List.mem_reverse] at member
      exact .inl member
  | cons next text ih =>
      cases skip with
      | succ skip => exact (ih found).imp_right (List.mem_cons_of_mem _)
      | zero =>
          rw [splitAux] at found
          split at found
          · rcases List.mem_cons.mp found with rfl | later
            · exact .inl (List.mem_reverse.mp member)
            · exact .inr (List.mem_cons_of_mem _ ((ih later).resolve_left List.not_mem_nil))
          · rcases ih found with inPiece | inRest
            · rcases List.mem_cons.mp inPiece with rfl | inBefore
              · exact .inr List.mem_cons_self
              · exact .inl inBefore
            · exact .inr (List.mem_cons_of_mem _ inRest)

/-- The pieces consist of characters of the text. -/
theorem mem_of_mem_split {text separator piece : String} {char : Char}
    (found : piece ∈ split text separator) (member : char ∈ piece.toList) :
    char ∈ text.toList := by
  rcases List.mem_map.mp found with ⟨chars, inPieces, rfl⟩
  rw [String.toList_ofList] at member
  exact (mem_of_mem_splitAux inPieces member).resolve_left List.not_mem_nil

/-- The pieces between the occurrences of a character do not contain it. -/
theorem not_mem_split {char : Char} {text separator piece : String}
    (single : separator.toList = [char]) (found : piece ∈ split text separator) :
    char ∉ piece.toList := by
  rcases List.mem_map.mp found with ⟨chars, member, rfl⟩
  rw [String.toList_ofList]
  rw [single] at member
  exact not_mem_splitAux List.not_mem_nil member

theorem splitAux_ne_nil {separator before text : List Char} {skip : Nat} :
    splitAux separator skip before text ≠ [] := by
  induction text generalizing skip before with
  | nil => simp [splitAux]
  | cons next text ih =>
      cases skip with
      | succ skip => exact ih
      | zero =>
          rw [splitAux]
          split
          · exact List.cons_ne_nil _ _
          · exact ih

theorem split_ne_nil {text separator : String} : split text separator ≠ [] := by
  simp [split, splitAux_ne_nil]

theorem intercalate_splitAux (char : Char) (before text : List Char) :
    [char].intercalate (splitAux [char] 0 before text) = before.reverse ++ text := by
  induction text generalizing before with
  | nil => simp [splitAux]
  | cons next text ih =>
      rw [splitAux]
      split
      · next starts =>
          have same : char = next := by simpa using starts
          rcases List.exists_cons_of_ne_nil (@splitAux_ne_nil [char] [] text 0) with
            ⟨first, rest, pieces⟩
          have joined := ih []
          rw [pieces] at joined
          subst same
          rw [List.length_singleton, Nat.sub_self, pieces, List.intercalate_cons_cons, joined]
          simp
      · rw [ih]
        simp

/-- The pieces between the occurrences of a character make up the text. -/
theorem intercalate_split {char : Char} {separator : String} (single : separator.toList = [char])
    (text : String) : separator.intercalate (split text separator) = text := by
  apply String.toList_inj.mp
  rw [String.toList_intercalate, split, List.map_map, single]
  have pieces : (splitAux [char] 0 [] text.toList).map (String.toList ∘ String.ofList) =
      splitAux [char] 0 [] text.toList := by
    apply List.map_id''
    intro piece
    exact String.toList_ofList
  rw [pieces, intercalate_splitAux]
  rfl

end Texts

end Text
