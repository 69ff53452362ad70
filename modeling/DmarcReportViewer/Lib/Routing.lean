import Mathlib.Data.List.Basic

/-!
# Routers

A router finds the route of a path which is given by its segments.  A segment of a route is
a literal, it captures one segment of the path, or it captures the rest of the path.  At
every segment literals are preferred to captures, and captures to a rest.
-/

namespace Routing

universe u

variable {ε : Type u}

inductive Segment where
  | literal (text : String)
  | capture
  | rest
deriving DecidableEq

/-- A segment which is not literal. -/
def Segment.isOpen : Segment → Bool
  | .literal _ => false
  | .capture => true
  | .rest => true

abbrev Pattern : Type :=
  List Segment

/-- What a pattern captures of a path which it matches.  A capture which ends the path is not
empty. -/
def captures : Pattern → List String → Option (List String)
  | [], [] => some []
  | [.rest], segment :: path =>
      if segment = "" ∧ path = [] then none else some ["/".intercalate (segment :: path)]
  | .literal text :: pattern, segment :: path =>
      if text = segment then captures pattern path else none
  | .capture :: pattern, segment :: path =>
      if segment = "" ∧ path = [] then none else (captures pattern path).map (segment :: ·)
  | _, _ => none

/-- The routes which go on with a segment, behind this segment. -/
def advance (segment : Segment) (routes : List (Pattern × ε)) : List (Pattern × ε) :=
  routes.filterMap fun route =>
    match route.1 with
    | [] => none
    | first :: pattern => if first = segment then some (pattern, route.2) else none

/-- The route of a path and what it captures. -/
def resolve : List (Pattern × ε) → List String → Option (ε × List String)
  | routes, [] => (routes.find? fun route => route.1 = []).map fun route => (route.2, [])
  | routes, segment :: path =>
      match resolve (advance (.literal segment) routes) path with
      | some found => some found
      | none =>
          if segment = "" ∧ path = [] then
            none
          else
            match resolve (advance .capture routes) path with
            | some (route, captured) => some (route, segment :: captured)
            | none =>
                (routes.find? fun route => route.1 = [.rest]).map fun route =>
                  (route.2, ["/".intercalate (segment :: path)])

variable {routes : List (Pattern × ε)} {path : List String}

theorem mem_advance_iff {segment : Segment} {pattern : Pattern} {route : ε} :
    (pattern, route) ∈ advance segment routes ↔ (segment :: pattern, route) ∈ routes := by
  simp only [advance, List.mem_filterMap]
  constructor
  · rintro ⟨⟨whole, other⟩, member, found⟩
    cases whole with
    | nil => cases found
    | cons first rest =>
        simp only [Option.ite_none_right_eq_some, Option.some.injEq, Prod.mk.injEq] at found
        rcases found with ⟨rfl, rfl, rfl⟩
        exact member
  · intro member
    exact ⟨(segment :: pattern, route), member, by simp⟩

/-- Every open segment captures one text. -/
theorem length_captures {pattern : Pattern} {captured : List String}
    (matched : captures pattern path = some captured) :
    captured.length = (pattern.filter Segment.isOpen).length := by
  fun_induction captures pattern path generalizing captured with
  | case1 => cases matched; rfl
  | case2 => cases matched
  | case3 => cases matched; rfl
  | case4 text pattern path ih => simpa [Segment.isOpen] using ih matched
  | case5 => cases matched
  | case6 => cases matched
  | case7 pattern segment path nonempty ih =>
      rcases Option.map_eq_some_iff.mp matched with ⟨rest, found, rfl⟩
      simpa [List.filter_cons, Segment.isOpen] using ih found
  | case8 => cases matched

/-- The route which was found matches the path. -/
theorem captures_of_resolve {route : ε} {captured : List String}
    (found : resolve routes path = some (route, captured)) :
    ∃ pattern, (pattern, route) ∈ routes ∧ captures pattern path = some captured := by
  induction path generalizing routes captured with
  | nil =>
      rcases Option.map_eq_some_iff.mp found with ⟨⟨pattern, other⟩, listed, same⟩
      cases same
      have empty : pattern = [] := by simpa using List.find?_some listed
      subst empty
      exact ⟨[], List.mem_of_find?_eq_some listed, rfl⟩
  | cons segment path ih =>
      rw [resolve] at found
      split at found
      · next literal =>
          cases found
          rcases ih literal with ⟨pattern, member, matched⟩
          refine ⟨_, mem_advance_iff.mp member, ?_⟩
          rw [captures, if_pos rfl, matched]
      · split at found
        · cases found
        · next nonempty =>
            split at found
            · next other rest capture =>
                cases found
                rcases ih capture with ⟨pattern, member, matched⟩
                refine ⟨_, mem_advance_iff.mp member, ?_⟩
                rw [captures, if_neg nonempty, matched, Option.map_some]
            · rcases Option.map_eq_some_iff.mp found with ⟨⟨pattern, other⟩, listed, same⟩
              cases same
              have last : pattern = [.rest] := by simpa using List.find?_some listed
              subst last
              refine ⟨[.rest], List.mem_of_find?_eq_some listed, ?_⟩
              rw [captures, if_neg nonempty]

/-- A path which some route matches is resolved. -/
theorem resolve_isSome {pattern : Pattern} {route : ε} (member : (pattern, route) ∈ routes)
    (matched : (captures pattern path).isSome) : (resolve routes path).isSome := by
  induction path generalizing routes pattern with
  | nil =>
      have empty : pattern = [] := by
        cases pattern with
        | nil => rfl
        | cons first pattern => cases first <;> simp [captures] at matched
      subst empty
      rw [resolve, Option.isSome_map, List.find?_isSome]
      exact ⟨_, member, by simp⟩
  | cons segment path ih =>
      rw [resolve]
      split
      · rfl
      · next literal =>
          cases pattern with
          | nil => simp [captures] at matched
          | cons first pattern =>
              cases first with
              | literal text =>
                  rw [captures] at matched
                  split at matched
                  · next same =>
                      subst same
                      have found := ih (mem_advance_iff.mpr member) matched
                      rw [literal] at found
                      cases found
                  · cases matched
              | capture =>
                  rw [captures] at matched
                  split at matched
                  · cases matched
                  · next nonempty =>
                      rw [if_neg nonempty]
                      have found := ih (mem_advance_iff.mpr member) (by simpa using matched)
                      rcases Option.isSome_iff_exists.mp found with ⟨⟨route, captured⟩, capture⟩
                      rw [capture]
                      rfl
              | rest =>
                  cases pattern with
                  | cons next pattern => simp [captures] at matched
                  | nil =>
                      rw [captures] at matched
                      split at matched
                      · cases matched
                      · next nonempty =>
                          rw [if_neg nonempty]
                          split
                          · rfl
                          · rw [Option.isSome_map, List.find?_isSome]
                            exact ⟨_, member, by simp⟩

end Routing
