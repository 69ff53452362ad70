import DmarcReportViewer.Ui.LinkEncoding

/-!
# The parameters of a route

The parameters which are found behind a route are found again if they are written behind
a route.  Setting or deleting one of them leaves the others as they are.
-/

namespace DmarcReportViewer.Ui

open Text Forms

/-- A text which stands between the delimiters of a route. -/
def Delimited (text : String) : Prop :=
  ∀ char ∈ text.toList, keptInFragment char = true ∧ char ≠ '&' ∧ char ≠ '='

/-- The parameters have different names, and no part of them is mistaken for a delimiter. -/
structure RouteParams (params : Params) : Prop where
  nodup : (params.map Prod.fst).Nodup
  delimited : ∀ param ∈ params, Delimited param.1 ∧ Delimited param.2

def deleteParam (params : Params) (name : String) : Params :=
  params.filter fun param => param.1 ≠ name

section Values

variable {params : Params} {name other value : String}

theorem setParam_of_absent (absent : name ∉ params.map Prod.fst) :
    setParam params name value = params ++ [(name, value)] := by
  have none : ¬ (params.any fun param => param.1 = name) = true := by
    rw [List.any_eq_true]
    rintro ⟨param, member, same⟩
    exact absent (List.mem_map.mpr ⟨param, member, of_decide_eq_true same⟩)
  rw [setParam, if_neg none]

theorem setParam_of_present (present : name ∈ params.map Prod.fst) :
    setParam params name value =
      params.map fun param => if param.1 = name then (name, value) else param := by
  have found : (params.any fun param => param.1 = name) = true := by
    rcases List.mem_map.mp present with ⟨param, member, same⟩
    exact List.any_eq_true.mpr ⟨param, member, decide_eq_true same⟩
  rw [setParam, if_pos found]

theorem names_setParam_of_present (present : name ∈ params.map Prod.fst) :
    (setParam params name value).map Prod.fst = params.map Prod.fst := by
  rw [setParam_of_present present, List.map_map]
  apply List.map_congr_left
  intro param _
  by_cases same : param.1 = name <;> simp [same]

theorem lookup_cons_of_ne (different : other ≠ name) (value : String) (params : Params) :
    ((name, value) :: params).lookup other = params.lookup other := by
  rw [List.lookup_cons, beq_false_of_ne different]

theorem lookup_append_of_absent (absent : name ∉ params.map Prod.fst) (rest : Params) :
    (params ++ rest).lookup name = rest.lookup name := by
  induction params with
  | nil => rfl
  | cons param params ih =>
      rw [List.map_cons, List.mem_cons, not_or] at absent
      rw [List.cons_append, lookup_cons_of_ne absent.1, ih absent.2]

theorem lookup_setParam (params : Params) (name value : String) :
    (setParam params name value).lookup name = some value := by
  by_cases present : name ∈ params.map Prod.fst
  · rw [setParam_of_present present]
    induction params with
    | nil => cases present
    | cons param params ih =>
        rw [List.map_cons]
        by_cases same : param.1 = name
        · rw [if_pos same, List.lookup_cons_self]
        · rw [List.map_cons, List.mem_cons] at present
          rw [if_neg same, lookup_cons_of_ne (Ne.symm same)]
          exact ih (present.resolve_left (Ne.symm same))
  · rw [setParam_of_absent present, lookup_append_of_absent present, List.lookup_cons_self]

theorem lookup_setParam_of_ne (different : other ≠ name) :
    (setParam params name value).lookup other = params.lookup other := by
  by_cases present : name ∈ params.map Prod.fst
  · rw [setParam_of_present present]
    clear present
    induction params with
    | nil => rfl
    | cons param params ih =>
        rw [List.map_cons]
        by_cases same : param.1 = name
        · rw [if_pos same, lookup_cons_of_ne different, lookup_cons_of_ne (same ▸ different), ih]
        · rw [if_neg same, List.lookup_cons, List.lookup_cons, ih]
  · rw [setParam_of_absent present]
    clear present
    induction params with
    | nil => exact lookup_cons_of_ne different _ _
    | cons param params ih => rw [List.cons_append, List.lookup_cons, List.lookup_cons, ih]

end Values

section RoundTrip

variable {params : Params}

theorem RouteParams.setParam (wellFormed : RouteParams params) {name value : String}
    (delimited : Delimited name ∧ Delimited value) : RouteParams (setParam params name value) := by
  by_cases present : name ∈ params.map Prod.fst
  · constructor
    · rw [names_setParam_of_present present]
      exact wellFormed.nodup
    · rw [setParam_of_present present]
      intro param member
      rcases List.mem_map.mp member with ⟨source, inParams, rfl⟩
      split
      · exact delimited
      · exact wellFormed.delimited source inParams
  · rw [setParam_of_absent present]
    constructor
    · rw [List.map_append, List.nodup_append]
      refine ⟨wellFormed.nodup, List.nodup_singleton _, ?_⟩
      intro first inNames second inLast same
      rw [List.map_singleton, List.mem_singleton] at inLast
      rw [same, inLast] at inNames
      exact present inNames
    · intro param member
      rcases List.mem_append.mp member with inParams | inLast
      · exact wellFormed.delimited param inParams
      · rw [List.mem_singleton.mp inLast]
        exact delimited

theorem split_pairText {param : String × String}
    (delimited : Delimited param.1 ∧ Delimited param.2) :
    split (pairText param) "=" = [param.1, param.2] := by
  have clear : ∀ piece ∈ [param.1, param.2], Clear "=".toList piece.toList := by
    intro piece member
    change Clear ['='] _
    rw [clear_singleton_iff]
    simp only [List.mem_cons, List.not_mem_nil, or_false] at member
    rcases member with rfl | rfl
    · exact fun sign => (delimited.1 '=' sign).2.2 rfl
    · exact fun sign => (delimited.2 '=' sign).2.2 rfl
  have found := split_intercalate (by decide) (List.cons_ne_nil _ _) clear
  rwa [String.intercalate_cons_cons, String.intercalate_singleton] at found

/-- Parameters which were joined are added one after the other. -/
theorem foldl_addParam (delimited : ∀ param ∈ params, Delimited param.1 ∧ Delimited param.2)
    {before : Params} (nodup : ((before ++ params).map Prod.fst).Nodup) :
    (params.map pairText).foldl addParam before = before ++ params := by
  induction params generalizing before with
  | nil => exact (List.append_nil before).symm
  | cons param params ih =>
      have first := split_pairText (delimited param List.mem_cons_self)
      have absent : param.1 ∉ before.map Prod.fst := by
        rw [List.map_append, List.nodup_append] at nodup
        exact fun member => nodup.2.2 _ member _ List.mem_cons_self rfl
      have whole : before ++ param :: params = before ++ [param] ++ params := by simp
      rw [List.map_cons, List.foldl_cons, addParam, first, whole]
      change (params.map pairText).foldl addParam (Ui.setParam before param.1 param.2) = _
      rw [setParam_of_absent absent]
      exact ih (fun other member => delimited other (List.mem_cons_of_mem _ member))
        (whole ▸ nodup)

theorem keptInFragment_join (wellFormed : RouteParams params) :
    ∀ char ∈ (join params).toList, keptInFragment char = true := by
  intro char member
  rw [join, String.toList_intercalate] at member
  rcases mem_intercalate member with separator | ⟨piece, inPieces, inPiece⟩
  · rw [List.mem_singleton.mp separator]
    decide
  · simp only [List.map_map, List.mem_map] at inPieces
    rcases inPieces with ⟨param, inParams, rfl⟩
    have delimited := wellFormed.delimited param inParams
    simp only [Function.comp_apply, pairText, String.toList_append, List.mem_append] at inPiece
    rcases inPiece with (inName | sign) | inValue
    · exact (delimited.1 char inName).1
    · rw [List.mem_singleton.mp sign]
      decide
    · exact (delimited.2 char inValue).1

theorem split_join (wellFormed : RouteParams params) (some : params ≠ []) :
    split (join params) "&" = params.map pairText := by
  apply split_intercalate (by decide) (by simpa using some)
  intro piece member
  rcases List.mem_map.mp member with ⟨param, inParams, rfl⟩
  have delimited := wellFormed.delimited param inParams
  change Clear ['&'] _
  rw [clear_singleton_iff, pairText, String.toList_append, String.toList_append, List.mem_append,
    List.mem_append]
  rintro ((inName | sign) | inValue)
  · exact (delimited.1 '&' inName).2.1 rfl
  · exact absurd (List.mem_singleton.mp sign) (by decide)
  · exact (delimited.2 '&' inValue).2.1 rfl

theorem locationHash_of_kept {fragment : String}
    (kept : ∀ char ∈ fragment.toList, keptInFragment char = true) :
    locationHash ("#" ++ fragment) = "#" ++ fragment := by
  have rest : removeFirst ("#" ++ fragment) = fragment := by
    apply String.toList_inj.mp
    simp [removeFirst]
  rw [locationHash, rest, Percent.encode_of_keeps kept]

/-- The parameters behind a route are found again. -/
theorem onHashChange_join (wellFormed : RouteParams params) (some : params ≠ []) {route : String}
    (isRoute : IsRoute route) :
    onHashChange (locationHash ("#" ++ route ++ "?" ++ join params)) = ("#" ++ route, params) := by
  have link : "#" ++ route ++ "?" ++ join params = "#" ++ (route ++ "?" ++ join params) := by
    simp only [String.append_assoc]
  have kept : ∀ char ∈ (route ++ "?" ++ join params).toList, keptInFragment char = true := by
    intro char member
    simp only [String.toList_append, List.mem_append] at member
    rcases member with (inRoute | mark) | inParams
    · exact isRoute.2 char inRoute
    · rw [List.mem_singleton.mp mark]
      decide
    · exact keptInFragment_join wellFormed char inParams
  have hash : "#" ++ (route ++ "?" ++ join params) =
      String.ofList (("#" ++ route).toList ++ '?' :: (join params).toList) := by
    apply String.toList_inj.mp
    simp
  have absent : '?' ∉ ("#" ++ route).toList := by simpa using isRoute.1
  have added := @foldl_addParam params wellFormed.delimited [] wellFormed.nodup
  rw [link, locationHash_of_kept kept, hash, onHashChange, splitOnce_of_not_mem absent]
  simp only [String.ofList_toList, split_join wellFormed some, added, List.nil_append]

theorem onHashChange_route {route : String} (isRoute : IsRoute route) :
    onHashChange (locationHash ("#" ++ route)) = ("#" ++ route, []) := by
  have absent : '?' ∉ ("#" ++ route).toList := by simpa using isRoute.1
  rw [locationHash_of_kept isRoute.2, onHashChange, splitOnce_eq_none_of_not_mem absent]

end RoundTrip

section Reading

variable {params : Params}

theorem RouteParams.addParam (wellFormed : RouteParams params) {piece : String}
    (kept : ∀ char ∈ piece.toList, keptInFragment char = true ∧ char ≠ '&') :
    RouteParams (addParam params piece) := by
  rw [Ui.addParam]
  split
  · next name value found =>
      have delimited : ∀ part ∈ split piece "=", Delimited part := by
        intro part inParts char member
        have inPiece := kept char (mem_of_mem_split inParts member)
        refine ⟨inPiece.1, inPiece.2, ?_⟩
        rintro rfl
        exact not_mem_split rfl inParts member
      rw [found] at delimited
      exact wellFormed.setParam ⟨delimited name List.mem_cons_self,
        delimited value (List.mem_cons_of_mem _ List.mem_cons_self)⟩
  · exact wellFormed

theorem keptInFragment_locationHash (link : String) :
    ∀ char ∈ (locationHash link).toList, keptInFragment char = true := by
  intro char member
  rw [locationHash, String.toList_append, List.mem_append] at member
  rcases member with sign | encoded
  · rw [List.mem_singleton.mp sign]
    decide
  · rcases Percent.mem_encode encoded with rfl | alphanum | ⟨kept, _⟩
    · decide
    · exact keptInFragment_of_unreserved (by simp [unreserved, alphanum])
    · exact kept

/-- What is found behind a route can be written behind a route. -/
theorem routeParams_onHashChange (link : String) :
    RouteParams (onHashChange (locationHash link)).2 := by
  have empty : RouteParams [] :=
    ⟨List.nodup_nil, fun _ member => absurd member List.not_mem_nil⟩
  rw [onHashChange]
  split
  · next hash query found =>
      have kept : ∀ piece ∈ split query "&",
          ∀ char ∈ piece.toList, keptInFragment char = true ∧ char ≠ '&' := by
        intro piece inPieces char member
        constructor
        · apply keptInFragment_locationHash link
          rw [splitOnce_eq_some found]
          exact List.mem_append_right _
            (List.mem_cons_of_mem _ (mem_of_mem_split inPieces member))
        · rintro rfl
          exact not_mem_split rfl inPieces member
      have added : ∀ (pieces : List String) (params : Params), RouteParams params →
          (∀ piece ∈ pieces, ∀ char ∈ piece.toList, keptInFragment char = true ∧ char ≠ '&') →
            RouteParams (pieces.foldl addParam params) := by
        intro pieces
        induction pieces with
        | nil => exact fun _ wellFormed _ => wellFormed
        | cons piece pieces ih =>
            intro params wellFormed kept
            exact ih _ (wellFormed.addParam (kept piece List.mem_cons_self))
              fun other member => kept other (List.mem_cons_of_mem _ member)
      exact added _ _ empty kept
  · exact empty

end Reading

section Links

variable {route name value : String}

theorem delimited_encodeURIComponent (value : String) : Delimited (encodeURIComponent value) := by
  intro char member
  refine ⟨keptInFragment_of_mem_encode member, ?_, ?_⟩
  · rintro rfl
    exact not_mem_encodeURIComponent (by decide) (by decide) value member
  · rintro rfl
    exact not_mem_encodeURIComponent (by decide) (by decide) value member

theorem Plain.delimited (plain : Plain name) : Delimited name := by
  intro char member
  refine ⟨plain.keptInFragment char member, ?_, ?_⟩
  · rintro rfl
    exact plain.not_mem (by decide) member
  · rintro rfl
    exact plain.not_mem (by decide) member

/-- The route and the parameter of a link are those with which it was built. -/
theorem onHashChange_link (isRoute : IsRoute route) (plain : Plain name) :
    onHashChange (locationHash (link route name value)) =
      ("#" ++ route, [(name, encodeURIComponent value)]) := by
  have wellFormed : RouteParams [(name, encodeURIComponent value)] := by
    constructor
    · exact List.nodup_singleton _
    · intro param member
      rw [List.mem_singleton.mp member]
      exact ⟨plain.delimited, delimited_encodeURIComponent value⟩
  have joined : link route name value =
      "#" ++ route ++ "?" ++ join [(name, encodeURIComponent value)] := by
    simp only [link, join, pairText, List.map_cons, List.map_nil, String.intercalate_singleton,
      String.append_assoc]
  rw [joined, onHashChange_join wellFormed (List.cons_ne_nil _ _) isRoute]

end Links

end DmarcReportViewer.Ui
