import QueryTemplate.Proofs.Name

/-!
# The segments of a path

A path is cut up in two ways.  `Path.segments` cuts it at all of its marks and trims each name;
`Path.splitRoot` cuts it once, behind the first name, and leaves the blanks in front of the mark
with this name.

* `Path.segmentsOf_field`, `Path.segmentsOf_index`: a path with one segment in front.
* `Path.segments_eq_cons`: the segments of a path that starts with a name.
* `Path.get?_object`: a path names what its rest names in the member of its trimmed first name.
* `Path.get?_splitRoot`: it is the trimming alone that the split leaves out.
-/

namespace QueryTemplate

def Segment.key : Segment → String
  | .field name => name
  | .index key => key

@[simp] theorem Segment.step?_object (s : Segment) (members : Members) :
    s.step? (.object members) = Members.get? members s.key := by
  cases s <;> rfl

namespace Path

/-! ### One segment in front of a path -/

/-- A text in which a name does not go on: it is over, or a mark comes next. -/
def EndsName (s : List Char) : Prop :=
  s.head?.any (!isStop ·) = false

theorem endsName_dropWhile (s : List Char) : EndsName (s.dropWhile (!isStop ·)) := by
  have h := List.head?_dropWhile_not (!isStop ·) s
  rw [EndsName]
  cases hd : (s.dropWhile (!isStop ·)).head? with
  | none => rfl
  | some c => simpa [hd] using h

@[simp] theorem segmentsOf_nil : segmentsOf [] = [] := by
  rw [segmentsOf.eq_def]

section

variable {name key rest : List Char}

theorem takeWhile_name (hname : ∀ c ∈ name, isStop c = false) (hrest : EndsName rest) :
    (name ++ rest).takeWhile (!isStop ·) = name :=
  Expr.takeWhile_append (fun c hc => by rw [hname c hc]; rfl) hrest

theorem dropWhile_name (hname : ∀ c ∈ name, isStop c = false) (hrest : EndsName rest) :
    (name ++ rest).dropWhile (!isStop ·) = rest :=
  Expr.dropWhile_append (fun c hc => by rw [hname c hc]; rfl) hrest

theorem segmentsOf_field (hname : ∀ c ∈ name, isStop c = false) (hrest : EndsName rest) :
    segmentsOf ('.' :: (name ++ rest)) = fieldOf (Text.trim name) ++ segmentsOf rest := by
  rw [segmentsOf, if_neg (by decide), if_pos (by decide), takeWhile_name hname hrest,
    dropWhile_name hname hrest]

theorem segmentsOf_index (hkey : ']' ∉ key) :
    segmentsOf ('[' :: (key ++ ']' :: rest)) =
      .index (String.ofList (unquote (Text.trim key))) :: segmentsOf rest := by
  have hopen : ∀ c ∈ key, (c != ']') = true := fun c hc => by
    rw [bne_iff_ne]
    rintro rfl
    exact hkey hc
  have htake : (key ++ ']' :: rest).takeWhile (· != ']') = key := Expr.takeWhile_append hopen rfl
  have hlength : key.length < (key ++ ']' :: rest).length := by
    simp
  have hdrop : (key ++ ']' :: rest).drop (key.length + 1) = rest := by
    rw [← List.drop_drop, List.drop_left]
    rfl
  rw [segmentsOf, if_pos (by decide)]
  simp only [htake, if_pos hlength, hdrop]

/-- The first name of a path needs no mark in front of it. -/
theorem segmentsOf_first (hne : name ≠ []) (hname : ∀ c ∈ name, isStop c = false)
    (hrest : EndsName rest) :
    segmentsOf (name ++ rest) = fieldOf (Text.trim name) ++ segmentsOf rest := by
  cases name with
  | nil => exact absurd rfl hne
  | cons c name =>
    have hc : c ≠ '[' ∧ c ≠ '.' := by
      have hstop := hname c List.mem_cons_self
      constructor <;> rintro rfl <;> exact absurd hstop (by decide)
    have htail : ∀ d ∈ name, isStop d = false := fun d hd => hname d (List.mem_cons_of_mem _ hd)
    rw [List.cons_append, segmentsOf, if_neg (by simpa using hc.1), if_neg (by simpa using hc.2),
      takeWhile_name htail hrest, dropWhile_name htail hrest]

end

/-! ### Paths that start with a name -/

/-- Whether a path starts with a name, once the blanks at its ends are gone. -/
def startsWithName (path : String) : Bool :=
  (Text.trim path.toList).head?.any (!isStop ·)

section

variable {path : String}

/-- The path, without the blanks at its ends, is a name with something in it and a rest behind. -/
structure StartsWith (path : String) (name rest : List Char) : Prop where
  eq : Text.trim path.toList = name ++ rest
  inside : ∀ c ∈ name, isStop c = false
  ends : EndsName rest
  nonblank : Text.trim name ≠ []

theorem exists_startsWith (h : startsWithName path = true) :
    ∃ name rest, StartsWith path name rest ∧
      splitRoot path = (String.ofList name, String.ofList rest) := by
  have htrimmed := Text.isTrimmed_trim path.toList
  refine ⟨_, _, ⟨List.takeWhile_append_dropWhile.symm, fun c hc => ?_, endsName_dropWhile _, ?_⟩,
    rfl⟩
  · simpa using List.mem_takeWhile_imp hc
  · cases hp : Text.trim path.toList with
    | nil =>
      rw [startsWithName, hp] at h
      cases h
    | cons c more =>
      have hc : (!isStop c) = true := by
        rwa [startsWithName, hp] at h
      have hfirst : (c :: more).takeWhile (!isStop ·) = c :: more.takeWhile (!isStop ·) :=
        List.takeWhile_cons_of_pos hc
      rw [hp] at htrimmed
      rw [hfirst, Ne, Text.trim_eq_nil_iff]
      exact fun hblank => Text.not_isBlank_of_isTrimmed htrimmed (hblank c List.mem_cons_self)

/-- No blank stands at an end of the rest: it begins with a mark and ends where the path ends. -/
theorem StartsWith.isTrimmed_rest {name rest : List Char} (h : StartsWith path name rest) :
    Text.isTrimmed rest = true := by
  have htrimmed := Text.isTrimmed_trim path.toList
  have hsuffix : rest <:+ Text.trim path.toList := ⟨name, h.eq.symm⟩
  refine Text.isTrimmed_iff.mpr
    ⟨?_, Text.getLast?_of_isSuffix hsuffix (Text.isTrimmed_iff.mp htrimmed).2⟩
  have hends := h.ends
  cases rest with
  | nil => rfl
  | cons c rest =>
    have hstop : c = '.' ∨ c = '[' := by
      simpa [EndsName, isStop, or_iff_not_imp_left] using hends
    rcases hstop with rfl | rfl <;> rfl

/-- **The segments of a path that starts with a name**: its first name, trimmed, and the segments
of its rest. -/
theorem segments_eq_cons (h : startsWithName path = true) :
    segments path =
      .field (Text.trimmed (splitRoot path).1) :: segments (splitRoot path).2 := by
  obtain ⟨name, rest, hpath, hsplit⟩ := exists_startsWith h
  have hne : name ≠ [] := by
    rintro rfl
    exact hpath.nonblank rfl
  have hfield : fieldOf (Text.trim name) = [.field (String.ofList (Text.trim name))] := by
    rw [fieldOf, if_neg (by simpa using hpath.nonblank)]
  have hrest : segments (String.ofList rest) = segmentsOf rest := by
    rw [segments, String.toList_ofList, Text.trim_of_isTrimmed hpath.isTrimmed_rest]
  rw [segments, hpath.eq, segmentsOf_first hne hpath.inside hpath.ends, hfield, hsplit, hrest,
    Text.trimmed, String.toList_ofList]
  rfl

theorem get?_object (h : startsWithName path = true) (members : Members) :
    get? (.object members) path =
      (Members.get? members (Text.trimmed (splitRoot path).1)).bind
        (get? · (splitRoot path).2) := by
  rw [get?, segments_eq_cons h, follow?_cons]
  rfl

end

/-! ### A value that a path leads into -/

def reached : List Segment → Value
  | [] => .null
  | s :: rest => .object [(s.key, reached rest)]

theorem follow?_reached (steps : List Segment) : follow? (reached steps) steps = some .null := by
  induction steps with
  | nil => rfl
  | cons s rest ih =>
    have hstep : s.step? (reached (s :: rest)) = some (reached rest) := by
      rw [reached, Segment.step?_object]
      simp [Members.get?]
    rw [follow?_cons, hstep]
    exact ih

/-- **Splitting off the first name of a path.**  A path that starts with a name leads through the
member of this name, without the blanks at its ends.  The split gives the name with the blanks that
stand in front of the next mark, so it leads to the same value in every object exactly when there
are none. -/
theorem get?_splitRoot {path : String} (h : startsWithName path = true) :
    (∀ members, get? (.object members) path =
      (Members.get? members (Text.trimmed (splitRoot path).1)).bind
        (get? · (splitRoot path).2)) ∧
    ((∀ members, get? (.object members) path =
        (Members.get? members (splitRoot path).1).bind (get? · (splitRoot path).2)) ↔
      Text.trimmed (splitRoot path).1 = (splitRoot path).1) := by
  refine ⟨get?_object h, fun hsame => ?_, fun hname members => ?_⟩
  · by_contra hne
    have hleads := hsame [(Text.trimmed (splitRoot path).1, reached (segments (splitRoot path).2))]
    have hother : ((splitRoot path).1 == Text.trimmed (splitRoot path).1) = false := by
      simpa using Ne.symm hne
    rw [get?_object h] at hleads
    simp [Members.get?, List.lookup_cons, hother, get?, follow?_reached] at hleads
  · rw [get?_object h, hname]

/-- A path with a position and a blank around it. -/
theorem get?_splitRoot_padded :
    startsWithName " ids[0] .name " = true ∧
      (∀ members, get? (.object members) " ids[0] .name " =
        (Members.get? members "ids").bind (get? · "[0] .name")) := by
  have hnamed : startsWithName " ids[0] .name " = true := by decide +kernel
  have hsplit : splitRoot " ids[0] .name " = ("ids", "[0] .name") := by decide +kernel
  have hname : Text.trimmed "ids" = "ids" := by decide +kernel
  refine ⟨hnamed, ?_⟩
  have hsame := (get?_splitRoot hnamed).2
  rw [hsplit] at hsame
  exact hsame.mpr hname

/-- A blank in front of a mark hides the member from the split. -/
theorem exists_get?_ne_get?_splitRoot :
    startsWithName "user .name" = true ∧ splitRoot "user .name" = ("user ", ".name") ∧
      get? (.object [("user", .object [("name", .string "Ann")])]) "user .name" =
        some (.string "Ann") ∧
      (Members.get? [("user", .object [("name", .string "Ann")])] "user ").bind
        (get? · ".name") = none := by
  refine ⟨by decide +kernel, by decide +kernel, ?_, by decide +kernel⟩
  cbv

end Path

end QueryTemplate
