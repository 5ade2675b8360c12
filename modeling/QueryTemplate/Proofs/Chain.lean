import QueryTemplate.Proofs.Values

/-!
# Chains of scopes

A name means what the innermost scope that binds it says, and what the parameter says at the
root when no scope binds it.  A property placeholder is given its value where it stands exactly
when a scope inside the root binds the first name of its path, and then the value is what the
path means there.

* `Scope.lookup_eq_some_iff`: what a name stands for.
* `Scope.isSome_scoped?_iff`, `Scope.scoped?_eq_lookup`, `Scope.lookup_eq_lookup_root`: the walk
  that stops before the root finds what the walk through the root finds, or leaves it to the root.
* `Scope.settles_of_capture`, `Run.settles`: what the chain makes of a placeholder.
* `Scope.innermost_binding`: all of this, and what it means for the placeholders of a run.
-/

namespace QueryTemplate

/-! ### The two walks -/

namespace Scope

variable {s : Scope} {name : String} {value : Value}

/-- The innermost scope that binds the name gives it the value, and `outer` are the scopes around
that one. -/
def Innermost (s : Scope) (name : String) (value : Value) (outer : List Members) : Prop :=
  ∃ inner frame, s.frames = inner ++ frame :: outer ∧ Members.get? frame name = some value ∧
    ∀ m ∈ inner, Members.get? m name = none

/-- A scope of the chain binds the name, and it is not the root. -/
def BoundInside (s : Scope) (name : String) : Prop :=
  ∃ inner frame outer, s.frames = inner ++ frame :: outer ∧ outer ≠ [] ∧
    (Members.get? frame name).isSome = true

def Unbound (s : Scope) (name : String) : Prop :=
  ∀ m ∈ s.frames, Members.get? m name = none

theorem findIn?_frames_eq_some_iff :
    findIn? s.frames name = some value ↔ ∃ outer, s.Innermost name value outer := by
  rw [findIn?, List.findSome?_eq_some_iff]
  constructor
  · rintro ⟨inner, frame, outer, hframes, hframe, hinner⟩
    exact ⟨outer, inner, frame, hframes, hframe, hinner⟩
  · rintro ⟨outer, inner, frame, hframes, hframe, hinner⟩
    exact ⟨inner, frame, outer, hframes, hframe, hinner⟩

theorem findIn?_frames_eq_none_iff : findIn? s.frames name = none ↔ s.Unbound name :=
  List.findSome?_eq_none_iff

/-- **What a name stands for** is what the innermost scope that binds it says, and what the
parameter says when no scope does. -/
theorem lookup_eq_some_iff : s.lookup name = some value ↔
    (∃ outer, s.Innermost name value outer) ∨
      s.Unbound name ∧ s.root.inParameter? name = some value := by
  rw [lookup, Option.or_eq_some_iff, findIn?_frames_eq_some_iff, findIn?_frames_eq_none_iff]
  exact Iff.rfl

/-- The walk that stops before the root succeeds exactly when a scope inside the root binds the
name. -/
theorem isSome_scoped?_iff : (s.scoped? name).isSome = true ↔ s.BoundInside name := by
  rw [scoped?, findIn?, List.findSome?_isSome_iff]
  constructor
  · rintro ⟨frame, hmem, hframe⟩
    obtain ⟨inner, outer, hsplit⟩ := List.append_of_mem hmem
    have hframes := List.dropLast_concat_getLast (List.cons_ne_nil s.bindings s.enclosing)
    change s.frames.dropLast ++ _ = s.frames at hframes
    rw [hsplit, List.append_assoc, List.cons_append] at hframes
    exact ⟨inner, frame, _, hframes.symm, List.concat_ne_nil _ _, hframe⟩
  · rintro ⟨inner, frame, outer, hframes, houter, hframe⟩
    refine ⟨frame, ?_, hframe⟩
    rw [hframes, List.dropLast_append_of_ne_nil (List.cons_ne_nil _ _),
      List.dropLast_cons_of_ne_nil houter]
    exact List.mem_append_right _ List.mem_cons_self

theorem scoped?_eq_lookup (h : s.BoundInside name) : s.scoped? name = s.lookup name := by
  obtain ⟨value, hvalue⟩ := Option.isSome_iff_exists.mp (isSome_scoped?_iff.mpr h)
  rw [lookup_eq, hvalue]
  rfl

theorem lookup_eq_lookup_root (h : ¬ s.BoundInside name) : s.lookup name = s.root.lookup name := by
  rw [← isSome_scoped?_iff, Bool.not_eq_true, Option.isSome_eq_false_iff,
    Option.isNone_iff_eq_none] at h
  rw [lookup_eq, h, Option.none_or]

theorem not_boundInside_of_isRoot (h : s.isRoot = true) : ¬ s.BoundInside name := by
  rintro ⟨inner, frame, outer, hframes, houter, -⟩
  have henclosing : s.enclosing = [] := List.isEmpty_iff.mp h
  have hlength := congrArg List.length hframes
  have hpos := List.length_pos_iff.mpr houter
  simp only [frames, henclosing, List.length_append, List.length_cons, List.length_nil] at hlength
  omega

/-! ### The value of a placeholder -/

/-- What the chain makes of a placeholder: the mapping `m` is the one that was read with a value
added.  A placeholder at the root gets none, and a property placeholder gets one exactly when a
scope inside the root binds the first name of its path: the value of the rest of the path in what
that name stands for, or `null`. -/
structure Settles (s : Scope) (parsed m : Mapping) : Prop where
  same : m = { parsed with value := m.value }
  atRoot : s.isRoot = true → m.value = none
  isSome_iff : parsed.expression = none →
    (m.value.isSome = true ↔ s.BoundInside (Path.splitRoot parsed.property).1)
  eq_get? : parsed.expression = none → ∀ value, m.value = some value →
    value = ((s.lookup (Path.splitRoot parsed.property).1).bind
      (Path.get? · (Path.splitRoot parsed.property).2)).getD .null

end Scope

section

variable {c : Configuration} {s : Scope} {parsed m : Mapping}

theorem Draft.capture_of_isRoot (h : s.isRoot = true) : capture c s parsed = .ok parsed := by
  rw [capture, if_pos h]

/-- A property placeholder always has a mapping; the shorter walk decides on its value. -/
theorem Draft.capture_property (hproperty : parsed.expression = none) :
    capture c s parsed = .ok
      (match s.scoped? (Path.splitRoot parsed.property).1 with
      | some bound =>
        { parsed with value := some (propertyOf bound (Path.splitRoot parsed.property).2) }
      | none => parsed) := by
  by_cases hroot : s.isRoot = true
  · have hnone : s.scoped? (Path.splitRoot parsed.property).1 = none := by
      rw [← Option.isNone_iff_eq_none, ← Option.isSome_eq_false_iff, Bool.eq_false_iff]
      intro hsome
      exact Scope.not_boundInside_of_isRoot hroot (Scope.isSome_scoped?_iff.mp hsome)
    rw [capture_of_isRoot hroot, hnone]
  · rw [capture, if_neg hroot, hproperty]
    show (match s.scoped? (Path.splitRoot parsed.property).1 with
      | some bound => _
      | none => _) = _
    cases s.scoped? (Path.splitRoot parsed.property).1 with
    | some bound => rfl
    | none => rfl

theorem Scope.settles_property (hvalue : parsed.value = none)
    (hproperty : parsed.expression = none) (h : Draft.capture c s parsed = .ok m) :
    s.Settles parsed m := by
  rw [Draft.capture_property hproperty] at h
  obtain rfl := Except.ok.inj h
  cases hscoped : s.scoped? (Path.splitRoot parsed.property).1 with
  | none =>
    have hbound : ¬ s.BoundInside (Path.splitRoot parsed.property).1 := by
      rw [← isSome_scoped?_iff, hscoped]
      exact Bool.false_ne_true
    refine ⟨rfl, fun _ => hvalue, fun _ => ⟨fun hsome => ?_, fun h => absurd h hbound⟩,
      fun _ value hsome => ?_⟩
    · rw [hvalue] at hsome
      cases hsome
    · rw [hvalue] at hsome
      cases hsome
  | some bound =>
    have hbound : s.BoundInside (Path.splitRoot parsed.property).1 := by
      rw [← isSome_scoped?_iff, hscoped]
      rfl
    refine ⟨rfl, fun hroot => absurd hbound (not_boundInside_of_isRoot hroot),
      fun _ => ⟨fun _ => hbound, fun _ => rfl⟩, fun _ value hsome => ?_⟩
    obtain rfl := Option.some.inj hsome
    rw [← scoped?_eq_lookup hbound, hscoped]
    rfl

/-- **What the chain makes of a placeholder.** -/
theorem Scope.settles_of_capture (hvalue : parsed.value = none)
    (h : Draft.capture c s parsed = .ok m) : s.Settles parsed m := by
  cases hexpression : parsed.expression with
  | none => exact settles_property hvalue hexpression h
  | some expression =>
    have hno : parsed.expression ≠ none := by
      rw [hexpression]
      exact Option.some_ne_none expression
    by_cases hroot : s.isRoot = true
    · rw [Draft.capture_of_isRoot hroot] at h
      obtain rfl := Except.ok.inj h
      exact ⟨rfl, fun _ => hvalue, fun h => absurd h hno, fun h => absurd h hno⟩
    · rw [Draft.capture, if_neg hroot, hexpression] at h
      obtain ⟨value, -, h⟩ := Outcome.bind_eq_ok_iff.mp h
      obtain rfl := Outcome.pure_eq_ok_iff.mp h
      exact ⟨by rw [hexpression], fun h => absurd h hroot, fun h => absurd h hno,
        fun h => absurd h hno⟩

/-- The mapping of every placeholder of a run is what the chain of scopes makes of it. -/
theorem Run.settles {job : Job} {d d' : Draft} {log before after : Log} {body : String}
    (h : Run c job d d' log) (hlog : log = before ++ .placeholder s body :: after) :
    ∃ parsed m, Mapping.parse body = .ok parsed ∧
      d'.mappings[d.mappings.length + before.placeholders.length]? = some m ∧
      s.Settles parsed m := by
  obtain ⟨m, hm, parsed, hparsed, hcapture⟩ := h.getElem?_mappings hlog
  exact ⟨parsed, m, hparsed, hm,
    Scope.settles_of_capture (Mapping.value_of_parse hparsed) hcapture⟩

end

/-! ### The chain -/

/-- **The innermost binding of a name is what the name stands for.**  The walk that stops before
the root finds it exactly when it is not the root's, and leaves every other name to the root; so
this walk decides which placeholders are given their values where they stand. -/
theorem Scope.innermost_binding (s : Scope) :
    (∀ name,
      (∀ value, s.lookup name = some value ↔
        (∃ outer, s.Innermost name value outer) ∨
          s.Unbound name ∧ s.root.inParameter? name = some value) ∧
      ((s.scoped? name).isSome = true ↔ s.BoundInside name) ∧
      (s.BoundInside name → s.scoped? name = s.lookup name) ∧
      (¬ s.BoundInside name → s.lookup name = s.root.lookup name)) ∧
    (∀ c parsed, parsed.value = none → parsed.expression = none →
      ∃ m, Draft.capture c s parsed = .ok m ∧ s.Settles parsed m) ∧
    ∀ c job d d' (before : Log) body after,
      Run c job d d' (before ++ .placeholder s body :: after) →
      ∃ parsed m, Mapping.parse body = .ok parsed ∧
        d'.mappings[d.mappings.length + before.placeholders.length]? = some m ∧
        s.Settles parsed m := by
  refine ⟨fun name => ⟨fun value => lookup_eq_some_iff, isSome_scoped?_iff, scoped?_eq_lookup,
    lookup_eq_lookup_root⟩, fun c parsed hvalue hproperty => ?_,
    fun c job d d' before body after h => h.settles rfl⟩
  have hcapture := Draft.capture_property (c := c) (s := s) hproperty
  exact ⟨_, hcapture, settles_property hvalue hproperty hcapture⟩

def Scope.shadowed : Scope where
  parameter := .object [("x", .string "parameter")]
  bindings := [("y", .string "inner")]
  enclosing := [[("x", .object [("k", .string "middle")])], [("x", .string "root")]]

theorem Scope.innermost_binding_shadowed :
    shadowed.BoundInside "x" ∧ shadowed.scoped? "x" = shadowed.lookup "x" ∧
      ∃ d' m, Run {} (.node (.static "#\x7bx.k\x7d")) { scope := shadowed } d'
          [.copied "", .placeholder shadowed "x.k"] ∧
        d'.mappings = [m] ∧ m.value = some (.string "middle") := by
  obtain ⟨hnames, hproperties, hruns⟩ := innermost_binding shadowed
  have hbound : shadowed.BoundInside "x" :=
    ⟨[_], _, [_], rfl, List.cons_ne_nil _ _, rfl⟩
  refine ⟨hbound, (hnames "x").2.2.1 hbound, ?_⟩
  have hsplit : Path.splitRoot "x.k" = ("x", ".k") := by decide +kernel
  have hmember : Path.get? (.object [("k", .string "middle")]) ".k" = some (.string "middle") := by
    cbv
  have hpieces : Delimiters.placeholder.pieces "#\x7bx.k\x7d" =
      [.literal [], .span "x.k".toList] := by
    decide +kernel
  have hparse : Mapping.parse "x.k" = .ok { property := "x.k" } := by cbv
  obtain ⟨m, hcapture, -⟩ := hproperties {} { property := "x.k" } rfl rfl
  have hrun : Run {} (.node (.static "#\x7bx.k\x7d")) { scope := shadowed } _ _ :=
    .static (Draft.addStatic_placeholder hpieces hparse hcapture)
  rw [Log.reading, hpieces] at hrun
  refine ⟨_, m, hrun, rfl, ?_⟩
  obtain ⟨parsed, m', hparsed, hm, hsettles⟩ := hruns {} _ _ _ [.copied ""] "x.k" [] hrun
  obtain rfl := Except.ok.inj (hparse.symm.trans hparsed)
  obtain rfl := Option.some.inj hm
  have hsome : m.value.isSome = true := by
    rw [hsettles.isSome_iff rfl, hsplit]
    exact hbound
  obtain ⟨value, hvalue⟩ := Option.isSome_iff_exists.mp hsome
  rw [hvalue, hsettles.eq_get? rfl value hvalue, hsplit]
  show some ((Path.get? _ ".k").getD .null) = _
  rw [hmember]
  rfl

end QueryTemplate
