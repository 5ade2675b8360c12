import QueryTemplate.Proofs.Outcome
import QueryTemplate.Proofs.Grammar.RoundTrip
import QueryTemplate.Proofs.Path.Written
import QueryTemplate.Proofs.Values

/-!
# Paths as expressions

A name with members, positions and quoted keys behind it, such as `a.b[0]['k']`, is both a path and
an expression.  `Access` is one of these parts.  The same text is cut into segments and is written
as a chain of members and indexes, and one part after the other leads to the same value, as long as
the expression has one: where a path finds nothing, the expression is `null`, and `null` has
nothing but `null` in it.

* `Access.writable_parts`, `Access.written_foldl`: the parts as a path and as an expression.
* `Access.step_of_eval`: one part; `Access.follow?_of_eval`: all of them.
* `Path.resolve_written`: what the expression evaluates to is what the path resolves to.
-/

namespace QueryTemplate

open Outcome

/-- A part of a path: a member, a position, or a member by a quoted key. -/
inductive Access
  | member (name : String)
  | position (n : Nat)
  | quoted (key : String)

namespace Access

def chars : Access → List Char
  | .member name => '.' :: name.toList
  | .position n => '[' :: (Decimal.digitsOf n ++ [']'])
  | .quoted key => '[' :: (('\'' :: key.toList ++ ['\'']) ++ [']'])

def segment : Access → Segment
  | .member name => .field name
  | .position n => .index (Decimal.natText n)
  | .quoted key => .index key

def expr (base : Expr) : Access → Expr
  | .member name => .member base name
  | .position n => .index base (.literal (Value.ofNat n))
  | .quoted key => .index base (.literal (.string key))

/-- The characters that end a key or change its meaning. -/
def keyMarks : List Char := [']', '\'', '"', '\\']

/-- Whether the part can be written: a member is a name, a position a signed word, and a key is
free of brackets, quotes and backslashes. -/
def isPlain : Access → Bool
  | .member name => Expr.isName name
  | .position n => decide ((n : Int) ≤ maxSigned)
  | .quoted key => key.toList.all fun c => !keyMarks.contains c

def written (root : String) (steps : List Access) : String :=
  root ++ String.ofList (steps.flatMap chars)

theorem ne_of_isPlain_quoted {key : String} (h : (Access.quoted key).isPlain = true) :
    ∀ c ∈ key.toList, c ≠ ']' ∧ c ≠ '\'' ∧ c ≠ '\\' := by
  intro c hc
  have hfree : ¬ c ∈ keyMarks := by
    have := List.all_eq_true.mp h c hc
    simpa using this
  simp only [keyMarks, List.mem_cons, not_or] at hfree
  exact ⟨hfree.1, hfree.2.1, hfree.2.2.2.1⟩

/-! ### As a path -/

def part : Access → Path.Part
  | .member name => .field true name
  | .position n => .bare (Decimal.natText n)
  | .quoted key => .quoted .single key

theorem chars_part (s : Access) : s.part.chars = s.chars := by
  cases s with
  | member name => rfl
  | position n => simp [part, Path.Part.chars, chars, Decimal.natText]
  | quoted key => rfl

theorem segment_part (s : Access) : s.part.segment = s.segment := by
  cases s <;> rfl

theorem isPlain_part {s : Access} (hs : s.isPlain = true) : s.part.isPlain = true := by
  cases s with
  | member name =>
    obtain ⟨c, more, hchars, -, -⟩ := Expr.exists_of_isName hs
    have hne : name ≠ "" := by
      rintro rfl
      cases hchars
    have hstop : ∀ c ∈ name.toList, Path.isStop c = false := fun _ => Path.isStop_of_isName hs
    simpa [part, Path.Part.isPlain, hne, Expr.isTrimmed_of_isName hs] using hstop
  | position n =>
    have hdigit : ∀ c ∈ (Decimal.natText n).toList, c.isDigit = true :=
      fun _ => Decimal.isDigit_of_mem_natText
    have hne : ∀ c ∈ (Decimal.natText n).toList, c ≠ ']' ∧ c ≠ '\'' ∧ c ≠ '"' := fun c hc =>
      ⟨Expr.ne_of_test (hdigit c hc) (by decide), Expr.ne_of_test (hdigit c hc) (by decide),
        Expr.ne_of_test (hdigit c hc) (by decide)⟩
    have hquote : (Decimal.natText n).toList.head?.any
        (fun c => c == '\'' || c == '"') = false := by
      cases hfirst : (Decimal.natText n).toList.head? with
      | none => rfl
      | some c => simpa using (hne c (List.mem_of_mem_head? hfirst)).2
    have htrimmed : Text.isTrimmed (Decimal.natText n).toList = true :=
      Text.isTrimmed_of_forall fun c hc => Text.isBlank_of_isDigit (hdigit c hc)
    simpa [part, Path.Part.isPlain, htrimmed, hquote] using fun c hc => (hne c hc).1
  | quoted key =>
    simpa [part, Path.Part.isPlain] using fun c hc => (ne_of_isPlain_quoted hs c hc).1

theorem endsName_flatMap (steps : List Access) : Path.EndsName (steps.flatMap chars) := by
  cases steps with
  | nil => rfl
  | cons s steps => cases s <;> rfl

variable {steps : List Access}

theorem flatMap_part (steps : List Access) :
    (steps.map part).flatMap Path.Part.chars = steps.flatMap chars := by
  rw [List.flatMap_map]
  simp only [chars_part]

theorem writable_parts (h : ∀ s ∈ steps, s.isPlain = true) : Path.Writable (steps.map part) := by
  constructor
  · intro p hp
    obtain ⟨s, hs, rfl⟩ := List.mem_map.mp hp
    exact isPlain_part (h s hs)
  · have hjoins : ∀ (p : Path.Part) (s : Access), p.joins s.part = true := by
      intro p s
      cases p <;> cases s <;> rfl
    rw [List.isChain_map]
    exact (List.pairwise_of_forall fun s t => hjoins s.part t).isChain

theorem isTrimmed_flatMap (h : ∀ s ∈ steps, s.isPlain = true) :
    Text.isTrimmed (steps.flatMap chars) = true := by
  rw [← flatMap_part]
  exact Path.isTrimmed_flatMap (writable_parts h).plain

theorem splitRoot_written {root : String} (hroot : Expr.isName root = true)
    (h : ∀ s ∈ steps, s.isPlain = true) :
    Path.splitRoot (written root steps) = (root, String.ofList (steps.flatMap chars)) := by
  have hstop : ∀ c ∈ root.toList, Path.isStop c = false := fun _ => Path.isStop_of_isName hroot
  have htrimmed : Text.isTrimmed (root.toList ++ steps.flatMap chars) = true :=
    Text.isTrimmed_append (Expr.isTrimmed_of_isName hroot) (isTrimmed_flatMap h)
  have hends := endsName_flatMap steps
  simp only [Path.splitRoot, written, String.toList_append, String.toList_ofList,
    Text.trim_of_isTrimmed htrimmed]
  rw [Path.takeWhile_name hstop hends, Path.dropWhile_name hstop hends, String.ofList_toList]

/-- The parts lead where their segments lead. -/
theorem get?_flatMap (h : ∀ s ∈ steps, s.isPlain = true) (v : Value) :
    Path.get? v (String.ofList (steps.flatMap chars)) = Path.follow? v (steps.map segment) := by
  have hsegments := Path.segments_of_writable (writable_parts h)
  rw [Path.written, flatMap_part, List.map_map] at hsegments
  rw [Path.get?, hsegments]
  simp only [Function.comp_def, segment_part]

/-! ### As an expression -/

theorem ofNat_eq_whole {n : Nat} (h : (n : Int) ≤ maxSigned) :
    ∃ w : Whole, Value.ofNat n = .number (.whole w) ∧ w.val = n := by
  have hlow : minWhole ≤ (n : Int) := le_trans (by decide) (Int.natCast_nonneg n)
  have hhigh : (n : Int) ≤ maxWhole := le_trans h (by decide)
  refine ⟨⟨n, hlow, hhigh⟩, ?_, rfl⟩
  rw [Value.ofNat, Value.ofInt, Number.ofInt_of_inRange hlow hhigh]

theorem written_expr {s : Access} (hs : s.isPlain = true) {base : Expr} {text : List Char}
    (h : Expr.Written .postfixed base text) :
    Expr.Written .postfixed (s.expr base) (text ++ s.chars) := by
  have hindex : ∀ {value : Value} {t : List Char}, Expr.WrittenLiteral value t →
      Expr.Written .postfixed (.index base (.literal value)) (text ++ '[' :: (t ++ [']'])) := by
    intro value t ht
    have hkey := (Expr.Written.literal ht).loosen (.level .disjunction) (Nat.zero_le _)
    exact Expr.Written.index h Expr.isGaps_nil Expr.isGaps_nil hkey Expr.isGaps_nil
  cases s with
  | member name => exact Expr.Written.member h Expr.isGaps_nil Expr.isGaps_nil hs
  | position n =>
    have hhigh : (n : Int) ≤ maxSigned := of_decide_eq_true hs
    obtain ⟨w, hw, hval⟩ := ofNat_eq_whole hhigh
    have hliteral := Expr.writtenLiteral_toDigits (n := w) (by omega) (by omega)
    rw [hval, Int.toNat_natCast, ← hw] at hliteral
    exact hindex hliteral
  | quoted key =>
    have hinside := Expr.writtenInside_self fun c hc => (ne_of_isPlain_quoted hs c hc).2
    have hliteral := Expr.WrittenLiteral.string (.inl rfl) hinside
    rw [String.ofList_toList] at hliteral
    exact hindex hliteral

theorem written_foldl (h : ∀ s ∈ steps, s.isPlain = true) {base : Expr} {text : List Char}
    (hbase : Expr.Written .postfixed base text) :
    Expr.Written .postfixed (steps.foldl expr base) (text ++ steps.flatMap chars) := by
  induction steps generalizing base text with
  | nil => simpa using hbase
  | cons s steps ih =>
    obtain ⟨hs, hrest⟩ := List.forall_mem_cons.mp h
    have hwritten := ih hrest (written_expr hs hbase)
    rwa [List.append_assoc] at hwritten

/-- A position in an array, and the member that it names in an object. -/
theorem step_of_itemOf {n : Nat} (hn : (n : Int) ≤ maxSigned) {b v : Value}
    (h : Expr.itemOf b (Value.ofNat n) = .ok v) :
    v = ((position n).segment.step? b).getD .null := by
  obtain ⟨w, hw, hval⟩ := ofNat_eq_whole hn
  rw [hw] at h
  cases b with
  | null => exact (Except.ok.inj h).symm
  | array items =>
    have hnat : (Number.whole w).natural? = some n := by
      rw [Number.natural?, if_pos (by omega), hval, Int.toNat_natCast]
    have hbound : maxSigned < (Nat.pow 2 64 : Nat) := by decide
    have hread : Decimal.unsigned? (Nat.pow 2 64) (Decimal.natText n).toList = some n :=
      (Mapping.writtenNumber_natText n).unsigned? (by omega)
    simp only [Expr.itemOf, hnat] at h
    simp only [segment, Segment.step?, hread]
    exact (Except.ok.inj h).symm
  | object members =>
    have htext : (Value.number (.whole w)).toText = Decimal.natText n := by
      show String.ofList (Decimal.intText w.val) = _
      rw [hval]
      rfl
    simp only [Expr.itemOf, htext] at h
    exact (Except.ok.inj h).symm
  | _ => cases h

/-- **One part leads to the same value**: an expression has `null` where a path finds nothing. -/
theorem step_of_eval {s : Access} (hs : s.isPlain = true) {lookup : String → Option Value}
    {base : Expr} {v : Value} (h : (s.expr base).eval lookup = .ok v) :
    ∃ b, base.eval lookup = .ok b ∧ v = (s.segment.step? b).getD .null := by
  cases s with
  | member name =>
    obtain ⟨b, hb, h⟩ := bind_eq_ok_iff.mp h
    refine ⟨b, hb, ?_⟩
    cases b with
    | null => exact (Except.ok.inj h).symm
    | object members => exact (Except.ok.inj h).symm
    | _ => cases h
  | position n =>
    obtain ⟨b, hb, h⟩ := bind_eq_ok_iff.mp h
    exact ⟨b, hb, step_of_itemOf (of_decide_eq_true hs) h⟩
  | quoted key =>
    obtain ⟨b, hb, h⟩ := bind_eq_ok_iff.mp h
    refine ⟨b, hb, ?_⟩
    cases b with
    | null => exact (Except.ok.inj h).symm
    | object members => exact (Except.ok.inj h).symm
    | _ => cases h

theorem follow?_null (segments : List Segment) :
    (Path.follow? .null segments).getD .null = .null := by
  cases segments with
  | nil => rfl
  | cons s segments => cases s <;> rfl

/-- **The parts lead to the same value**, one after the other. -/
theorem follow?_of_eval (h : ∀ s ∈ steps, s.isPlain = true) {lookup : String → Option Value}
    {base : Expr} {v : Value} (hv : (steps.foldl expr base).eval lookup = .ok v) :
    ∃ b, base.eval lookup = .ok b ∧ v = (Path.follow? b (steps.map segment)).getD .null := by
  induction steps generalizing base with
  | nil => exact ⟨v, hv, rfl⟩
  | cons s steps ih =>
    obtain ⟨hs, hrest⟩ := List.forall_mem_cons.mp h
    obtain ⟨mid, hmid, rfl⟩ := ih hrest hv
    obtain ⟨b, hb, rfl⟩ := step_of_eval hs hmid
    refine ⟨b, hb, ?_⟩
    rw [List.map_cons, Path.follow?_cons]
    cases s.segment.step? b with
    | none => exact follow?_null _
    | some w => rfl

end Access

/-! ### A path and an expression -/

section

open Access

variable {root : String} {steps : List Access}

theorem Expr.written_of_access (hroot : Expr.isName root = true) (hfree : root ∉ Expr.reserved)
    (h : ∀ s ∈ steps, s.isPlain = true) :
    Expr.Written .postfixed (steps.foldl Access.expr (.variable root))
      (Access.written root steps).toList := by
  have hwritten := written_foldl h (.named hroot hfree)
  rwa [Access.written, String.toList_append, String.toList_ofList]

theorem Expr.parse_ne_null {e : Expr} {text : String} (h : Expr.Written .postfixed e text.toList) :
    Expr.parse (text ++ " != null") = .ok (.binary .ne e (.literal .null)) := by
  have hnull : Expr.Written (.level .relational) (.literal .null) "null".toList :=
    (Expr.Written.literal .null).loosen _ (Nat.zero_le _)
  have hoperator : (Spelling.sign "!=", BinaryOp.ne) ∈ Level.equality.spellings := by decide
  have hne : Expr.Written (.level .equality) (.binary .ne e (.literal .null))
      (text.toList ++ ([' '] ++ ("!=".toList ++ ([' '] ++ "null".toList)))) :=
    .binary hoperator (h.loosen _ (Nat.zero_le _)) (Expr.beside_space _) (Expr.beside_space _) hnull
  refine Expr.parse_of_written (q := .level .equality) ?_
  rw [String.toList_append]
  exact hne

/-- The test of an expression for `null` looks at the value of the expression. -/
theorem Evaluator.holds_ne_null {e : Expr} {text : String}
    (h : Expr.Written .postfixed e text.toList) {lookup : String → Option Value} {v : Value}
    (hv : Evaluator.standard.value text lookup = .ok v) :
    Evaluator.standard.holds (text ++ " != null") lookup = .ok (!v.looseEq .null) := by
  have heval : e.eval lookup = .ok v := by
    rw [standard_value_of_parse (Expr.parse_of_written h)] at hv
    exact mapError_eq_ok_iff.mp hv
  have hvalue : Evaluator.standard.value (text ++ " != null") lookup =
      .ok (.bool (!v.looseEq .null)) := by
    rw [standard_value_of_parse (Expr.parse_ne_null h), mapError_eq_ok_iff,
      Expr.eval_binary (by decide) (by decide), heval]
    rfl
  show (do return (← Evaluator.standard.value (text ++ " != null") lookup).isTruthy) = _
  rw [hvalue]
  rfl

/-- A path whose first name is bound in a nested scope takes what it resolves to. -/
theorem Draft.capture_of_path {c : Configuration} {scope : Scope} {m : Mapping}
    (hexpression : m.expression = none) (h : scope.fixes m = true) :
    Draft.capture c scope m =
      .ok { m with value := some (Statement.resolve scope m.property) } := by
  simp only [Scope.fixes, hexpression, Option.isSome_none, Bool.false_or, Bool.and_eq_true,
    Bool.not_eq_true'] at h
  obtain ⟨hroot, hscoped⟩ := h
  obtain ⟨bound, hbound⟩ := Option.isSome_iff_exists.mp hscoped
  have hresolve : Statement.resolve scope m.property =
      propertyOf bound (Path.splitRoot m.property).2 := by
    rw [Statement.resolve_eq, Scope.lookup_eq, hbound]
    rfl
  rw [Draft.capture, hroot]
  simp only [hexpression, hbound, hresolve]
  rfl

/-- **A path and an expression agree.**  A name that is not reserved with members, positions and
quoted keys behind it is an expression.  In every scope where the expression has a value, the path
resolves to the same value; so a placeholder for which the scope fixes the path takes what a test
of the expression for `null` looks at. -/
theorem Path.resolve_written (hroot : Expr.isName root = true) (hfree : root ∉ Expr.reserved)
    (h : ∀ s ∈ steps, s.isPlain = true) :
    (∃ e, Expr.parse (Access.written root steps) = .ok e) ∧
    ∀ (scope : Scope) (v : Value),
      Evaluator.standard.value (Access.written root steps) scope.lookup = .ok v →
      Statement.resolve scope (Access.written root steps) = v ∧
      Evaluator.standard.holds (Access.written root steps ++ " != null") scope.lookup =
        .ok (!v.looseEq .null) ∧
      ∀ (c : Configuration) (m : Mapping), m.property = Access.written root steps →
        m.expression = none → scope.fixes m = true →
        Draft.capture c scope m = .ok { m with value := some v } := by
  have hwritten := Expr.written_of_access hroot hfree h
  have hparse := Expr.parse_of_written hwritten
  refine ⟨⟨_, hparse⟩, fun scope v hv => ?_⟩
  have hresolve : Statement.resolve scope (Access.written root steps) = v := by
    rw [Evaluator.standard_value_of_parse hparse] at hv
    obtain ⟨b, hb, rfl⟩ := follow?_of_eval h (mapError_eq_ok_iff.mp hv)
    obtain rfl := Except.ok.inj hb
    rw [Statement.resolve_eq, splitRoot_written hroot h]
    simp only [get?_flatMap h]
    cases scope.lookup root with
    | none => exact (follow?_null _).symm
    | some bound => rfl
  refine ⟨hresolve, Evaluator.holds_ne_null hwritten hv, fun c m hproperty hexpression hfixes => ?_⟩
  rw [Draft.capture_of_path hexpression hfixes, hproperty, hresolve]

/-- A path with a member, a position and a key that holds a mark of paths. -/
theorem Path.resolve_written_mixed :
    Expr.isName "a" = true ∧ "a" ∉ Expr.reserved ∧
    (∀ s ∈ [Access.member "null", .position 1, .quoted "k.[ "], s.isPlain = true) ∧
    Access.written "a" [.member "null", .position 1, .quoted "k.[ "] = "a.null[1]['k.[ ']" ∧
    ∃ scope : Scope,
      Evaluator.standard.value "a.null[1]['k.[ ']" scope.lookup = .ok (.string "v") ∧
      Statement.resolve scope "a.null[1]['k.[ ']" = .string "v" := by
  have hname : Expr.isName "a" = true := by decide +kernel
  have hfree : "a" ∉ Expr.reserved := by decide +kernel
  have hplain : ∀ s ∈ [Access.member "null", .position 1, .quoted "k.[ "], s.isPlain = true := by
    decide +kernel
  have hwritten : Access.written "a" [.member "null", .position 1, .quoted "k.[ "] =
      "a.null[1]['k.[ ']" := by
    decide +kernel
  have hparse := Expr.parse_of_written (Expr.written_of_access hname hfree hplain)
  have hvalue : Evaluator.standard.value
      (Access.written "a" [.member "null", .position 1, .quoted "k.[ "])
      (Scope.lookup ⟨.object [("a", .object [("null",
        .array [.null, .object [("k.[ ", .string "v")]])])], .null, [], []⟩) =
        .ok (.string "v") := by
    rw [Evaluator.standard_value_of_parse hparse]
    rfl
  have hresolve := ((Path.resolve_written hname hfree hplain).2 _ _ hvalue).1
  rw [hwritten] at hvalue hresolve
  exact ⟨hname, hfree, hplain, hwritten, _, hvalue, hresolve⟩

end

end QueryTemplate
