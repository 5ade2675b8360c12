import Mathlib
import QueryTemplate.Evaluator
import QueryTemplate.Scope
import QueryTemplate.Proofs.Binary.Value
import QueryTemplate.Proofs.Grammar.RoundTrip

/-!
# Equality and order agree

The expression language has an equality for values of all kinds and an order for some pairs of
kinds.  The values are those of JSON texts (`Value.IsJson`): no name stands twice in an object.

* `Value.order?_swap`, `Value.looseEq_comm`: two values can change places.
* `Value.looseEq_of_order?`: values that are ordered are equal exactly when they are ordered as
  equals.
* `Evaluator.compared_coherent`: what the comparisons of two names answer, all in all.
-/

namespace QueryTemplate

/-! ### Numbers -/

namespace Number

variable {a b : Number} {o : Ordering}

theorem floatOrder?_swap (x y : Float) :
    floatOrder? y x = (floatOrder? x y).map Ordering.swap := by
  rw [Binary.floatOrder?_eq_compare, Binary.floatOrder?_eq_compare]
  exact Binary.compare_swap _ _

theorem order?_swap (a b : Number) : b.order? a = (a.order? b).map Ordering.swap := by
  rw [order?, order?]
  cases a.signed? with
  | none => cases b.signed? <;> exact floatOrder?_swap _ _
  | some m =>
    cases b.signed? with
    | none => exact floatOrder?_swap _ _
    | some n => exact congrArg some Std.OrientedCmp.eq_swap

theorem same_of_order? (h : a.order? b = some o) : a.same b = (o == .eq) := by
  rw [same, h]
  rfl

theorem same_comm (a b : Number) : a.same b = b.same a := by
  rw [same, same, order?_swap b a]
  rcases b.order? a with _ | _ | _ | _ <;> rfl

protected theorem beq_comm (a b : Number) : (a == b) = (b == a) := by
  cases a with
  | whole m =>
    cases b with
    | whole n =>
      show (m == n) = (n == m)
      exact Bool.beq_comm
    | float y => rfl
  | float x =>
    cases b with
    | whole n => rfl
    | float y =>
      show (x == y) = (y == x)
      rw [Bool.eq_iff_iff, Binary.beq_iff_compare_unpack, Binary.beq_iff_compare_unpack,
        Binary.compare_swap y.toModel.unpack x.toModel.unpack]
      rcases Float.Model.UnpackedFloat.compare y.toModel.unpack x.toModel.unpack with
        _ | _ | _ | _ <;> decide

end Number

/-! ### Values without double names -/

/-- The value is one that JSON has: no name stands twice in an object, at any depth. -/
inductive Value.IsJson : Value → Prop
  | null : IsJson .null
  | bool (b : Bool) : IsJson (.bool b)
  | number (n : Number) : IsJson (.number n)
  | string (s : String) : IsJson (.string s)
  | array {items : List Value} (h : ∀ v ∈ items, IsJson v) : IsJson (.array items)
  | object {members : Members} (names : (members.map (·.1)).Nodup)
      (h : ∀ m ∈ members, IsJson m.2) : IsJson (.object members)

namespace Members

variable {m other : Members} {name : String} {v : Value}

theorem mem_of_lookup (h : m.lookup name = some v) : (name, v) ∈ m := by
  obtain ⟨before, after, rfl, -⟩ := List.lookup_eq_some_iff.mp h
  exact List.mem_append_right _ List.mem_cons_self

theorem lookup_of_mem (hnames : (m.map (·.1)).Nodup) (h : (name, v) ∈ m) :
    m.lookup name = some v := by
  obtain ⟨before, after, rfl⟩ := List.append_of_mem h
  refine List.lookup_eq_some_iff.mpr ⟨before, after, rfl, fun p hp => ?_⟩
  rw [List.map_append, List.map_cons] at hnames
  rw [bne_iff_ne]
  rintro rfl
  have hdisjoint := (List.nodup_append.mp hnames).2.2
  exact hdisjoint p.1 (List.mem_map_of_mem hp) p.1 List.mem_cons_self rfl

end Members

namespace Value

variable {a b : Value} {o : Ordering}

theorem beqMembers_iff {m other : Members} : beqMembers m other = true ↔
    ∀ p ∈ m, ∃ v, other.lookup p.1 = some v ∧ (p.2 == v) = true := by
  induction m with
  | nil => simp [beqMembers]
  | cons entry rest ih =>
    obtain ⟨name, a⟩ := entry
    rw [beqMembers, Bool.and_eq_true, ih, List.forall_mem_cons]
    refine and_congr_left' ?_
    cases other.lookup name with
    | none => simp
    | some v =>
      show (a == v) = true ↔ _
      simp

/-- Of two objects with equally many members, the one holds equal members for those of the
other if it is so the other way round. -/
theorem beqMembers_of_beqMembers {m other : Members} (hm : (m.map (·.1)).Nodup)
    (hother : (other.map (·.1)).Nodup) (hlength : m.length = other.length)
    (hswap : ∀ p ∈ m, ∀ q ∈ other, (p.2 == q.2) = (q.2 == p.2))
    (h : beqMembers m other = true) : beqMembers other m = true := by
  rw [beqMembers_iff] at h ⊢
  -- the names of `m` are names of `other`, and there are no more of these
  have hsubset : m.map (·.1) ⊆ other.map (·.1) := by
    intro name hname
    obtain ⟨p, hp, rfl⟩ := List.mem_map.mp hname
    obtain ⟨v, hv, -⟩ := h p hp
    exact List.mem_map.mpr ⟨(p.1, v), Members.mem_of_lookup hv, rfl⟩
  have hperm : (m.map (·.1)).Perm (other.map (·.1)) :=
    (List.subperm_of_subset hm hsubset).perm_of_length_le (by simp [hlength])
  intro q hq
  obtain ⟨p, hp, hname⟩ := List.mem_map.mp (hperm.mem_iff.mpr (List.mem_map_of_mem hq))
  obtain ⟨v, hv, heq⟩ := h p hp
  rw [hname, Members.lookup_of_mem hother hq] at hv
  obtain rfl := Option.some.inj hv
  refine ⟨p.2, ?_, ?_⟩
  · rw [← hname]
    exact Members.lookup_of_mem hm hp
  · rw [← hswap p hp q hq]
    exact heq

theorem beqItems_comm {items other : List Value}
    (hswap : ∀ v ∈ items, ∀ w ∈ other, (v == w) = (w == v)) :
    beqItems items other = beqItems other items := by
  induction items generalizing other with
  | nil => cases other <;> rfl
  | cons v items ih =>
    cases other with
    | nil => rfl
    | cons w other =>
      have hhead : Value.beq v w = Value.beq w v :=
        hswap v List.mem_cons_self w List.mem_cons_self
      rw [beqItems, beqItems, hhead, ih fun v hv w hw =>
        hswap v (List.mem_cons_of_mem _ hv) w (List.mem_cons_of_mem _ hw)]

/-- **Equality of values is symmetric.** -/
protected theorem beq_comm (ha : a.IsJson) (hb : b.IsJson) : (a == b) = (b == a) := by
  induction ha generalizing b with
  | null => cases b <;> rfl
  | bool p =>
    cases b with
    | bool q =>
      show (p == q) = (q == p)
      exact Bool.beq_comm
    | null | number | string | array | object => rfl
  | number n =>
    cases b with
    | number k => exact Number.beq_comm n k
    | null | bool | string | array | object => rfl
  | string s =>
    cases b with
    | string t =>
      show (s == t) = (t == s)
      exact Bool.beq_comm
    | null | bool | number | array | object => rfl
  | array h ih =>
    cases hb with
    | array h' => exact beqItems_comm fun v hv w hw => ih v hv (h' w hw)
    | null | bool | number | string | object => rfl
  | @object members names h ih =>
    cases hb with
    | @object other names' h' =>
      have hswap : ∀ p ∈ members, ∀ q ∈ other, (p.2 == q.2) = (q.2 == p.2) :=
        fun p hp q hq => ih p hp (h' q hq)
      show (members.length == other.length && beqMembers members other) =
        (other.length == members.length && beqMembers other members)
      by_cases hlength : members.length = other.length
      · rw [hlength, Bool.eq_iff_iff, Bool.and_eq_true, Bool.and_eq_true]
        refine and_congr_right' ⟨beqMembers_of_beqMembers names names' hlength hswap, ?_⟩
        exact beqMembers_of_beqMembers names' names hlength.symm
          fun q hq p hp => (hswap p hp q hq).symm
      · rw [beq_false_of_ne hlength, beq_false_of_ne (Ne.symm hlength)]
        rfl
    | null | bool | number | string | array => rfl

/-! ### Values across their kinds -/

/-- **The order turns around** when two values change places, and so does being without one. -/
theorem order?_swap (a b : Value) : b.order? a = (a.order? b).map Ordering.swap := by
  cases a <;> cases b
  case string.string s t => exact congrArg some Std.OrientedCmp.eq_swap
  case bool.bool p q => exact congrArg some Std.OrientedCmp.eq_swap
  case number.number m n => exact Number.order?_swap m n
  case string.number s n =>
    show (do n.order? (← Number.ofText? s)) = (do (← Number.ofText? s).order? n).map _
    cases Number.ofText? s with
    | none => rfl
    | some m => exact Number.order?_swap m n
  case number.string n s =>
    show (do (← Number.ofText? s).order? n) = (do n.order? (← Number.ofText? s)).map _
    cases Number.ofText? s with
    | none => rfl
    | some m => exact Number.order?_swap n m
  all_goals rfl

/-- **Equality is symmetric across kinds.** -/
theorem looseEq_comm (ha : a.IsJson) (hb : b.IsJson) : a.looseEq b = b.looseEq a := by
  cases a <;> cases b
  case number.number m n => exact Number.same_comm m n
  case bool.bool => exact Value.beq_comm ha hb
  case string.string => exact Value.beq_comm ha hb
  case array.array => exact Value.beq_comm ha hb
  case object.object => exact Value.beq_comm ha hb
  all_goals rfl

/-- **Values that are ordered are equal exactly when they are ordered as equals.** -/
theorem looseEq_of_order? (h : a.order? b = some o) : a.looseEq b = (o == .eq) := by
  cases a <;> cases b
  case string.string s t =>
    obtain rfl := Option.some.inj h
    show (s == t) = (compare s t == .eq)
    rw [Bool.eq_iff_iff, beq_iff_eq, beq_iff_eq, Std.LawfulEqCmp.compare_eq_iff_eq]
  case bool.bool p q =>
    obtain rfl := Option.some.inj h
    show (p == q) = (compare p q == .eq)
    cases p <;> cases q <;> rfl
  case number.number m n => exact Number.same_of_order? h
  case string.number s n =>
    obtain ⟨m, hm, hmn⟩ := Option.bind_eq_some_iff.mp h
    show writesNumber s n = _
    rw [writesNumber, hm]
    exact Number.same_of_order? hmn
  case number.string n s =>
    obtain ⟨m, hm, hnm⟩ := Option.bind_eq_some_iff.mp h
    show writesNumber s n = _
    rw [writesNumber, hm]
    show m.same n = _
    rw [Number.same_comm]
    exact Number.same_of_order? hnm
  all_goals cases h

end Value

/-! ### Comparisons -/

def BinaryOp.orderings : List BinaryOp :=
  [.lt, .le, .gt, .ge]

namespace Expr

/-- Values without an order fail in every comparison that asks for one. -/
theorem apply_eq_error_of_order? {a b : Value} (h : a.order? b = none) {op : BinaryOp}
    (hop : op ∈ BinaryOp.orderings) : apply op a b = .error (.noOrder a b) := by
  simp only [BinaryOp.orderings, List.mem_cons, List.not_mem_nil, or_false] at hop
  rcases hop with rfl | rfl | rfl | rfl <;> rw [apply, ordered, h]

theorem text_binary_variable (op : BinaryOp) (x y : String) :
    (binary op (.variable x) (.variable y)).text = x ++ " " ++ sign op ++ " " ++ y := by
  have hrank : (Place.level (levelOf op)).rank ≤ (Place.level .disjunction).rank :=
    Place.rank_le_disjunction _
  rw [text, print, enclosed, if_pos hrank, print, print, ← String.toList_inj]
  simp

end Expr

namespace Evaluator

def compared (scope : String → Option Value) (op : BinaryOp) (x y : String) :
    Except ExprError Value :=
  standard.value (x ++ " " ++ Expr.sign op ++ " " ++ y) scope

section

variable {scope : String → Option Value} {x y : String} {a b : Value} {op : BinaryOp}

theorem compared_eq (hx : (Expr.variable x).isPlain = true)
    (hy : (Expr.variable y).isPlain = true) (ha : scope x = some a) (hb : scope y = some b)
    (hor : op ≠ .or) (hand : op ≠ .and) : compared scope op x y =
      (Expr.apply op a b).mapError fun fault =>
        .failed (x ++ " " ++ Expr.sign op ++ " " ++ y) fault.message := by
  have hplain : (Expr.binary op (.variable x) (.variable y)).isPlain = true := by
    rw [Expr.isPlain, hx, hy]
    rfl
  have hparse := Expr.parse_of_renders (Expr.renders_text hplain)
  rw [Expr.text_binary_variable] at hparse
  rw [compared, standard_value_of_parse hparse, Expr.eval_binary hor hand, Expr.eval, Expr.eval,
    ha, hb]
  rfl

theorem compared_of_apply (hx : (Expr.variable x).isPlain = true)
    (hy : (Expr.variable y).isPlain = true) (ha : scope x = some a) (hb : scope y = some b)
    (hor : op ≠ .or) (hand : op ≠ .and) {v : Value} (h : Expr.apply op a b = .ok v) :
    compared scope op x y = .ok v := by
  rw [compared_eq hx hy ha hb hor hand, h]
  rfl

theorem exists_compared_eq_error (hx : (Expr.variable x).isPlain = true)
    (hy : (Expr.variable y).isPlain = true) (ha : scope x = some a) (hb : scope y = some b)
    (h : a.order? b = none) (hop : op ∈ BinaryOp.orderings) :
    ∃ e, compared scope op x y = .error e := by
  have hne : op ≠ .or ∧ op ≠ .and := by
    constructor <;> rintro rfl <;> revert hop <;> decide
  rw [compared_eq hx hy ha hb hne.1 hne.2, Expr.apply_eq_error_of_order? h hop]
  exact ⟨_, rfl⟩

theorem compared_equality (hx : (Expr.variable x).isPlain = true)
    (hy : (Expr.variable y).isPlain = true) (ha : scope x = some a) (hb : scope y = some b) :
    compared scope .eq x y = .ok (.bool (a.looseEq b)) ∧
      compared scope .ne x y = .ok (.bool (!a.looseEq b)) :=
  ⟨compared_of_apply hx hy ha hb (by decide) (by decide) rfl,
    compared_of_apply hx hy ha hb (by decide) (by decide) rfl⟩

theorem compared_order (hx : (Expr.variable x).isPlain = true)
    (hy : (Expr.variable y).isPlain = true) (ha : scope x = some a) (hb : scope y = some b)
    {o : Ordering} (h : a.order? b = some o) :
    compared scope .lt x y = .ok (.bool (o == .lt)) ∧
      compared scope .le x y = .ok (.bool (o != .gt)) ∧
      compared scope .gt x y = .ok (.bool (o == .gt)) ∧
      compared scope .ge x y = .ok (.bool (o != .lt)) := by
  have hordered : ∀ accepted, Expr.ordered accepted a b = .ok (.bool (accepted o)) := by
    intro accepted
    rw [Expr.ordered, h]
  exact ⟨compared_of_apply hx hy ha hb (by decide) (by decide) (hordered (· == .lt)),
    compared_of_apply hx hy ha hb (by decide) (by decide) (hordered (· != .gt)),
    compared_of_apply hx hy ha hb (by decide) (by decide) (hordered (· == .gt)),
    compared_of_apply hx hy ha hb (by decide) (by decide) (hordered (· != .lt))⟩

/-- **Equality and order of two names agree.**  Equality has one answer in both directions.  The
orderings fail all together, or they all have an answer, the same for `x` and `y` as the
opposite one for `y` and `x`; then `x` is less than `y`, equal to it, or greater, and no two of
these. -/
theorem compared_coherent (hx : (Expr.variable x).isPlain = true)
    (hy : (Expr.variable y).isPlain = true) (ha : scope x = some a) (hb : scope y = some b)
    (haJson : a.IsJson) (hbJson : b.IsJson) :
    ∃ e : Bool,
      (compared scope .eq x y = .ok (.bool e) ∧ compared scope .eq y x = .ok (.bool e)) ∧
      (compared scope .ne x y = .ok (.bool (!e)) ∧ compared scope .ne y x = .ok (.bool (!e))) ∧
      ((∀ op ∈ BinaryOp.orderings, (∃ err, compared scope op x y = .error err) ∧
          ∃ err, compared scope op y x = .error err) ∨
        ∃ lt gt : Bool,
          (compared scope .lt x y = .ok (.bool lt) ∧ compared scope .gt y x = .ok (.bool lt)) ∧
          (compared scope .gt x y = .ok (.bool gt) ∧ compared scope .lt y x = .ok (.bool gt)) ∧
          (compared scope .le x y = .ok (.bool (!gt)) ∧
            compared scope .ge y x = .ok (.bool (!gt))) ∧
          (compared scope .ge x y = .ok (.bool (!lt)) ∧
            compared scope .le y x = .ok (.bool (!lt))) ∧
          (!gt) = (lt || e) ∧ [lt, e, gt].count true = 1) := by
  have hswap := Value.order?_swap a b
  obtain ⟨heq, hne⟩ := compared_equality hx hy ha hb
  obtain ⟨heq', hne'⟩ := compared_equality hy hx hb ha
  rw [Value.looseEq_comm hbJson haJson] at heq' hne'
  refine ⟨a.looseEq b, ⟨heq, heq'⟩, ⟨hne, hne'⟩, ?_⟩
  cases ho : a.order? b with
  | none =>
    rw [ho] at hswap
    exact .inl fun op hop =>
      ⟨exists_compared_eq_error hx hy ha hb ho hop, exists_compared_eq_error hy hx hb ha hswap hop⟩
  | some o =>
    rw [ho] at hswap
    obtain ⟨hlt, hle, hgt, hge⟩ := compared_order hx hy ha hb ho
    obtain ⟨hlt', hle', hgt', hge'⟩ := compared_order hy hx hb ha hswap
    rw [Value.looseEq_of_order? ho]
    refine .inr ⟨o == .lt, o == .gt, ?_⟩
    -- one case for each way in which the values can be ordered
    cases o with
    | lt => exact ⟨⟨hlt, hgt'⟩, ⟨hgt, hlt'⟩, ⟨hle, hge'⟩, ⟨hge, hle'⟩, rfl, rfl⟩
    | eq => exact ⟨⟨hlt, hgt'⟩, ⟨hgt, hlt'⟩, ⟨hle, hge'⟩, ⟨hge, hle'⟩, rfl, rfl⟩
    | gt => exact ⟨⟨hlt, hgt'⟩, ⟨hgt, hlt'⟩, ⟨hle, hge'⟩, ⟨hge, hle'⟩, rfl, rfl⟩

end

/-- A string that writes a number comes before a larger number.  Two objects are equal whatever
the order of their members is, and neither comes before the other. -/
theorem compared_coherent_mixed :
    let scope (a b : Value) : String → Option Value :=
      Scope.lookup { parameter := .object [("x", a), ("y", b)] }
    let mixed := scope (.string " 5 ") (.ofInt 7)
    let objects := scope (.object [("k", .null), ("l", .bool true)])
      (.object [("l", .bool true), ("k", .null)])
    (standard.value "x < y" mixed = .ok (.bool true) ∧
      standard.value "y == x" mixed = .ok (.bool false) ∧
      standard.value "y >= x" mixed = .ok (.bool true)) ∧
    standard.value "x == y" objects = .ok (.bool true) ∧
      standard.value "y == x" objects = .ok (.bool true) ∧
      ∃ e, standard.value "y < x" objects = .error e := by
  intro scope mixed objects
  have hx : (Expr.variable "x").isPlain = true := by decide
  have hy : (Expr.variable "y").isPlain = true := by decide
  constructor
  · have ha : mixed "x" = some (.string " 5 ") := rfl
    have hb : mixed "y" = some (.ofInt 7) := rfl
    have happly : Expr.apply .lt (.string " 5 ") (.ofInt 7) = .ok (.bool true) := by cbv
    have hless := compared_of_apply hx hy ha hb (by decide) (by decide) happly
    obtain ⟨e, ⟨-, heq⟩, -, hfails | ⟨lt, gt, ⟨hlt, -⟩, -, ⟨-, hge⟩, -, -, hone⟩⟩ :=
      compared_coherent hx hy ha hb (.string _) (.number _)
    · obtain ⟨⟨err, herr⟩, -⟩ := hfails .lt (by decide)
      cases hless.symm.trans herr
    · obtain rfl : true = lt := Value.bool.inj (Except.ok.inj (hless.symm.trans hlt))
      obtain ⟨rfl, rfl⟩ : e = false ∧ gt = false := by
        revert hone
        cases e <;> cases gt <;> decide
      exact ⟨hlt, heq, hge⟩
  · have ha : objects "x" = some (.object [("k", .null), ("l", .bool true)]) := rfl
    have hb : objects "y" = some (.object [("l", .bool true), ("k", .null)]) := rfl
    have happly : Expr.apply .eq (.object [("k", .null), ("l", .bool true)])
        (.object [("l", .bool true), ("k", .null)]) = .ok (.bool true) := rfl
    have hequal := compared_of_apply hx hy ha hb (by decide) (by decide) happly
    have hjson : ∀ v ∈ [Value.null, .bool true], v.IsJson := by
      simp [Value.IsJson.null, Value.IsJson.bool]
    obtain ⟨e, ⟨heq, heq'⟩, -, hfails | ⟨lt, gt, ⟨hlt, -⟩, -⟩⟩ :=
      compared_coherent hx hy ha hb (.object (by decide) (by simpa using hjson))
        (.object (by decide) (by simpa [and_comm] using hjson))
    · obtain rfl : true = e := Value.bool.inj (Except.ok.inj (hequal.symm.trans heq))
      exact ⟨heq, heq', (hfails .lt (by decide)).2⟩
    · obtain ⟨err, herr⟩ := exists_compared_eq_error hx hy ha hb rfl
        (show BinaryOp.lt ∈ BinaryOp.orderings by decide)
      cases hlt.symm.trans herr

end Evaluator

end QueryTemplate
