import QueryTemplate.Proofs.Digits
import QueryTemplate.Proofs.Grammar.Plain
import QueryTemplate.Proofs.Grammar.Reading

/-!
# Writing and reading expressions

Every expression without floats that the parser may return can be written, and each text
that writes it, whatever its spellings, quotes, gaps and parentheses, is read as this
expression.

* `renders_text`: the printer writes the expression.
* `round_trip`: what is written is read back, and what was read can be written.
-/

namespace QueryTemplate.Expr

open Text (IsGaps)

/-! ### Literals -/

theorem writtenLiteral_toDigits {n : Whole} (hlow : 0 ≤ n.val) (hhigh : n.val ≤ maxSigned) :
    WrittenLiteral (.number (.whole n)) (Nat.toDigits 10 n.val.toNat) := by
  refine .whole Decimal.digitsOf_ne_nil (fun _ => Decimal.isDigit_of_mem_digitsOf) ?_ hhigh
  calc (Decimal.valueOfDigits (Decimal.digitsOf n.val.toNat) : Int) = n.val.toNat := by
        rw [Decimal.valueOfDigits_digitsOf]
    _ = n.val := Int.toNat_of_nonneg hlow

theorem writtenInside_self {quote : Char} {s : List Char} (h : ∀ c ∈ s, c ≠ quote ∧ c ≠ '\\') :
    WrittenInside quote s s := by
  induction s with
  | nil => exact .nil
  | cons c s ih =>
    obtain ⟨hc, hrest⟩ := List.forall_mem_cons.mp h
    exact .itself hc.1 hc.2 (ih hrest)

theorem writtenInside_printChar (s : List Char) : WrittenInside '\'' s (s.flatMap printChar) := by
  induction s with
  | nil => exact .nil
  | cons c s ih =>
    rw [List.flatMap_cons, printChar]
    split
    · next hc =>
      have hsame : unescape c = c := by
        rcases Bool.or_eq_true_iff.mp hc with hc | hc <;> rw [eq_of_beq hc] <;> decide
      have hescaped := WrittenInside.escaped (c := c) ih
      rw [hsame] at hescaped
      exact hescaped
    · next hc =>
      rw [Bool.or_eq_true, not_or] at hc
      exact .itself (by simpa using hc.1) (by simpa using hc.2) ih

/-- **The printer writes literals.** -/
theorem writtenLiteral_print {value : Value} (h : isPlainLiteral value = true) :
    WrittenLiteral value (printLiteral value) := by
  cases value with
  | null => exact .null
  | bool b => exact .bool b
  | number n =>
    cases n with
    | whole n =>
      obtain ⟨hlow, hhigh⟩ := Bool.and_eq_true_iff.mp h
      exact writtenLiteral_toDigits (of_decide_eq_true hlow) (of_decide_eq_true hhigh)
    | float x => cases h
  | string s =>
    have hwritten := WrittenLiteral.string (.inl rfl) (writtenInside_printChar s.toList)
    rw [String.ofList_toList] at hwritten
    exact hwritten
  | array items => cases h
  | object members => cases h

/-! ### Places -/

theorem Place.rank_le_operands {q : Place} {l : Level} (h : q.rank ≤ (Place.level l).rank)
    (hne : q ≠ .level l) : q.rank ≤ l.operands.rank := by
  cases q with
  | level l' => cases l <;> cases l' <;> simp_all [Place.rank, Level.rank, Level.operands]
  | unary => cases l <;> decide
  | postfixed => exact Nat.zero_le _

/-- What is written at a place may stand at all looser ones. -/
theorem Written.loosen {q : Place} {e : Expr} {s : List Char} (h : Written q e s) :
    (p : Place) → q.rank ≤ p.rank → Written p e s
  | .postfixed, hrank => by
    cases q with
    | level l => cases l <;> exact absurd hrank (by decide)
    | unary => exact absurd hrank (by decide)
    | postfixed => exact h
  | .unary, hrank => by
    cases q with
    | level l => cases l <;> exact absurd hrank (by decide)
    | unary => exact h
    | postfixed => exact .postfixed h
  | .level l, hrank => by
    by_cases hq : q = .level l
    · exact hq ▸ h
    · exact .operand (h.loosen l.operands (Place.rank_le_operands hrank hq))
termination_by p => p.rank
decreasing_by exact l.rank_operands_lt

theorem Place.rank_le_disjunction (q : Place) : q.rank ≤ (Place.level .disjunction).rank := by
  cases q with
  | level l => exact l.rank_le
  | unary => decide
  | postfixed => decide

/-- What is written at a place is read, as a whole text. -/
theorem parse_of_written {q : Place} {e : Expr} {text : String} (h : Written q e text.toList) :
    parse text = .ok e := by
  refine parse_of_renders ⟨[], text.toList, [], isGaps_nil, isGaps_nil, ?_,
    h.loosen _ q.rank_le_disjunction⟩
  rw [List.nil_append, List.append_nil]

theorem Written.enclosed {q : Place} {e : Expr} {s : List Char} (h : Written q e s) (p : Place) :
    Written p e (enclosed p q s) := by
  rw [Expr.enclosed]
  split
  · next hrank => exact h.loosen p hrank
  · have hloose := h.loosen (.level .disjunction) q.rank_le_disjunction
    have hparens := Written.parens isGaps_nil hloose isGaps_nil
    exact hparens.loosen p (Nat.zero_le _)

/-! ### Expressions -/

theorem sign_mem_spellings (op : BinaryOp) : (.sign (sign op), op) ∈ (levelOf op).spellings := by
  cases op <;> decide

theorem ofName?_methodName (method : Method) :
    Method.ofName? (methodName method) = some method := by
  cases method <;> decide

theorem beside_space (spelling : Spelling) : spelling.Beside [' '] := by
  refine ⟨?_, fun _ => List.cons_ne_nil _ _⟩
  intro c hc
  obtain rfl := List.mem_singleton.mp hc
  rfl

/-- **The printer writes the expression**, at any place. -/
theorem written_print (e : Expr) (h : e.isPlain = true) (p : Place) :
    Written p e (e.print p) := by
  induction e generalizing p with
  | literal value => exact (Written.literal (writtenLiteral_print h)).loosen p (Nat.zero_le _)
  | «variable» name =>
    obtain ⟨hname, hfree⟩ := Bool.and_eq_true_iff.mp h
    exact (Written.named hname (by simpa using hfree)).loosen p (Nat.zero_le _)
  | member base name ih =>
    obtain ⟨hbase, hname⟩ := Bool.and_eq_true_iff.mp h
    have hwritten := Written.member (ih hbase .postfixed) isGaps_nil isGaps_nil hname
    exact hwritten.loosen p (Nat.zero_le _)
  | index base key ih ihkey =>
    obtain ⟨hbase, hkey⟩ := Bool.and_eq_true_iff.mp h
    have hwritten := Written.index (ih hbase .postfixed) isGaps_nil isGaps_nil
      (ihkey hkey (.level .disjunction)) isGaps_nil
    exact hwritten.loosen p (Nat.zero_le _)
  | call base method ih =>
    have hwritten := Written.call (ih h .postfixed) isGaps_nil isGaps_nil
      (ofName?_methodName method) isGaps_nil isGaps_nil
    exact hwritten.loosen p (Nat.zero_le _)
  | not e ih =>
    have hbang : Spelling.sign "!" ∈ negations := by decide
    have hbeside : (Spelling.sign "!").Beside [] := ⟨isGaps_nil, fun hword => by cases hword⟩
    exact (Written.not hbang hbeside (ih h .unary)).enclosed p
  | negate e ih => exact (Written.negate isGaps_nil (ih h .unary)).enclosed p
  | binary op left right ih ihright =>
    obtain ⟨hleft, hright⟩ := Bool.and_eq_true_iff.mp h
    have hwritten := Written.binary (sign_mem_spellings op) (ih hleft (.level (levelOf op)))
      (beside_space _) (beside_space _) (ihright hright (levelOf op).operands)
    exact hwritten.enclosed p

theorem renders_text {e : Expr} (h : e.isPlain = true) : e.Renders e.text := by
  refine ⟨[], e.print (.level .disjunction), [], isGaps_nil, isGaps_nil, ?_, written_print e h _⟩
  rw [text, String.toList_ofList, List.nil_append, List.append_nil]

/-- **Writing an expression and reading it again gives the expression back**: every text that
writes it is read as it, and one that was read and holds no float can be written. -/
theorem round_trip (e : Expr) :
    (e.isPlain = true → e.Renders e.text ∧ ∀ text, e.Renders text → parse text = .ok e) ∧
      ∀ text, parse text = .ok e → e.hasFloat = false →
        e.isPlain = true ∧ parse e.text = .ok e := by
  refine ⟨fun hplain => ⟨renders_text hplain, fun text => parse_of_renders⟩, ?_⟩
  intro text hparse hfloat
  have hplain := isPlain_of_parse hparse hfloat
  exact ⟨hplain, parse_of_renders (renders_text hplain)⟩

def mixed : Expr :=
  .binary .and (.not (.binary .or (.variable "order") (.variable "notx")))
    (.binary .le
      (.negate (.call (.index (.member (.variable "a") "and") (.literal (.string "k'"))) .size))
      (.binary .sub (.binary .sub (.literal (.ofInt 3)) (.literal (.ofInt 2)))
        (.literal (.ofInt 1))))

theorem renders_words :
    (binary .or (.not (.variable "a")) (.variable "b")).Renders "not a or\tb" := by
  have hleft : Written (.level .disjunction) (.not (.variable "a")) "not a".toList :=
    (Written.not (List.mem_cons_of_mem _ List.mem_cons_self) (beside_space (.word "not"))
      (.postfixed (.named (by decide) (by decide)))).loosen _ (by decide)
  have hright : Written Level.disjunction.operands (.variable "b") "b".toList :=
    (Written.named (by decide) (by decide)).loosen _ (by decide)
  have htab : (Spelling.word "or").Beside ['\t'] := by
    refine ⟨?_, fun _ => List.cons_ne_nil _ _⟩
    intro c hc
    obtain rfl := List.mem_singleton.mp hc
    rfl
  have hor : (Spelling.word "or", BinaryOp.or) ∈ Level.disjunction.spellings := by decide
  exact ⟨[], _, [], isGaps_nil, isGaps_nil, by decide,
    .binary hor hleft (beside_space _) htab hright⟩

theorem round_trip_mixed :
    mixed.isPlain = true ∧ mixed.hasFloat = false ∧
      mixed.text = "!(order || notx) && -a.and['k\\''].size() <= 3 - 2 - 1" ∧
      parse mixed.text = .ok mixed ∧
      parse "not a or\tb" = .ok (.binary .or (.not (.variable "a")) (.variable "b")) := by
  have hplain : mixed.isPlain = true := by decide
  have hfloat : mixed.hasFloat = false := by decide
  have htext : mixed.text = "!(order || notx) && -a.and['k\\''].size() <= 3 - 2 - 1" := by
    decide
  obtain ⟨hrenders, hreads⟩ := (round_trip mixed).1 hplain
  have hparse : parse mixed.text = .ok mixed := hreads mixed.text hrenders
  obtain ⟨-, hagain⟩ := (round_trip mixed).2 mixed.text hparse hfloat
  have hwords : (binary .or (.not (.variable "a")) (.variable "b")).isPlain = true := by
    decide
  exact ⟨hplain, hfloat, htext, hagain, ((round_trip _).1 hwords).2 _ renders_words⟩

end QueryTemplate.Expr
