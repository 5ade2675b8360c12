import Mathlib
import QueryTemplate.Proofs.Run.Frame
import QueryTemplate.Proofs.Text

/-!
# What a clause keeps of a body

A clause takes at most one override off the start of a body and at most one off its end.
It keeps its overrides in capitals and sorted, and compares them with a capital copy of
the body; here the same is said of the overrides as they were declared and of the body as
it stands (`Clause.Taken`).

* `Clause.taken_of_find?`: the first override that fits, in the order that a clause tries
  them in, is a longest one that fits.
* `Clause.taken_stripLead`, `Clause.taken_stripTrail`: what is taken off either end.
* `Clause.Taken.isSuffix`, `Clause.Taken.isPrefix`: what is left is a piece of the body.
* `Clause.Taken.isTrimmed_lead`, `Clause.Taken.isTrimmed_trail`: it has no blank at its ends.
* `Node.compose_trim_of_make`: what a trimmed node adds to a draft.
-/

namespace QueryTemplate

namespace Clause

/-! ### Overrides as they are declared -/

def Opens (body : List Char) (o : String) (rest : List Char) : Prop :=
  ∃ front, body = front ++ rest ∧ Text.eqIgnoreCase o.toList front = true

/-- The override without the blanks at its end stands at the end of the body, in any case,
with `front` before it, and cuts no word there. -/
def Closes (body : List Char) (o : String) (front : List Char) : Prop :=
  ∃ last, body = front ++ last ∧ Text.eqIgnoreCase (Text.trimEnd o.toList) last = true ∧
    ¬ ∃ c d, front.getLast? = some c ∧ isWordChar c = true ∧
      (Text.trimEnd o.toList).head? = some d ∧ isWordChar d = true

/-- At most one of the overrides is taken off a body: one as soon as one fits, and then no
longer one does.  `fits o rest` says that the body is `rest` with the override `o` at the end
where overrides are taken off, and `trim` takes the blanks off the end that this leaves. -/
inductive Taken (overrides : List String) (fits : String → List Char → Prop)
    (trim : List Char → List Char) (body : List Char) : List Char → Prop
  | kept (h : ∀ o ∈ overrides, ∀ rest, ¬ fits o rest) : Taken overrides fits trim body body
  | taken {o : String} {rest : List Char} (ho : o ∈ overrides) (h : fits o rest)
      (hlongest : ∀ o' ∈ overrides, ∀ rest', fits o' rest' → o'.utf8ByteSize ≤ o.utf8ByteSize) :
      Taken overrides fits trim body (trim rest)

def capital (o : String) : String :=
  String.ofList (Text.asciiUppercase o.toList)

@[simp] theorem toList_capital (o : String) :
    (capital o).toList = Text.asciiUppercase o.toList := by
  simp [capital]

theorem utf8ByteSize_capital (o : String) : (capital o).utf8ByteSize = o.utf8ByteSize := by
  rw [← Text.byteLength_toList, ← Text.byteLength_toList, toList_capital,
    Text.byteLength_asciiUppercase]

theorem normalize_eq_ok_iff {overrides kept : List String} :
    normalize overrides = .ok kept ↔
      (∀ o ∈ overrides, Text.isAllBlank o = false) ∧
        kept = longestFirst (overrides.map capital) := by
  rw [normalize]
  cases h : overrides.find? Text.isAllBlank with
  | some blank =>
    refine ⟨fun hk => (by cases hk), ?_⟩
    rintro ⟨hblank, -⟩
    have hb : Text.isAllBlank blank = true := List.find?_some h
    rw [hblank blank (List.mem_of_find?_eq_some h)] at hb
    cases hb
  | none =>
    have hblank : ∀ o ∈ overrides, Text.isAllBlank o = false := by
      simpa using List.find?_eq_none.mp h
    exact ⟨fun hk => ⟨hblank, (Except.ok.inj hk).symm⟩, fun ⟨_, hk⟩ => hk ▸ rfl⟩

theorem longer_trans (a b c : String) (hab : decide (b.utf8ByteSize ≤ a.utf8ByteSize) = true)
    (hbc : decide (c.utf8ByteSize ≤ b.utf8ByteSize) = true) :
    decide (c.utf8ByteSize ≤ a.utf8ByteSize) = true := by
  simp only [decide_eq_true_eq] at *
  omega

theorem longer_total (a b : String) : (decide (b.utf8ByteSize ≤ a.utf8ByteSize) ||
    decide (a.utf8ByteSize ≤ b.utf8ByteSize)) = true := by
  simp only [Bool.or_eq_true, decide_eq_true_eq]
  omega

theorem longestFirst_sorted (overrides : List String) :
    (longestFirst overrides).Pairwise fun a b => b.utf8ByteSize ≤ a.utf8ByteSize := by
  simpa [longestFirst] using List.pairwise_mergeSort longer_trans longer_total overrides

/-- **The first override that fits is a longest one that fits.**  `p` tests an override in
capitals, where `fits` speaks of the override as it is declared. -/
theorem taken_of_find? (overrides : List String) (p : String → Bool)
    (fits : String → List Char → Prop) (trim : List Char → List Char) (body : List Char)
    (hp : ∀ o, p (capital o) = true ↔ ∃ rest, fits o rest) :
    ((longestFirst (overrides.map capital)).find? p = none ∧
        Taken overrides fits trim body body) ∨
      ∃ o rest, (longestFirst (overrides.map capital)).find? p = some (capital o) ∧
        fits o rest ∧ Taken overrides fits trim body (trim rest) := by
  have hmem : ∀ k, k ∈ longestFirst (overrides.map capital) ↔ ∃ o ∈ overrides, capital o = k := by
    intro k
    rw [longestFirst, List.mem_mergeSort, List.mem_map]
  cases hf : (longestFirst (overrides.map capital)).find? p with
  | none =>
    refine .inl ⟨rfl, .kept fun o ho rest hfits => ?_⟩
    have hno := List.find?_eq_none.mp hf (capital o) ((hmem _).mpr ⟨o, ho, rfl⟩)
    exact hno ((hp o).mpr ⟨rest, hfits⟩)
  | some k =>
    obtain ⟨o, ho, rfl⟩ := (hmem k).mp (List.mem_of_find?_eq_some hf)
    -- an override that fits stands in the sorted list where the first one is found or behind it
    obtain ⟨hfound, before, after, hsplit, hbefore⟩ := List.find?_eq_some_iff_append.mp hf
    obtain ⟨rest, hfits⟩ := (hp o).mp hfound
    refine .inr ⟨o, rest, rfl, hfits, .taken ho hfits fun o' ho' rest' hfits' => ?_⟩
    have hsorted := longestFirst_sorted (overrides.map capital)
    have hin := (hmem _).mpr ⟨o', ho', rfl⟩
    rw [hsplit] at hsorted hin
    rw [← utf8ByteSize_capital o, ← utf8ByteSize_capital o']
    rcases List.mem_append.mp hin with hin | hin
    · have hno := hbefore _ hin
      rw [(hp o').mpr ⟨rest', hfits'⟩] at hno
      cases hno
    · rcases List.mem_cons.mp hin with heq | hin
      · rw [heq]
      · exact (List.pairwise_cons.mp (List.pairwise_append.mp hsorted).2.1).1 _ hin

/-! ### Both ends of a body -/

theorem isWordChar_toUpper (c : Char) : isWordChar c.toUpper = isWordChar c :=
  Text.toUpper_of_forall (by decide) c

theorem startsWord_iff {before override : List Char} :
    startsWord before override = true ↔
      ¬ ∃ c d, before.getLast? = some c ∧ isWordChar c = true ∧
        override.head? = some d ∧ isWordChar d = true := by
  rw [startsWord]
  cases before.getLast? <;> cases override.head? <;> simp [or_comm, imp_iff_or_not]

theorem startsWord_asciiUppercase (before override : List Char) :
    startsWord (Text.asciiUppercase before) (Text.asciiUppercase override) =
      startsWord before override := by
  simp only [startsWord, Text.asciiUppercase, List.head?_map, List.getLast?_map, Option.any_map,
    isWordChar_toUpper]

theorem isPrefixOf_asciiUppercase_iff (body : List Char) (o : String) :
    (capital o).toList.isPrefixOf (Text.asciiUppercase body) = true ↔
      ∃ rest, Opens body o rest := by
  rw [toList_capital, List.isPrefixOf_iff_prefix, Text.asciiUppercase_prefix_iff]
  rfl

/-- **What a clause takes off the start of a body.** -/
theorem taken_stripLead (overrides : List String) (body : List Char) :
    Taken overrides (Opens body) Text.trimStart body
      (stripLead (longestFirst (overrides.map capital)) body) := by
  rw [stripLead]
  rcases taken_of_find? overrides (fun o => o.toList.isPrefixOf (Text.asciiUppercase body))
    (Opens body) Text.trimStart body (isPrefixOf_asciiUppercase_iff body) with
    ⟨hf, h⟩ | ⟨o, rest, hf, ⟨front, hbody, hfront⟩, h⟩
  · rw [hf]
    exact h
  · rw [hf]
    have hrest : body.drop (capital o).toList.length = rest := by
      rw [toList_capital, Text.length_asciiUppercase, Text.length_of_eqIgnoreCase hfront, hbody,
        List.drop_left]
    show Taken _ _ _ _ (Text.trimStart (body.drop (capital o).toList.length))
    rw [hrest]
    exact h

theorem endsIn_asciiUppercase_iff (body : List Char) (o : String) :
    endsIn (Text.asciiUppercase body) (Text.trimEnd (capital o).toList) = true ↔
      ∃ front, Closes body o front := by
  rw [endsIn, Bool.and_eq_true, List.isSuffixOf_iff_suffix, toList_capital,
    Text.trimEnd_asciiUppercase, Text.asciiUppercase_suffix_iff, Text.length_asciiUppercase,
    Text.length_asciiUppercase]
  have htake : ∀ front last : List Char,
      Text.eqIgnoreCase (Text.trimEnd o.toList) last = true →
        (Text.asciiUppercase (front ++ last)).take
          ((front ++ last).length - (Text.trimEnd o.toList).length) =
            Text.asciiUppercase front := by
    intro front last hlast
    rw [Text.length_of_eqIgnoreCase hlast, List.length_append, Nat.add_sub_cancel,
      Text.asciiUppercase_append, List.take_left' (Text.length_asciiUppercase front)]
  constructor
  · rintro ⟨⟨front, last, rfl, hlast⟩, hword⟩
    rw [htake front last hlast, startsWord_asciiUppercase] at hword
    exact ⟨front, last, rfl, hlast, startsWord_iff.mp hword⟩
  · rintro ⟨front, last, rfl, hlast, hword⟩
    refine ⟨⟨front, last, rfl, hlast⟩, ?_⟩
    rw [htake front last hlast, startsWord_asciiUppercase]
    exact startsWord_iff.mpr hword

theorem Closes.take_eq {body : List Char} {o : String} {front : List Char}
    (h : Closes body o front) :
    body.take (body.length - (Text.trimEnd (capital o).toList).length) = front := by
  obtain ⟨last, rfl, hlast, -⟩ := h
  rw [toList_capital, Text.trimEnd_asciiUppercase, Text.length_asciiUppercase,
    Text.length_of_eqIgnoreCase hlast, List.length_append, Nat.add_sub_cancel, List.take_left]

/-- **What a clause takes off the end of a body.** -/
theorem taken_stripTrail (overrides : List String) (body : List Char) :
    Taken overrides (Closes body) Text.trimEnd body
      (stripTrail (longestFirst (overrides.map capital)) body) := by
  simp only [stripTrail, List.find?_map, Function.comp_def]
  rcases taken_of_find? overrides
    (fun o => endsIn (Text.asciiUppercase body) (Text.trimEnd o.toList)) (Closes body)
    Text.trimEnd body (endsIn_asciiUppercase_iff body) with
    ⟨hf, h⟩ | ⟨o, front, hf, hcloses, h⟩
  · rw [hf]
    exact h
  · rw [hf]
    show Taken _ _ _ _
      (Text.trimEnd (body.take (body.length - (Text.trimEnd (capital o).toList).length)))
    rw [hcloses.take_eq]
    exact h

/-! ### What is left of a body -/

section Core

variable {overrides : List String} {body rest : List Char}

theorem Taken.isSuffix (h : Taken overrides (Opens body) Text.trimStart body rest) :
    rest <:+ body := by
  cases h with
  | kept h => exact List.suffix_refl _
  | taken ho h hlongest =>
    obtain ⟨front, rfl, -⟩ := h
    exact (List.dropWhile_suffix _).trans (List.suffix_append _ _)

theorem Taken.isPrefix (h : Taken overrides (Closes body) Text.trimEnd body rest) :
    rest <+: body := by
  cases h with
  | kept h => exact List.prefix_refl _
  | taken ho h hlongest =>
    obtain ⟨last, rfl, -⟩ := h
    exact (Text.trimEnd_isPrefix _).trans (List.prefix_append _ _)

theorem Taken.isTrimmed_lead (h : Taken overrides (Opens body) Text.trimStart body rest)
    (hbody : Text.isTrimmed body = true) : Text.isTrimmed rest = true := by
  rw [Text.isTrimmed_iff] at hbody ⊢
  refine ⟨?_, Text.getLast?_of_isSuffix h.isSuffix hbody.2⟩
  cases h with
  | kept h => exact hbody.1
  | taken ho h hlongest => exact Text.head?_trimStart _

theorem Taken.isTrimmed_trail (h : Taken overrides (Closes body) Text.trimEnd body rest)
    (hbody : Text.isTrimmed body = true) : Text.isTrimmed rest = true := by
  rw [Text.isTrimmed_iff] at hbody ⊢
  refine ⟨Text.head?_of_isPrefix h.isPrefix hbody.1, ?_⟩
  cases h with
  | kept h => exact hbody.2
  | taken ho h hlongest => exact Text.getLast?_trimEnd _

end Core

def around (lead trail : Option String) (text : String) : String :=
  leadText (lead.filter (!·.isEmpty)) ++ text ++ trailText (trail.filter (!·.isEmpty))

theorem make_eq_ok_iff {lead trail : Option String} {leads trails : List String}
    {clause : Clause} :
    make lead trail leads trails = .ok clause ↔
      (∀ o ∈ leads ++ trails, Text.isAllBlank o = false) ∧
        clause = {
          lead := lead.filter (!·.isEmpty), trail := trail.filter (!·.isEmpty)
          leadOverrides := longestFirst (leads.map capital)
          trailOverrides := longestFirst (trails.map capital) } := by
  rw [List.forall_mem_append]
  constructor
  · intro h
    obtain ⟨kept, hkept, h⟩ := Outcome.bind_eq_ok_iff.mp h
    obtain ⟨kept', hkept', h⟩ := Outcome.bind_eq_ok_iff.mp h
    obtain ⟨hleads, rfl⟩ := normalize_eq_ok_iff.mp hkept
    obtain ⟨htrails, rfl⟩ := normalize_eq_ok_iff.mp hkept'
    exact ⟨⟨hleads, htrails⟩, (Outcome.pure_eq_ok_iff.mp h).symm⟩
  · rintro ⟨⟨hleads, htrails⟩, rfl⟩
    refine Outcome.bind_eq_ok_iff.mpr ⟨_, normalize_eq_ok_iff.mpr ⟨hleads, rfl⟩, ?_⟩
    exact Outcome.bind_eq_ok_iff.mpr ⟨_, normalize_eq_ok_iff.mpr ⟨htrails, rfl⟩, rfl⟩

theorem core_of_trim_eq_nil (clause : Clause) {body : List Char} (h : Text.trim body = []) :
    clause.core body = [] := by
  have hlead : stripLead clause.leadOverrides [] = [] := by
    rw [stripLead]
    split
    · rw [List.drop_nil]
      rfl
    · rfl
  have htrail : stripTrail clause.trailOverrides [] = [] := by
    rw [stripTrail]
    split
    · rw [List.take_nil]
      rfl
    · rfl
  rw [core, h, hlead, htrail]

/-- A clause is there exactly when something is left of its body. -/
theorem wrap?_eq (clause : Clause) (body : String) :
    clause.wrap? body =
      if clause.core body.toList = [] then none
      else some (leadText clause.lead ++ String.ofList (clause.core body.toList) ++
        trailText clause.trail) := by
  rw [wrap?]
  by_cases hb : Text.isAllBlank body = true
  · rw [if_pos hb, if_pos (core_of_trim_eq_nil clause (Text.trim_eq_nil_iff.mpr (List.all_eq_true.mp hb)))]
  · rw [if_neg hb]
    by_cases hc : clause.core body.toList = []
    · simp [hc]
    · simp [hc]

/-- What is left of a body, by the overrides as they were declared. -/
theorem exists_taken_core {lead trail : Option String} {leads trails : List String}
    {clause : Clause} (hmake : make lead trail leads trails = .ok clause) (body : List Char) :
    ∃ rest, Taken leads (Opens (Text.trim body)) Text.trimStart (Text.trim body) rest ∧
      Taken trails (Closes rest) Text.trimEnd rest (clause.core body) := by
  obtain ⟨-, rfl⟩ := make_eq_ok_iff.mp hmake
  exact ⟨_, taken_stripLead leads _, taken_stripTrail trails _⟩

theorem wrap?_of_make {lead trail : Option String} {leads trails : List String}
    {clause : Clause} (hmake : make lead trail leads trails = .ok clause) (body : String) :
    clause.wrap? body =
      if clause.core body.toList = [] then none
      else some (around lead trail (String.ofList (clause.core body.toList))) := by
  rw [wrap?_eq]
  obtain ⟨-, rfl⟩ := make_eq_ok_iff.mp hmake
  rfl

end Clause

/-! ### Trimmed nodes -/

theorem Node.compose_trim {c : Configuration} {clause : Clause} {child : Node} {d inner : Draft}
    (h : child.compose c d.nested = .ok inner) :
    (Node.trim clause child).compose c d =
      .ok ((clause.wrap? inner.sql).elim (d.resume inner) (d.resume inner).appendClause) := by
  rw [Node.compose, h]
  simp only [Bind.bind, Except.bind, pure, Except.pure]
  cases clause.wrap? inner.sql <;> rfl

/-- **What a trimmed node adds.**  At most one override is taken off the start of what its child
writes and at most one off the end, in any case and a longest one of those that fit.  What is
left is a piece of what the child writes, without blanks at its ends; it stands between the
words of the clause, set off by a space, and nothing is added when nothing is left. -/
theorem Node.compose_trim_of_make {lead trail : Option String} {leads trails : List String}
    {clause : Clause} {c : Configuration} {child : Node} {d inner : Draft}
    (hmake : Clause.make lead trail leads trails = .ok clause)
    (hchild : child.compose c d.nested = .ok inner) :
    ∃ body core,
      Clause.Taken leads (Clause.Opens (Text.trim inner.sql.toList)) Text.trimStart
        (Text.trim inner.sql.toList) body ∧
      Clause.Taken trails (Clause.Closes body) Text.trimEnd body core ∧
      core = clause.core inner.sql.toList ∧ core <:+: inner.sql.toList ∧
      Text.isTrimmed core = true ∧ (Text.trim inner.sql.toList = [] → core = []) ∧
      (Node.trim clause child).compose c d = .ok (if core = [] then d.resume inner
        else (d.resume inner).append ((if Draft.needsGap d.sql then " " else "") ++
          Clause.around lead trail (String.ofList core))) := by
  obtain ⟨body, hlead, htrail⟩ := Clause.exists_taken_core hmake inner.sql.toList
  refine ⟨body, _, hlead, htrail, rfl, ?_, ?_, Clause.core_of_trim_eq_nil clause, ?_⟩
  · exact htrail.isPrefix.isInfix.trans (hlead.isSuffix.isInfix.trans (Text.trim_infix _))
  · exact htrail.isTrimmed_trail (hlead.isTrimmed_lead (Text.isTrimmed_trim _))
  · rw [Node.compose_trim hchild, Clause.wrap?_of_make hmake]
    split
    · rfl
    · rw [Option.elim_some, Draft.appendClause, Draft.append, Draft.gap_eq, String.append_assoc]
      rfl

/-- The longer one of two overrides goes, and the end of a word is not taken for one. -/
theorem Node.compose_trim_of_make_brand :
    ∃ (clause : Clause) (d inner : Draft) (body : List Char),
      Clause.make (some "WHERE") (some "") ["AND", "and "] [",", "and"] = .ok clause ∧
      (Node.static " And x = brand ").compose {} d.nested = .ok inner ∧
      Clause.Taken ["AND", "and "] (Clause.Opens (Text.trim " And x = brand ".toList))
        Text.trimStart (Text.trim " And x = brand ".toList) body ∧
      Clause.Taken [",", "and"] (Clause.Closes body) Text.trimEnd body "x = brand".toList ∧
      d.sql = "select" ∧ (Node.trim clause (.static " And x = brand ")).compose {} d =
        .ok { d with sql := "select WHERE x = brand" } := by
  let clause : Clause :=
    { lead := some "WHERE", leadOverrides := ["AND ", "AND"], trailOverrides := ["AND", ","] }
  let d : Draft := { scope := { parameter := .null }, sql := "select" }
  have hmake : Clause.make (some "WHERE") (some "") ["AND", "and "] [",", "and"] = .ok clause := by
    cbv
  have hchild : (Node.static " And x = brand ").compose {} d.nested =
      .ok { d.nested with sql := " And x = brand " } := by
    cbv
  have hcore : clause.core " And x = brand ".toList = "x = brand".toList := by
    decide +kernel
  have hgap : Draft.needsGap "select" = true := by
    decide +kernel
  obtain ⟨body, core, hlead, htrail, rfl, -, -, -, h⟩ :=
    Node.compose_trim_of_make hmake hchild
  rw [hcore] at htrail h
  refine ⟨clause, d, _, body, hmake, hchild, hlead, htrail, rfl, h.trans ?_⟩
  rw [if_neg (by decide), hgap]
  rfl

end QueryTemplate
