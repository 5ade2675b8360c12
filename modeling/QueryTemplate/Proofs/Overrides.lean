import Mathlib
import QueryTemplate.Proofs.Clause

/-!
# Which override is taken off the end

A clause tries its overrides in the order of their falling size as they are declared, those of
one size in the order of declaration, and takes the first that fits (`Clause.Foremost`).  At the
end of a body the blanks at the end of an override do not count, so that the order in which the
overrides are tried need not be the order of what they take away: an override with more blanks at
its end (`Clause.slack`) may be tried before one that would take away more.

* `Clause.foremost_of_find?`: the first one in the sorted list is the foremost one.
* `Clause.core_foremost`: the foremost override goes, and only one with fewer blanks at its end
  would have taken away more.
* `Clause.exists_longer_trail`: such a one is passed over.
-/

namespace QueryTemplate.Clause

/-- Of the overrides that fit, one of those with the most bytes, and of these the one that is
declared first. -/
def Foremost (overrides : List String) (fits : String → Prop) (o : String) : Prop :=
  ∃ before after, overrides = before ++ o :: after ∧ fits o ∧
    (∀ o' ∈ before, fits o' → o'.utf8ByteSize < o.utf8ByteSize) ∧
    ∀ o' ∈ after, fits o' → o'.utf8ByteSize ≤ o.utf8ByteSize

def slack (o : String) : Nat :=
  Text.byteLength (o.toList.drop (Text.trimEnd o.toList).length)

section Foremost

variable {overrides : List String} {fits : String → Prop} {o x : String}

theorem Foremost.mem (h : Foremost overrides fits o) : o ∈ overrides := by
  obtain ⟨before, after, rfl, -⟩ := h
  exact List.mem_append_right _ List.mem_cons_self

theorem Foremost.fits_self (h : Foremost overrides fits o) : fits o := by
  obtain ⟨before, after, rfl, hfits, -⟩ := h
  exact hfits

theorem Foremost.size_le (h : Foremost overrides fits o) {o' : String} (ho' : o' ∈ overrides)
    (hfits : fits o') : o'.utf8ByteSize ≤ o.utf8ByteSize := by
  obtain ⟨before, after, rfl, -, hbefore, hafter⟩ := h
  rcases List.mem_append.mp ho' with ho' | ho'
  · exact (hbefore o' ho' hfits).le
  · rcases List.mem_cons.mp ho' with rfl | ho'
    · exact le_rfl
    · exact hafter o' ho' hfits

/-- An override declared before the others keeps the foremost one if it does not fit or is
smaller. -/
theorem Foremost.cons (h : Foremost overrides fits o)
    (hx : fits x → x.utf8ByteSize < o.utf8ByteSize) : Foremost (x :: overrides) fits o := by
  obtain ⟨before, after, rfl, hfits, hbefore, hafter⟩ := h
  refine ⟨x :: before, after, rfl, hfits, ?_, hafter⟩
  intro o' ho'
  rcases List.mem_cons.mp ho' with rfl | ho'
  · exact hx
  · exact hbefore o' ho'

end Foremost

/-- **The first override that fits in the sorted list is the foremost one**: sorting keeps the
order of overrides of one size. -/
theorem foremost_of_find? (p : String → Bool) {overrides : List String} {k : String}
    (h : (longestFirst (overrides.map capital)).find? p = some k) :
    ∃ o, capital o = k ∧ Foremost overrides (fun o => p (capital o) = true) o := by
  induction overrides generalizing k with
  | nil => simp [longestFirst] at h
  | cons x xs ih =>
    -- `capital x` stands in front of all that are not larger
    obtain ⟨larger, rest, hcons, htail, hlarger⟩ :=
      List.mergeSort_cons longer_trans longer_total (capital x) (xs.map capital)
    rw [longestFirst, List.map_cons, hcons, List.find?_append, List.find?_cons] at h
    rw [longestFirst, htail, List.find?_append] at ih
    have hsorted := longestFirst_sorted ((x :: xs).map capital)
    rw [longestFirst, List.map_cons, hcons] at hsorted
    cases hf : larger.find? p with
    | some k' =>
      rw [hf] at h ih
      obtain rfl : k' = k := Option.some.inj h
      obtain ⟨o, ho, hforemost⟩ := ih rfl
      refine ⟨o, ho, hforemost.cons fun _ => ?_⟩
      have hsize := hlarger _ (List.mem_of_find?_eq_some hf)
      rw [← ho] at hsize
      simpa [utf8ByteSize_capital] using hsize
    | none =>
      rw [hf, Option.none_or] at h ih
      cases hp : p (capital x) with
      | false =>
        rw [hp] at h
        obtain ⟨o, ho, hforemost⟩ := ih h
        exact ⟨o, ho, hforemost.cons fun hx => absurd hx (by simp [hp])⟩
      | true =>
        rw [hp] at h
        refine ⟨x, Option.some.inj h, [], xs, rfl, hp, by simp, ?_⟩
        intro o' ho' hfits
        have hin : capital o' ∈ larger ++ rest := by
          rw [← htail, List.mem_mergeSort]
          exact List.mem_map_of_mem ho'
        rcases List.mem_append.mp hin with hin | hin
        · exact absurd hfits (List.find?_eq_none.mp hf _ hin)
        · have hsize := (List.pairwise_cons.mp (List.pairwise_append.mp hsorted).2.1).1 _ hin
          rwa [utf8ByteSize_capital, utf8ByteSize_capital] at hsize

theorem byteLength_trimEnd_add_slack (o : String) :
    Text.byteLength (Text.trimEnd o.toList) + slack o = o.utf8ByteSize := by
  have hsplit : Text.trimEnd o.toList ++ o.toList.drop (Text.trimEnd o.toList).length =
      o.toList := by
    have htake := List.prefix_iff_eq_take.mp (Text.trimEnd_isPrefix o.toList)
    conv_lhs => enter [1]; rw [htake]
    exact List.take_append_drop _ _
  rw [slack, ← Text.byteLength_append, hsplit, Text.byteLength_toList]

theorem byteLength_of_eqIgnoreCase {s t : List Char} (h : Text.eqIgnoreCase s t = true) :
    Text.byteLength s = Text.byteLength t := by
  rw [← Text.byteLength_asciiUppercase s, ← Text.byteLength_asciiUppercase t, eq_of_beq h]

/-- Of two overrides at the end of a body, the one with less in front of it is the longer one,
the blanks at its end apart. -/
theorem Closes.byteLength_lt {body front front' : List Char} {o o' : String}
    (h : Closes body o front) (h' : Closes body o' front') (hlt : front'.length < front.length) :
    Text.byteLength (Text.trimEnd o.toList) < Text.byteLength (Text.trimEnd o'.toList) := by
  obtain ⟨last, rfl, hlast, -⟩ := h
  obtain ⟨last', hbody, hlast', -⟩ := h'
  rw [byteLength_of_eqIgnoreCase hlast, byteLength_of_eqIgnoreCase hlast']
  obtain ⟨between, rfl, rfl⟩ : ∃ between, front = front' ++ between ∧ last' = between ++ last := by
    rcases List.append_eq_append_iff.mp hbody with ⟨between, hfront, -⟩ | h
    · have := congrArg List.length hfront
      rw [List.length_append] at this
      omega
    · exact h
  obtain ⟨c, tail, rfl⟩ : ∃ c tail, between = c :: tail :=
    List.exists_cons_of_ne_nil (by rintro rfl; simp at hlt)
  have hc := Char.utf8Size_pos c
  rw [Text.byteLength_append, Text.byteLength]
  omega

/-! ### The end of a body -/

theorem stripTrail_foremost (overrides : List String) (body : List Char) :
    ((∀ o ∈ overrides, ∀ front, ¬ Closes body o front) ∧
        stripTrail (longestFirst (overrides.map capital)) body = body) ∨
      ∃ o front, Foremost overrides (fun o => ∃ front, Closes body o front) o ∧
        Closes body o front ∧
        stripTrail (longestFirst (overrides.map capital)) body = Text.trimEnd front := by
  let p : String → Bool := fun k => endsIn (Text.asciiUppercase body) (Text.trimEnd k.toList)
  have hp : ∀ o, p (capital o) = true ↔ ∃ front, Closes body o front :=
    endsIn_asciiUppercase_iff body
  simp only [stripTrail, List.find?_map, Function.comp_def]
  cases hf : (longestFirst (overrides.map capital)).find? p with
  | none =>
    refine .inl ⟨fun o ho front hcloses => ?_, rfl⟩
    have hin : capital o ∈ longestFirst (overrides.map capital) := by
      rw [longestFirst, List.mem_mergeSort]
      exact List.mem_map_of_mem ho
    exact List.find?_eq_none.mp hf _ hin ((hp o).mpr ⟨front, hcloses⟩)
  | some k =>
    obtain ⟨o, rfl, hforemost⟩ := foremost_of_find? p hf
    rw [funext fun o => propext (hp o)] at hforemost
    obtain ⟨front, hcloses⟩ := hforemost.fits_self
    exact .inr ⟨o, front, hforemost, hcloses, congrArg Text.trimEnd hcloses.take_eq⟩

/-- **Which override goes off the end of a body.**  It is the foremost one of those that stand
there, and one that would take away more has fewer blanks at its end: so the longest one goes if
the foremost one has no more blanks at its end than the others. -/
theorem core_foremost {lead trail : Option String} {leads trails : List String} {clause : Clause}
    (hmake : make lead trail leads trails = .ok clause) (body : List Char) :
    ∃ rest, Taken leads (Opens (Text.trim body)) Text.trimStart (Text.trim body) rest ∧
      (((∀ o ∈ trails, ∀ front, ¬ Closes rest o front) ∧ clause.core body = rest) ∨
        ∃ o front, Foremost trails (fun o => ∃ front, Closes rest o front) o ∧
          Closes rest o front ∧ clause.core body = Text.trimEnd front ∧
          ∀ o' ∈ trails, ∀ front', Closes rest o' front' → front'.length < front.length →
            o'.utf8ByteSize ≤ o.utf8ByteSize ∧ slack o' < slack o) := by
  obtain ⟨-, rfl⟩ := make_eq_ok_iff.mp hmake
  refine ⟨_, taken_stripLead leads _, ?_⟩
  rcases stripTrail_foremost trails (stripLead (longestFirst (leads.map capital)) (Text.trim body))
    with hnone | ⟨o, front, hforemost, hcloses, hcore⟩
  · exact .inl hnone
  · refine .inr ⟨o, front, hforemost, hcloses, hcore, ?_⟩
    intro o' ho' front' hcloses' hlt
    have hsize := hforemost.size_le ho' ⟨front', hcloses'⟩
    have hbytes := hcloses.byteLength_lt hcloses' hlt
    rw [← byteLength_trimEnd_add_slack o, ← byteLength_trimEnd_add_slack o'] at hsize ⊢
    exact ⟨hsize, by omega⟩

/-- Without blanks at the end of an override a longest one goes, wherever it is declared. -/
theorem core_foremost_or_and :
    ∃ clause, make none none [] ["AND", "OR AND", ","] = .ok clause ∧
      clause.core " x or and ".toList = "x".toList ∧
      ∃ o ∈ ["AND", "OR AND", ","], ∃ front, Closes "x or and".toList o front ∧
        Text.trimEnd front = "x".toList ∧
        ∀ o' ∈ ["AND", "OR AND", ","], ∀ front', Closes "x or and".toList o' front' →
          front.length ≤ front'.length := by
  let clause : Clause := { trailOverrides := ["OR AND", "AND", ","] }
  have hmake : make none none [] ["AND", "OR AND", ","] = .ok clause := by cbv
  have hcore : clause.core " x or and ".toList = "x".toList := by decide +kernel
  obtain ⟨rest, hlead, hrest⟩ := core_foremost hmake " x or and ".toList
  obtain rfl : rest = "x or and".toList := by
    cases hlead with
    | kept => decide +kernel
    | taken ho => cases ho
  rw [hcore] at hrest
  refine ⟨clause, hmake, hcore, ?_⟩
  rcases hrest with ⟨-, heq⟩ | ⟨o, front, hforemost, hcloses, heq, hlonger⟩
  · exact absurd heq (by decide)
  · refine ⟨o, hforemost.mem, front, hcloses, heq.symm, fun o' ho' front' hcloses' => ?_⟩
    by_contra hlt
    have hslack := (hlonger o' ho' front' hcloses' (Nat.lt_of_not_le hlt)).2
    have hnone : ∀ o ∈ ["AND", "OR AND", ","], slack o = 0 := by decide +kernel
    rw [hnone o hforemost.mem] at hslack
    exact Nat.not_lt_zero _ hslack

/-- **A longer override is passed over**: blanks at the end of a shorter one put it first. -/
theorem exists_longer_trail :
    ∃ clause, make none none [] ["AND    ", "OR AND"] = .ok clause ∧
      clause.core "x OR AND".toList = "x OR".toList ∧
      Closes "x OR AND".toList "OR AND" "x ".toList ∧
      ∀ o ∈ ["AND    ", "OR AND"], ∀ front, Closes "x OR AND".toList o front →
        clause.core "x OR AND".toList = Text.trimEnd front → "x ".toList.length < front.length := by
  refine ⟨{ trailOverrides := ["AND    ", "OR AND"] }, by cbv, by decide +kernel,
    ⟨"OR AND".toList, rfl, by decide +kernel, ?_⟩, ?_⟩
  · rintro ⟨c, d, hc, hword, -⟩
    obtain rfl : ' ' = c := Option.some.inj hc
    exact absurd hword (by decide +kernel)
  · intro o ho front hcloses hcore
    have hlength : 4 ≤ front.length := by
      have htrim : (Text.trimEnd front).length = 4 := by
        rw [← hcore]
        decide +kernel
      rw [← htrim]
      exact (Text.trimEnd_isPrefix front).length_le
    exact lt_of_lt_of_le (by decide) hlength

end QueryTemplate.Clause
