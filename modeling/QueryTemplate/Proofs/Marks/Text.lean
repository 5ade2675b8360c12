import Mathlib
import QueryTemplate.Proofs.Compose
import QueryTemplate.Proofs.Marks.Basic
import QueryTemplate.Proofs.Text

/-!
# Marks in composed texts

A composer cuts, wraps and joins the texts that its children write.  Each of these
steps keeps the marks of a text, as long as the marks have a sign: a character that
stands in every mark and in nothing that the composer writes of its own accord.

* `Sign`: what a sign is.
* `HoldsMarks.itemText`, `HoldsMarks.groupText`, `HoldsMarks.wrap`: connected parts
  and clauses keep the marks of their bodies, and hold none when they are left out.
* `HoldsMarks.written`, `HoldsMarks.collapsed`: so do loops and the shrinking of blanks.
-/

namespace QueryTemplate

/-- The character `k` stands once in each mark, and no mark holds a blank.  It is no
letter, digit, parenthesis or comma. -/
structure Sign (c : Configuration) (k : Char) : Prop where
  once : ∀ i, (c.marker i).toList.count k = 1
  noBlank : ∀ i, ∀ x ∈ (c.marker i).toList, Text.isBlank x = false
  notAlphanum : k.isAlphanum = false
  notPunctuation : k ≠ '(' ∧ k ≠ ')' ∧ k ≠ ','

abbrev HoldsMarks (c : Configuration) (k : Char) (i j : Nat) (s : String) : Prop :=
  Marked (fun n => (c.marker n).toList) k i j s.toList

def ApartFromMarks (c : Configuration) (text : String) : Prop :=
  ∀ x ∈ text.toList, ∀ n, ∀ y ∈ (c.marker n).toList, x.toUpper ≠ y.toUpper

/-- What a clause may hold when the marks have the sign `k`: no sign in its words, and
no character of a mark in its overrides. -/
structure Clause.ClearOf (clause : Clause) (c : Configuration) (k : Char) : Prop where
  lead : ∀ word, clause.lead = some word → k ∉ word.toList
  trail : ∀ word, clause.trail = some word → k ∉ word.toList
  overrides : ∀ o ∈ clause.leadOverrides ++ clause.trailOverrides, ApartFromMarks c o

structure Loop.ClearOf (loop : Loop) (k : Char) : Prop where
  opening : k ∉ loop.opening.toList
  closing : k ∉ loop.closing.toList
  separator : k ∉ loop.separator.toList

namespace Sign

variable {c : Configuration} {k : Char}

theorem mem (h : Sign c k) (n : Nat) : k ∈ (c.marker n).toList :=
  List.count_pos_iff.mp (by rw [h.once n]; decide)

theorem not_blank (h : Sign c k) : Text.isBlank k = false :=
  h.noBlank 0 k (h.mem 0)

theorem blank_not_mem (h : Sign c k) {x : Char} (hx : Text.isBlank x = true) (n : Nat) :
    x ∉ (c.marker n).toList := by
  intro hm
  rw [h.noBlank n x hm] at hx
  cases hx

def isOwn (x : Char) : Bool :=
  x.isAlphanum || x == '(' || x == ')' || x == ',' || x == ' '

theorem not_own (h : Sign c k) : isOwn k = false := by
  obtain ⟨hopen, hclose, hcomma⟩ := h.notPunctuation
  have hspace : k ≠ ' ' := by
    rintro rfl
    exact absurd h.not_blank (by decide)
  simp [isOwn, h.notAlphanum, hopen, hclose, hcomma, hspace]

theorem not_mem (h : Sign c k) {s : String} (hs : s.toList.all isOwn = true) :
    k ∉ s.toList := by
  intro hk
  have hown := List.all_eq_true.mp hs k hk
  rw [h.not_own] at hown
  cases hown

theorem word_not_mem (h : Sign c k) (w : Connector) : k ∉ w.word.toList := by
  cases w with
  | and => exact h.not_mem rfl
  | or => exact h.not_mem rfl

end Sign

/-! ### Blanks -/

section Blanks

variable {c : Configuration} {k : Char} {i j : Nat} {s : List Char}

theorem Marked.trimStart (hk : Sign c k)
    (h : Marked (fun n => (c.marker n).toList) k i j s) :
    Marked (fun n => (c.marker n).toList) k i j (Text.trimStart s) := by
  refine Marked.of_append_left (a := s.takeWhile Text.isBlank) hk.mem (fun x hx => ?_) ?_
  · exact hk.blank_not_mem (List.mem_takeWhile_imp hx)
  · rwa [Text.trimStart, List.takeWhile_append_dropWhile]

theorem Marked.trimEnd (hk : Sign c k)
    (h : Marked (fun n => (c.marker n).toList) k i j s) :
    Marked (fun n => (c.marker n).toList) k i j (Text.trimEnd s) := by
  refine Marked.of_append_right (b := (s.reverse.takeWhile Text.isBlank).reverse) hk.mem
    (fun x hx => ?_) ?_
  · exact hk.blank_not_mem (List.mem_takeWhile_imp (List.mem_reverse.mp hx))
  · rwa [Text.trimEnd, Text.dropEndWhile_append]

theorem Marked.trim (hk : Sign c k)
    (h : Marked (fun n => (c.marker n).toList) k i j s) :
    Marked (fun n => (c.marker n).toList) k i j (Text.trim s) :=
  (h.trimStart hk).trimEnd hk

theorem HoldsMarks.eq_of_isAllBlank {s : String} (hk : Sign c k) (h : HoldsMarks c k i j s)
    (hs : Text.isAllBlank s = true) : i = j := by
  refine h.eq_of_free hk.mem fun hm => ?_
  have hblank := List.all_eq_true.mp hs k hm
  rw [hk.not_blank] at hblank
  cases hblank

theorem HoldsMarks.free {s : String} (h : k ∉ s.toList) : HoldsMarks c k i i s :=
  Marked.free h

theorem HoldsMarks.append {l : Nat} {s t : String} (h : HoldsMarks c k i j s)
    (ht : HoldsMarks c k j l t) : HoldsMarks c k i l (s ++ t) := by
  rw [HoldsMarks, String.toList_append]
  exact Marked.append h ht

/-- **Shrinking the blanks of a text keeps its marks.** -/
theorem HoldsMarks.collapsed {s : String} (hk : Sign c k) (h : HoldsMarks c k i j s) :
    HoldsMarks c k i j (Text.collapsed s) := by
  have hwords : AllMarked (fun n => (c.marker n).toList) k i j (Text.words s.toList) :=
    (h.cutAt hk.mem fun x hx => hk.blank_not_mem hx).nonempty hk.mem
  have htexts : ((Text.words s.toList).map String.ofList).map String.toList =
      Text.words s.toList := by
    simp [Function.comp_def]
  rw [HoldsMarks, Text.collapsed, String.toList_intercalate, htexts]
  exact hwords.intercalate (hk.not_mem rfl)

end Blanks

/-! ### Connected parts and clauses -/

section Parts

variable {c : Configuration} {k : Char} {i j : Nat}

theorem HoldsMarks.itemText {body : String} (hk : Sign c k) (w : Connector)
    (h : HoldsMarks c k i j body) : HoldsMarks c k i j (w.itemText body) := by
  rw [Connector.itemText]
  by_cases hb : Text.isAllBlank body = true
  · rw [if_pos hb, h.eq_of_isAllBlank hk hb]
    exact .free (by simp)
  · rw [if_neg hb]
    have hspace : k ∉ " ".toList := hk.not_mem rfl
    have htrimmed : HoldsMarks c k i j (Text.trimmed body) := by
      rw [HoldsMarks, Text.toList_trimmed]
      exact Marked.trim hk h
    exact (((HoldsMarks.free hspace).append (.free (hk.word_not_mem w))).append
      (.free hspace)).append htrimmed

theorem isAlpha_of_mem_word {w : Connector} {x : Char}
    (h : x ∈ Text.asciiUppercase w.word.toList) : x.isAlpha = true := by
  have hall : (Text.asciiUppercase w.word.toList).all Char.isAlpha = true := by
    cases w <;> rfl
  exact List.all_eq_true.mp hall x h

/-- Taking a connector off the front of a text takes no mark: the blank behind the
connector stands in no mark, and a sign is no letter. -/
theorem Marked.stripOne (hk : Sign c k) {w : Connector} {body rest : List Char}
    (h : Marked (fun n => (c.marker n).toList) k i j body)
    (hr : Connector.stripOne? w body = some rest) :
    Marked (fun n => (c.marker n).toList) k i j rest := by
  simp only [Connector.stripOne?, Option.ite_none_right_eq_some, Bool.and_eq_true] at hr
  obtain ⟨⟨hword, hblank⟩, hrest⟩ := hr
  obtain rfl := Option.some.inj hrest
  rw [← List.take_append_drop w.word.toList.length body] at h
  cases hd : body.drop w.word.toList.length with
  | nil => simp [hd] at hblank
  | cons b r =>
    rw [hd] at h hblank
    have hb : Text.isBlank b = true := by simpa using hblank
    obtain ⟨m, him, hmj⟩ := h.split hk.mem (hk.blank_not_mem hb)
    have hfree : k ∉ body.take w.word.toList.length := by
      intro hm
      have hupper : k.toUpper ∈ Text.asciiUppercase w.word.toList := by
        rw [← beq_iff_eq.mp hword]
        exact List.mem_map_of_mem hm
      have halpha := isAlpha_of_mem_word hupper
      rw [Char.isAlpha_toUpper_eq_isAlpha] at halpha
      have hnot := hk.notAlphanum
      rw [Char.isAlphanum, halpha, Bool.true_or] at hnot
      cases hnot
    obtain rfl := him.eq_of_free hk.mem hfree
    rw [Text.trimStart, List.dropWhile_cons_of_pos hb]
    exact hmj.trimStart hk

theorem Marked.strip (hk : Sign c k) {body : List Char}
    (h : Marked (fun n => (c.marker n).toList) k i j body) :
    Marked (fun n => (c.marker n).toList) k i j (Connector.strip body) := by
  rw [Connector.strip]
  cases hand : Connector.stripOne? .and body with
  | some rest => exact h.stripOne hk hand
  | none =>
    cases hor : Connector.stripOne? .or body with
    | some rest => exact h.stripOne hk hor
    | none => exact h

theorem HoldsMarks.groupText {body : String} (hk : Sign c k) (w : Connector)
    (h : HoldsMarks c k i j body) : HoldsMarks c k i j (w.groupText body) := by
  have hinner := (Marked.trim hk h).strip hk
  rw [Connector.groupText]
  by_cases he : (Connector.strip (Text.trim body.toList)).isEmpty = true
  · rw [List.isEmpty_iff.mp he] at hinner
    rw [if_pos he, hinner.eq_of_free hk.mem List.not_mem_nil]
    exact .free (by simp)
  · rw [if_neg he]
    have hinner' :
        HoldsMarks c k i j (String.ofList (Connector.strip (Text.trim body.toList))) := by
      rw [HoldsMarks, String.toList_ofList]
      exact hinner
    exact ((((HoldsMarks.free (hk.not_mem rfl)).append (.free (hk.word_not_mem w))).append
      (.free (hk.not_mem rfl))).append hinner').append (.free (hk.not_mem rfl))

theorem Marked.stripLead (hk : Sign c k) {overrides : List String} {body : List Char}
    (ho : ∀ o ∈ overrides, ApartFromMarks c o)
    (h : Marked (fun n => (c.marker n).toList) k i j body) :
    Marked (fun n => (c.marker n).toList) k i j (Clause.stripLead overrides body) := by
  rw [Clause.stripLead]
  cases hf : overrides.find? fun o => o.toList.isPrefixOf (Text.asciiUppercase body) with
  | none => exact h
  | some o =>
    have hprefix : o.toList <+: Text.asciiUppercase body :=
      List.isPrefixOf_iff_prefix.mp (by simpa using List.find?_some hf)
    have hupper : Text.asciiUppercase (body.take o.toList.length) = o.toList := by
      rw [Text.asciiUppercase, List.map_take]
      exact (List.prefix_iff_eq_take.mp hprefix).symm
    rw [← List.take_append_drop o.toList.length body] at h
    refine Marked.trimStart hk (h.of_append_left hk.mem fun x hx n hmark => ?_)
    refine ho o (List.mem_of_find?_eq_some hf) x.toUpper ?_ n x hmark
      (Char.toUpper_toUpper_eq_toUpper x)
    rw [← hupper]
    exact List.mem_map_of_mem hx

theorem Marked.stripTrail (hk : Sign c k) {overrides : List String} {body : List Char}
    (ho : ∀ o ∈ overrides, ApartFromMarks c o)
    (h : Marked (fun n => (c.marker n).toList) k i j body) :
    Marked (fun n => (c.marker n).toList) k i j (Clause.stripTrail overrides body) := by
  rw [Clause.stripTrail]
  cases hf : (overrides.map fun o => Text.trimEnd o.toList).find?
      (Clause.endsIn (Text.asciiUppercase body)) with
  | none => exact h
  | some e =>
    obtain ⟨o, hmem, rfl⟩ := List.mem_map.mp (List.mem_of_find?_eq_some hf)
    have hends : Clause.endsIn (Text.asciiUppercase body) (Text.trimEnd o.toList) = true := by
      simpa using List.find?_some hf
    simp only [Clause.endsIn, Bool.and_eq_true] at hends
    have hsuffix : Text.trimEnd o.toList <:+ Text.asciiUppercase body :=
      List.isSuffixOf_iff_suffix.mp hends.1
    have hupper : Text.asciiUppercase (body.drop (body.length - (Text.trimEnd o.toList).length)) =
        Text.trimEnd o.toList := by
      have hdrop := List.suffix_iff_eq_drop.mp hsuffix
      rw [Text.length_asciiUppercase] at hdrop
      rw [Text.asciiUppercase, List.map_drop]
      exact hdrop.symm
    rw [← List.take_append_drop (body.length - (Text.trimEnd o.toList).length) body] at h
    refine Marked.trimEnd hk (h.of_append_right hk.mem fun x hx n hmark => ?_)
    refine ho o hmem x.toUpper ?_ n x hmark (Char.toUpper_toUpper_eq_toUpper x)
    have htrim : x.toUpper ∈ Text.trimEnd o.toList := by
      rw [← hupper]
      exact List.mem_map_of_mem hx
    rw [← Text.dropEndWhile_append Text.isBlank o.toList]
    exact List.mem_append_left _ htrim

theorem Marked.core (hk : Sign c k) {clause : Clause} (hclear : clause.ClearOf c k)
    {body : List Char} (h : Marked (fun n => (c.marker n).toList) k i j body) :
    Marked (fun n => (c.marker n).toList) k i j (clause.core body) := by
  rw [Clause.core]
  refine Marked.stripTrail hk (fun o ho => hclear.overrides o (List.mem_append_right _ ho)) ?_
  refine Marked.stripLead hk (fun o ho => hclear.overrides o (List.mem_append_left _ ho)) ?_
  exact h.trim hk

theorem HoldsMarks.eq_of_wrap_eq_none (hk : Sign c k) {clause : Clause}
    (hclear : clause.ClearOf c k) {body : String} (h : HoldsMarks c k i j body)
    (hn : clause.wrap? body = none) : i = j := by
  rw [Clause.wrap?] at hn
  by_cases hb : Text.isAllBlank body = true
  · exact h.eq_of_isAllBlank hk hb
  · rw [if_neg hb] at hn
    have hcore := Marked.core hk hclear h
    by_cases he : (clause.core body.toList).isEmpty = true
    · rw [List.isEmpty_iff.mp he] at hcore
      exact hcore.eq_of_free hk.mem List.not_mem_nil
    · simp [he] at hn

theorem HoldsMarks.wrap (hk : Sign c k) {clause : Clause} (hclear : clause.ClearOf c k)
    {body text : String} (h : HoldsMarks c k i j body) (ht : clause.wrap? body = some text) :
    HoldsMarks c k i j text := by
  rw [Clause.wrap?] at ht
  by_cases hb : Text.isAllBlank body = true
  · simp [hb] at ht
  · rw [if_neg hb] at ht
    by_cases he : (clause.core body.toList).isEmpty = true
    · simp [he] at ht
    · simp only [he] at ht
      obtain rfl := Option.some.inj ht
      have hlead : k ∉ (Clause.leadText clause.lead).toList := by
        cases hw : clause.lead with
        | none => simp [Clause.leadText]
        | some word =>
          have hspace : k ∉ " ".toList := hk.not_mem rfl
          simpa [Clause.leadText] using ⟨hclear.lead word hw, by simpa using hspace⟩
      have htrail : k ∉ (Clause.trailText clause.trail).toList := by
        cases hw : clause.trail with
        | none => simp [Clause.trailText]
        | some word =>
          have hspace : k ∉ " ".toList := hk.not_mem rfl
          simpa [Clause.trailText] using ⟨by simpa using hspace, hclear.trail word hw⟩
      have hcore : HoldsMarks c k i j (String.ofList (clause.core body.toList)) := by
        rw [HoldsMarks, String.toList_ofList]
        exact Marked.core hk hclear h
      exact ((HoldsMarks.free hlead).append hcore).append (.free htrail)

theorem gap_not_mem (hk : Sign c k) (sql : String) : k ∉ (Draft.gap sql).toList := by
  rw [Draft.gap]
  split
  · split
    · simp
    · exact hk.not_mem rfl
  · simp

/-! ### Loops -/

theorem HoldsMarks.written {loop : Loop} (hclear : loop.ClearOf k) {parts : List String}
    (h : AllMarked (fun n => (c.marker n).toList) k i j (parts.map String.toList)) :
    HoldsMarks c k i j (loop.written parts) := by
  have hparts : HoldsMarks c k i j (String.intercalate loop.separator parts) := by
    rw [HoldsMarks, String.toList_intercalate]
    exact h.intercalate hclear.separator
  exact ((HoldsMarks.free hclear.opening).append hparts).append (.free hclear.closing)

end Parts

end QueryTemplate
