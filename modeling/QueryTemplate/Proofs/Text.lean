import Mathlib
import QueryTemplate.Text.Blank
import QueryTemplate.Text.Case
import QueryTemplate.Text.Cut

/-!
# Trimmed texts and names in any case

`Text.isTrimmed` says that no blank stands at an end of a text, and `Text.InAnyCase` that
a text is a name in which letters may be small.

* `Text.trim_append`: trimming takes the blanks around a trimmed text, and nothing of it.
* `Text.trimEnd_append_cons`: trimming the end stops at the last character that is not blank.
* `Text.isTrimmed_trim`, `Text.trim_infix`: what is left is a trimmed piece of the text.
* `Text.eqIgnoreCase_iff_inAnyCase`: names are compared in any case of their letters.
* `Text.asciiUppercase_prefix_iff`, `Text.asciiUppercase_suffix_iff`: what the ends of a text in
  capitals say about the text.
-/

namespace QueryTemplate.Text

/-! ### Blanks at the ends -/

def isTrimmed (s : List Char) : Bool :=
  !s.head?.any isBlank && !s.getLast?.any isBlank

theorem dropEndWhile_append {α : Type} (p : α → Bool) (l : List α) :
    dropEndWhile p l ++ (l.reverse.takeWhile p).reverse = l := by
  rw [dropEndWhile, ← List.reverse_append, List.takeWhile_append_dropWhile, List.reverse_reverse]

section

variable {s g g' : List Char}

theorem trimStart_append (hg : ∀ c ∈ g, isBlank c = true) (s : List Char) :
    trimStart (g ++ s) = trimStart s :=
  List.dropWhile_append_of_pos hg

theorem trimEnd_append (s : List Char) (hg : ∀ c ∈ g, isBlank c = true) :
    trimEnd (s ++ g) = trimEnd s := by
  have hreverse : ∀ c ∈ g.reverse, isBlank c = true := fun c hc => hg c (List.mem_reverse.mp hc)
  rw [trimEnd, dropEndWhile, List.reverse_append, List.dropWhile_append_of_pos hreverse]
  rfl

theorem trimEnd_append_cons {c : Char} (hc : isBlank c = false) (s t : List Char) :
    trimEnd (s ++ c :: t) = s ++ c :: trimEnd t := by
  induction t using List.reverseRecOn with
  | nil => exact dropEndWhile_append_of_not isBlank s hc
  | append_singleton t d ih =>
    by_cases hd : isBlank d = true
    · have hblank : ∀ x ∈ [d], isBlank x = true := by
        intro x hx
        rwa [List.mem_singleton.mp hx]
      rw [trimEnd_append t hblank, ← ih, ← trimEnd_append (s ++ c :: t) hblank]
      simp
    · have hlast : isBlank d = false := by
        simpa using hd
      have hwhole : trimEnd ((s ++ c :: t) ++ [d]) = (s ++ c :: t) ++ [d] :=
        dropEndWhile_append_of_not isBlank _ hlast
      have hpart : trimEnd (t ++ [d]) = t ++ [d] :=
        dropEndWhile_append_of_not isBlank t hlast
      rw [hpart]
      simpa using hwhole

theorem not_isBlank_of_isTrimmed {c : Char} (h : isTrimmed (c :: s) = true) :
    ¬ isBlank c = true := by
  simp only [isTrimmed, List.head?_cons, Option.any_some, Bool.and_eq_true, Bool.not_eq_true'] at h
  rw [h.1]
  decide

theorem trimEnd_of_isTrimmed (hs : isTrimmed s = true) : trimEnd s = s := by
  rcases List.eq_nil_or_concat s with rfl | ⟨front, last, rfl⟩
  · rfl
  · have hlast : isBlank last = false := by
      simp [isTrimmed] at hs
      exact hs.2
    rw [List.concat_eq_append]
    exact dropEndWhile_append_of_not isBlank front hlast

theorem trimStart_of_head? (hs : s.head?.any isBlank = false) : trimStart s = s := by
  cases s with
  | nil => rfl
  | cons c s => exact List.dropWhile_cons_of_neg (by simpa using hs)

theorem trimStart_of_isTrimmed (hs : isTrimmed s = true) : trimStart s = s := by
  rw [isTrimmed, Bool.and_eq_true, Bool.not_eq_true'] at hs
  exact trimStart_of_head? hs.1

theorem trim_of_isTrimmed (hs : isTrimmed s = true) : trim s = s := by
  rw [trim, trimStart_of_isTrimmed hs, trimEnd_of_isTrimmed hs]

/-- **Trimming takes the blanks around a trimmed text**, and nothing of the text. -/
theorem trim_append (hg : ∀ c ∈ g, isBlank c = true) (hs : isTrimmed s = true)
    (hg' : ∀ c ∈ g', isBlank c = true) : trim (g ++ (s ++ g')) = s := by
  rw [trim, trimStart_append hg]
  cases s with
  | nil =>
    have hnone : trimStart g' = [] := by
      rw [← List.append_nil g', trimStart_append hg']
      rfl
    rw [List.nil_append, hnone]
    rfl
  | cons c s =>
    have hstart : trimStart (c :: s ++ g') = c :: s ++ g' := by
      rw [trimStart, List.cons_append, List.dropWhile_cons_of_neg (not_isBlank_of_isTrimmed hs)]
    rw [hstart, trimEnd_append _ hg', trimEnd_of_isTrimmed hs]

theorem isTrimmed_of_forall (h : ∀ c ∈ s, isBlank c = false) : isTrimmed s = true := by
  rw [isTrimmed, Bool.and_eq_true, Bool.not_eq_true', Bool.not_eq_true']
  constructor
  · cases s with
    | nil => rfl
    | cons c s => exact h c List.mem_cons_self
  · cases hlast : s.getLast? with
    | none => rfl
    | some c => exact h c (List.mem_of_getLast? hlast)

end

/-! ### Trimmed pieces -/

theorem isTrimmed_iff {s : List Char} :
    isTrimmed s = true ↔ s.head?.any isBlank = false ∧ s.getLast?.any isBlank = false := by
  rw [isTrimmed, Bool.and_eq_true, Bool.not_eq_true', Bool.not_eq_true']

theorem isTrimmed_append {s t : List Char} (hs : isTrimmed s = true) (ht : isTrimmed t = true) :
    isTrimmed (s ++ t) = true := by
  rw [isTrimmed_iff] at hs ht ⊢
  constructor
  · cases s with
    | nil => exact ht.1
    | cons c s => exact hs.1
  · cases hlast : t.getLast? with
    | none => simpa [List.getLast?_append, hlast] using hs.2
    | some c => simpa [List.getLast?_append, hlast] using ht.2

theorem head?_of_isPrefix {s t : List Char} (h : t <+: s) (hs : s.head?.any isBlank = false) :
    t.head?.any isBlank = false := by
  obtain ⟨tail, rfl⟩ := h
  cases t with
  | nil => rfl
  | cons c t => exact hs

theorem getLast?_of_isSuffix {s t : List Char} (h : t <:+ s)
    (hs : s.getLast?.any isBlank = false) : t.getLast?.any isBlank = false := by
  obtain ⟨front, rfl⟩ := h
  cases hlast : t.getLast? with
  | none => rfl
  | some c => simpa [List.getLast?_append, hlast] using hs

theorem head?_trimStart (s : List Char) : (trimStart s).head?.any isBlank = false := by
  have h := List.head?_dropWhile_not isBlank s
  rw [trimStart]
  cases hd : (s.dropWhile isBlank).head? with
  | none => rfl
  | some c => simpa [hd] using h

theorem getLast?_trimEnd (s : List Char) : (trimEnd s).getLast?.any isBlank = false := by
  rw [trimEnd, dropEndWhile, List.getLast?_reverse]
  exact head?_trimStart s.reverse

theorem trimEnd_isPrefix (s : List Char) : trimEnd s <+: s :=
  ⟨_, dropEndWhile_append isBlank s⟩

theorem trim_infix (s : List Char) : trim s <:+: s :=
  (trimEnd_isPrefix _).isInfix.trans (List.dropWhile_suffix _).isInfix

theorem isTrimmed_trim (s : List Char) : isTrimmed (trim s) = true :=
  isTrimmed_iff.mpr
    ⟨head?_of_isPrefix (trimEnd_isPrefix _) (head?_trimStart s), getLast?_trimEnd _⟩

theorem trim_eq_nil_iff {s : List Char} : trim s = [] ↔ ∀ c ∈ s, isBlank c = true := by
  constructor
  · intro h
    have hstart : ((trimStart s).reverse.takeWhile isBlank).reverse = trimStart s := by
      have hsplit := dropEndWhile_append isBlank (trimStart s)
      rwa [show dropEndWhile isBlank (trimStart s) = [] from h, List.nil_append] at hsplit
    intro c hc
    rw [← List.takeWhile_append_dropWhile (p := isBlank) (l := s)] at hc
    rcases List.mem_append.mp hc with hc | hc
    · exact List.mem_takeWhile_imp hc
    · rw [show s.dropWhile isBlank = _ from hstart.symm] at hc
      exact List.mem_takeWhile_imp (List.mem_reverse.mp hc)
  · intro h
    have hnil : ∀ c ∈ ([] : List Char), isBlank c = true := List.forall_mem_nil _
    simpa using trim_append h (show isTrimmed [] = true from rfl) hnil

theorem count_trim {c : Char} (hc : isBlank c = false) (s : List Char) :
    (trim s).count c = s.count c := by
  have hblank : ∀ l : List Char, (l.takeWhile isBlank).count c = 0 := by
    intro l
    rw [List.count_eq_zero]
    intro hm
    rw [List.mem_takeWhile_imp hm] at hc
    cases hc
  have hend : (trim s).count c = (trimStart s).count c := by
    conv_rhs => rw [← dropEndWhile_append isBlank (trimStart s)]
    rw [List.count_append, List.count_reverse, hblank, Nat.add_zero]
    rfl
  rw [hend]
  conv_rhs => rw [← List.takeWhile_append_dropWhile (p := isBlank) (l := s)]
  rw [List.count_append, hblank, Nat.zero_add]
  rfl

/-! ### Letters and digits -/

theorem toNat_of_isAlpha {x : Char} (h : x.isAlpha = true) :
    65 ≤ x.toNat ∧ x.toNat ≤ 90 ∨ 97 ≤ x.toNat ∧ x.toNat ≤ 122 := by
  simpa [Char.isAlpha, Char.isUpper, Char.isLower, UInt32.le_iff_toNat_le] using h

theorem isDigit_of_isAlpha {x : Char} (h : x.isAlpha = true) : x.isDigit = false := by
  rw [Bool.eq_false_iff]
  intro hdigit
  have hrange : 48 ≤ x.toNat ∧ x.toNat ≤ 57 := Char.isDigit_iff_toNat.mp hdigit
  have halpha := toNat_of_isAlpha h
  omega

theorem isBlank_of_isAlpha {x : Char} (h : x.isAlpha = true) : isBlank x = false := by
  have halpha := toNat_of_isAlpha h
  simp only [isBlank, Bool.or_eq_false_iff, Bool.and_eq_false_iff, decide_eq_false_iff_not,
    beq_eq_false_iff_ne]
  omega

theorem isBlank_of_isDigit {x : Char} (h : x.isDigit = true) : isBlank x = false := by
  have hrange : 48 ≤ x.toNat ∧ x.toNat ≤ 57 := Char.isDigit_iff_toNat.mp h
  simp only [isBlank, Bool.or_eq_false_iff, Bool.and_eq_false_iff, decide_eq_false_iff_not,
    beq_eq_false_iff_ne]
  omega

/-! ### Names in any case -/

/-- The text is the name, in which letters may be small. -/
def InAnyCase (name text : List Char) : Prop :=
  List.Forall₂ (fun c d => d = c ∨ d = c.toLower) name text

theorem InAnyCase.refl (name : List Char) : InAnyCase name name := by
  induction name with
  | nil => exact .nil
  | cons c name ih => exact .cons (.inl rfl) ih

theorem eqIgnoreCase_comm (s t : List Char) : eqIgnoreCase s t = eqIgnoreCase t s :=
  Bool.beq_comm

/-- A character has a capital as its upper case exactly when it is this capital or its lower
case. -/
theorem toUpper_eq_iff {c d : Char} (hc : c.toUpper = c) :
    d.toUpper = c ↔ d = c ∨ d = c.toLower := by
  constructor
  · intro h
    by_cases hd : d.isLower = true
    · right
      have hupper : ¬ d.isUpper = true := by
        intro hu
        have hsmall : 97 ≤ d.toNat ∧ d.toNat ≤ 122 := by
          simpa [Char.isLower, UInt32.le_iff_toNat_le] using hd
        have hcapital : 65 ≤ d.toNat ∧ d.toNat ≤ 90 := by
          simpa [Char.isUpper, UInt32.le_iff_toNat_le] using hu
        omega
      rw [← h, Char.toLower_toUpper_eq_toLower, Char.toLower_eq_of_not_isUpper hupper]
    · left
      rw [← h, Char.toUpper_eq_of_not_isLower hd]
  · rintro (rfl | rfl)
    · exact hc
    · rw [Char.toUpper_toLower_eq_toUpper, hc]

/-- **Names are compared in any case of their letters.** -/
theorem eqIgnoreCase_iff_inAnyCase {name text : List Char} (hname : asciiUppercase name = name) :
    eqIgnoreCase name text = true ↔ InAnyCase name text := by
  rw [eqIgnoreCase, beq_iff_eq]
  induction name generalizing text with
  | nil =>
    cases text with
    | nil => exact ⟨fun _ => .nil, fun _ => rfl⟩
    | cons d text => exact ⟨fun h => (by cases h), fun h => (by cases h)⟩
  | cons c name ih =>
    cases text with
    | nil => exact ⟨fun h => (by cases h), fun h => (by cases h)⟩
    | cons d text =>
      obtain ⟨hc, hmore⟩ := List.cons.inj hname
      have hrest := @ih text hmore
      have hhead := @toUpper_eq_iff c d hc
      constructor
      · intro h
        obtain ⟨hfirst, hmore⟩ := List.cons.inj h
        exact .cons (hhead.mp (hfirst.symm.trans hc)) (hrest.mp hmore)
      · intro h
        cases h with
        | cons hfirst hmore =>
          show c.toUpper :: asciiUppercase name = d.toUpper :: asciiUppercase text
          rw [hhead.mpr hfirst, hc, hrest.mpr hmore]

/-- **A name is found by its letters in any case**, where the names are capitals and all
different. -/
theorem find?_of_inAnyCase {α : Type} {l : List α} (name : α → List Char) {a : α}
    {text : List Char} (hcapital : ∀ b ∈ l, asciiUppercase (name b) = name b)
    (hdifferent : ∀ b ∈ l, name b = name a → b = a) (ha : a ∈ l) (h : InAnyCase (name a) text) :
    l.find? (fun b => eqIgnoreCase (name b) text) = some a := by
  have hhit := (eqIgnoreCase_iff_inAnyCase (hcapital a ha)).mpr h
  cases hfind : l.find? fun b => eqIgnoreCase (name b) text with
  | none => exact absurd hhit (List.find?_eq_none.mp hfind a ha)
  | some b =>
    have hb : b ∈ l := List.mem_of_find?_eq_some hfind
    have hother : eqIgnoreCase (name b) text = true := by
      simpa using List.find?_some hfind
    have hsame : name b = name a := by
      rw [← hcapital b hb, ← hcapital a ha, beq_iff_eq.mp hother, beq_iff_eq.mp hhit]
    rw [hdifferent b hb hsame]

/-! ### Capitals -/

theorem toUpper_eq_or_isLower (c : Char) : c.toUpper = c ∨ c.isLower = true := by
  by_cases h : c.isLower = true
  · exact .inr h
  · exact .inl (Char.toUpper_eq_of_not_isLower h)

/-- What holds of the small letters and their capitals alike does not tell a character from
its capital. -/
theorem toUpper_of_forall {α : Type} {f : Char → α}
    (h : ∀ i : Fin 26, f (Char.ofNat (97 + i)).toUpper = f (Char.ofNat (97 + i))) (c : Char) :
    f c.toUpper = f c := by
  rcases toUpper_eq_or_isLower c with hc | hc
  · rw [hc]
  · have hrange : 97 ≤ c.toNat ∧ c.toNat ≤ 122 := by
      simpa [Char.isLower, UInt32.le_iff_toNat_le] using hc
    have hi := h ⟨c.toNat - 97, by omega⟩
    rwa [show 97 + (c.toNat - 97) = c.toNat by omega, Char.ofNat_toNat] at hi

theorem isBlank_toUpper (c : Char) : isBlank c.toUpper = isBlank c :=
  toUpper_of_forall (by decide) c

theorem utf8Size_toUpper (c : Char) : c.toUpper.utf8Size = c.utf8Size :=
  toUpper_of_forall (by decide) c

theorem byteLength_toList (s : String) : byteLength s.toList = s.utf8ByteSize := by
  rw [← String.ofList_toList (s := s), String.utf8ByteSize_ofList, String.toList_ofList]
  induction s.toList with
  | nil => rfl
  | cons c rest ih => rw [byteLength, ih, String.utf8Len_cons, Nat.add_comm]

theorem byteLength_asciiUppercase (s : List Char) :
    byteLength (asciiUppercase s) = byteLength s := by
  induction s with
  | nil => rfl
  | cons c rest ih =>
    show c.toUpper.utf8Size + byteLength (asciiUppercase rest) = _
    rw [utf8Size_toUpper, ih, byteLength]

theorem trimEnd_asciiUppercase (s : List Char) :
    trimEnd (asciiUppercase s) = asciiUppercase (trimEnd s) := by
  have hblank : isBlank ∘ Char.toUpper = isBlank := funext isBlank_toUpper
  rw [trimEnd, trimEnd, dropEndWhile, dropEndWhile, asciiUppercase, asciiUppercase,
    ← List.map_reverse, List.dropWhile_map, List.map_reverse, hblank]

/-- A text in capitals starts with a name in capitals where the text starts with the name in
some case. -/
theorem asciiUppercase_prefix_iff {o s : List Char} :
    asciiUppercase o <+: asciiUppercase s ↔
      ∃ rest front, s = front ++ rest ∧ eqIgnoreCase o front = true := by
  constructor
  · rintro ⟨tail, htail⟩
    obtain ⟨front, rest, hs, hfront, -⟩ := List.map_eq_append_iff.mp htail.symm
    exact ⟨rest, front, hs, beq_iff_eq.mpr hfront.symm⟩
  · rintro ⟨rest, front, rfl, hfront⟩
    rw [asciiUppercase_append, beq_iff_eq.mp hfront]
    exact List.prefix_append _ _

theorem asciiUppercase_suffix_iff {o s : List Char} :
    asciiUppercase o <:+ asciiUppercase s ↔
      ∃ front last, s = front ++ last ∧ eqIgnoreCase o last = true := by
  constructor
  · rintro ⟨tail, htail⟩
    obtain ⟨front, last, hs, -, hlast⟩ := List.map_eq_append_iff.mp htail.symm
    exact ⟨front, last, hs, beq_iff_eq.mpr hlast.symm⟩
  · rintro ⟨front, last, rfl, hlast⟩
    rw [asciiUppercase_append, beq_iff_eq.mp hlast]
    exact List.suffix_append _ _

theorem length_of_eqIgnoreCase {s t : List Char} (h : eqIgnoreCase s t = true) :
    s.length = t.length := by
  rw [← length_asciiUppercase s, beq_iff_eq.mp h, length_asciiUppercase]

end QueryTemplate.Text
