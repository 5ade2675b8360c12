import Mathlib
import QueryTemplate.Proofs.Digits
import QueryTemplate.Proofs.Placeholder.Attributes
import QueryTemplate.Proofs.Placeholder.Reading

/-!
# Written placeholders are read back

Reading a placeholder sets one attribute after the other.  `Mapping.adopt` takes one
attribute over from a mapping, and `Mapping.Follows` says that a mapping agrees with another
one wherever that one is settled or lacks something; this is what each step of reading keeps.

* `Mapping.setAttribute_of_tells`: an attribute that says what a mapping has is taken over
  from it.
* `Mapping.WrittenFront.read`, `Mapping.WrittenAttributes.read`: head, type tag and attributes
  of a written placeholder.
* `Mapping.renders_text`: a plain mapping can be written.
* `Mapping.read_writing`: what was written is read back, and one more attribute of
  another name is an error.
-/

namespace QueryTemplate

open Text (IsGaps isTrimmed InAnyCase)
open Placeholder Outcome

/-! ### Values of attributes -/

theorem JdbcType.ofName?_of_inAnyCase {t : JdbcType} {text : List Char}
    (h : InAnyCase t.name.toList text) (htrim : Text.trim text = text) :
    JdbcType.ofName? (String.ofList text) = some t := by
  rw [JdbcType.ofName?, String.toList_ofList, htrim]
  refine Text.find?_of_inAnyCase (fun t : JdbcType => t.name.toList) ?_ ?_ (JdbcType.mem_all t) h
  · decide +kernel
  · intro b hb hsame
    have hnames : (JdbcType.all.map JdbcType.name).Nodup := by
      decide +kernel
    exact List.inj_on_of_nodup_map hnames hb (JdbcType.mem_all t) (String.toList_inj.mp hsame)

theorem ParameterMode.ofName?_of_inAnyCase {m : ParameterMode} {text : List Char}
    (h : InAnyCase m.name.toList text) (htrim : Text.trim text = text) :
    ParameterMode.ofName? (String.ofList text) = some m := by
  rw [ParameterMode.ofName?, String.toList_ofList, htrim]
  have hmem : ∀ x : ParameterMode, x ∈ [input, output, inputOutput] := by
    intro x
    cases x <;> decide
  refine Text.find?_of_inAnyCase (fun m : ParameterMode => m.name.toList) ?_ ?_ (hmem m) h
  · decide
  · intro b hb hsame
    have hnames : ([input, output, inputOutput].map ParameterMode.name).Nodup := by
      decide
    exact List.inj_on_of_nodup_map hnames hb (hmem m) (String.toList_inj.mp hsame)

theorem Placeholder.WrittenDigits.natural? {n : Nat} {s : List Char} (h : WrittenDigits n s) :
    Decimal.natural? s = some n := by
  rw [Decimal.natural?_eq_some h.ne_nil h.digit, h.value]

theorem Placeholder.WrittenNumber.unsigned? {n bound : Nat} {s : List Char}
    (h : WrittenNumber n s) (hn : n < bound) : Decimal.unsigned? bound s = some n := by
  rcases h with h | ⟨digits, rfl, h⟩
  · cases s with
    | nil => exact absurd rfl h.ne_nil
    | cons c s =>
      have hplus : c ≠ '+' := Expr.ne_of_test (h.digit c List.mem_cons_self) rfl
      have hdigits : Decimal.unsigned? bound (c :: s) =
          (Decimal.natural? (c :: s)).filter (· < bound) := by
        rw [Decimal.unsigned?]
        intro rest heq
        exact hplus (List.cons.inj heq).1
      rw [hdigits, h.natural?]
      simpa using hn
  · show (Decimal.natural? digits).filter (· < bound) = some n
    rw [h.natural?]
    simpa using hn

theorem Placeholder.writtenDigits_of_natural? {s : List Char} {n : Nat} (h : Decimal.natural? s = some n) :
    WrittenDigits n s := by
  rw [Decimal.natural?, Option.ite_none_right_eq_some] at h
  obtain ⟨hs, hvalue⟩ := h
  simp only [Bool.and_eq_true, Bool.not_eq_true', List.isEmpty_eq_false_iff, List.all_eq_true] at hs
  exact ⟨hs.1, hs.2, Option.some.inj hvalue⟩

theorem Placeholder.unsigned?_eq_some_iff {bound n : Nat} {s : List Char} :
    Decimal.unsigned? bound s = some n ↔ WrittenNumber n s ∧ n < bound := by
  constructor
  · intro h
    by_cases hplus : ∃ digits, s = '+' :: digits
    · obtain ⟨digits, rfl⟩ := hplus
      have hdigits : (Decimal.natural? digits).filter (· < bound) = some n := h
      obtain ⟨hread, hbound⟩ := Option.filter_eq_some_iff.mp hdigits
      exact ⟨.inr ⟨digits, rfl, writtenDigits_of_natural? hread⟩, of_decide_eq_true hbound⟩
    · rw [Decimal.unsigned?, Option.filter_eq_some_iff] at h
      · exact ⟨.inl (writtenDigits_of_natural? h.1), of_decide_eq_true h.2⟩
      · exact fun rest heq => hplus ⟨rest, heq⟩
  · rintro ⟨hwritten, hbound⟩
    exact hwritten.unsigned? hbound

namespace Mapping

/-! ### Following a mapping -/

/-- The mapping agrees with `m` where `m` is settled and where it lacks something, and it has
the property of `m`. -/
structure Follows (base m : Mapping) (settled : List Attribute) : Prop where
  property : base.property = m.property
  value : base.value = none
  adopt : ∀ a, a ∈ settled ∨ m.Lacks a → base.adopt m a = base

theorem Follows.of_adopt {base m : Mapping} {settled : List Attribute}
    (h : base.Follows m settled) (a : Attribute) : (base.adopt m a).Follows m (a :: settled) := by
  refine ⟨by rw [property_adopt, h.property], by rw [value_adopt, h.value], fun b hb => ?_⟩
  by_cases hab : b = a
  · rw [hab, adopt_self]
  · have hb' : b ∈ settled ∨ m.Lacks b := by
      simpa [hab] using hb
    rw [adopt_adopt, h.adopt b hb']

theorem Follows.eq {base m : Mapping} {settled : List Attribute} (h : base.Follows m settled)
    (hall : ∀ a, a ∈ settled ∨ m.Lacks a) (hvalue : m.value = none) : base = m := by
  have hadopt : ∀ a, base.adopt m a = base := fun a => h.adopt a (hall a)
  have hproperty := h.property
  have hnone := h.value.trans hvalue.symm
  have hvalueType := congrArg Mapping.valueType (hadopt .javaType)
  have hjdbcType := congrArg Mapping.jdbcType (hadopt .jdbcType)
  have hmode := congrArg Mapping.mode (hadopt .mode)
  have hscale := congrArg Mapping.numericScale (hadopt .numericScale)
  have hresultMap := congrArg Mapping.resultMap (hadopt .resultMap)
  have hname := congrArg Mapping.jdbcTypeName (hadopt .jdbcTypeName)
  have hexpression := congrArg Mapping.expression (hadopt .expression)
  clear hadopt h hall
  cases base
  cases m
  simp_all [Mapping.adopt]

/-- **An attribute that says what a mapping has is taken over from it.** -/
theorem setAttribute_of_tells {m : Mapping} {a : Attribute} {name value : List Char}
    (content : String) (base : Mapping) (hname : Text.trim name = a.name.toList)
    (htells : m.Tells a (Text.trim value)) (htrimmed : isTrimmed (Text.trim value) = true) :
    setAttribute content base name value = .ok (base.adopt m a) := by
  have htrim : Text.trim (Text.trim value) = Text.trim value :=
    Text.trim_of_isTrimmed htrimmed
  have hkey : String.ofList (Text.trim name) = a.name := by
    rw [hname, String.ofList_toList]
  cases a with
  | javaType =>
    have h : m.valueType = some (String.ofList (Text.trim value)) := htells
    simp [setAttribute, hkey, Attribute.name, adopt, h]
  | jdbcType =>
    obtain ⟨t, ht, hcase⟩ := htells
    simp [setAttribute, hkey, Attribute.name, adopt, ht, valid,
      JdbcType.ofName?_of_inAnyCase hcase htrim, bind, Except.bind, pure, Except.pure]
  | mode =>
    have hcase : InAnyCase m.mode.name.toList (Text.trim value) := htells
    simp [setAttribute, hkey, Attribute.name, adopt, valid,
      ParameterMode.ofName?_of_inAnyCase hcase htrim, bind, Except.bind, pure, Except.pure]
  | numericScale =>
    obtain ⟨n, hn, hbound, hwritten⟩ := htells
    simp [setAttribute, hkey, Attribute.name, adopt, hn, valid, hwritten.unsigned? hbound, bind,
      Except.bind, pure, Except.pure]
  | resultMap =>
    have h : m.resultMap = some (String.ofList (Text.trim value)) := htells
    simp [setAttribute, hkey, Attribute.name, adopt, h]
  | jdbcTypeName =>
    have h : m.jdbcTypeName = some (String.ofList (Text.trim value)) := htells
    simp [setAttribute, hkey, Attribute.name, adopt, h]
  | expression =>
    have h : m.expression = some (String.ofList (Text.trim value)) := htells
    simp [setAttribute, hkey, Attribute.name, adopt, h]

theorem setTag_of_tells {m : Mapping} {value : List Char} (content : String) (base : Mapping)
    (htells : m.Tells .jdbcType value) (htrimmed : isTrimmed value = true) :
    setTag content base (some value) = .ok (base.adopt m .jdbcType) := by
  have htrim : Text.trim value = value :=
    Text.trim_of_isTrimmed htrimmed
  obtain ⟨t, ht, hcase⟩ := htells
  simp [setTag, adopt, ht, valid, JdbcType.ofName?_of_inAnyCase hcase htrim, bind, Except.bind,
    pure, Except.pure]

theorem setAttribute_of_other {name : List Char} (content : String) (base : Mapping)
    (value : List Char) (hname : ∀ a : Attribute, Text.trim name ≠ a.name.toList) :
    setAttribute content base name value =
      .error (.unknownAttribute (String.ofList (Text.trim name)) content) := by
  have hkey : ∀ a : Attribute, String.ofList (Text.trim name) ≠ a.name := by
    intro a h
    exact hname a (by rw [← h, String.toList_ofList])
  have h1 := hkey .javaType
  have h2 := hkey .jdbcType
  have h3 := hkey .mode
  have h4 := hkey .numericScale
  have h5 := hkey .resultMap
  have h6 := hkey .jdbcTypeName
  have h7 := hkey .expression
  simp only [Attribute.name] at h1 h2 h3 h4 h5 h6 h7
  simp [setAttribute, h1, h2, h3, h4, h5, h6, h7]

theorem setAttributes_append (content : String) (base : Mapping)
    (raws raws' : List (List Char × List Char)) :
    setAttributes content base (raws ++ raws') =
      setAttributes content base raws >>= (setAttributes content · raws') := by
  induction raws generalizing base with
  | nil => rfl
  | cons p raws ih =>
    obtain ⟨name, value⟩ := p
    rw [List.cons_append, setAttributes, setAttributes]
    cases setAttribute content base name value with
    | error e => rfl
    | ok next => exact ih next

/-! ### What is written is read -/

section

variable {m base : Mapping} {settled settled' attributes : List Attribute} {s front : List Char}

theorem Follows.mono (h : base.Follows m settled) (hsub : ∀ a ∈ settled', a ∈ settled) :
    base.Follows m settled' :=
  ⟨h.property, h.value, fun a ha => h.adopt a (ha.imp_left (hsub a))⟩

theorem WrittenHead.skipGaps (h : m.WrittenHead settled s) (r : List Char) :
    Text.skipGaps (s ++ r) = s ++ r := by
  cases h with
  | property hpath =>
    simp only [isPath, Bool.and_eq_true, Bool.not_eq_true', List.isEmpty_eq_false_iff] at hpath
    obtain ⟨⟨⟨hne, htrimmed⟩, -⟩, -⟩ := hpath
    cases hp : m.property.toList with
    | nil => exact absurd hp hne
    | cons c path =>
      rw [hp] at htrimmed
      have hgap : Text.isGap c = false := by
        rw [Bool.eq_false_iff]
        exact fun hc => Text.not_isBlank_of_isTrimmed htrimmed (Text.isBlank_of_isGap hc)
      rw [List.cons_append, Expr.skipGaps_cons hgap]
  | expression => rfl

/-- The head of a written placeholder settles the property, and the expression if it is one. -/
theorem WrittenHead.read (h : m.WrittenHead settled s) {g r : List Char} (hg : IsGaps g)
    (hr : r.head?.any (fun c => c != ',' && c != ':') = false) :
    ∃ part g', IsGaps g' ∧ Placeholder.head (s ++ (g ++ r)) = .ok (part, g' ++ r) ∧
      part.mapping.Follows m settled := by
  cases h with
  | property hpath =>
    refine ⟨_, [], Expr.isGaps_nil, head_property hpath hg hr, ?_, rfl, ?_⟩
    · exact String.ofList_toList
    · intro a ha
      have hlacks : m.Lacks a := by
        simpa using ha
      cases a <;> simp_all [Lacks, adopt, Head.mapping]
  | @expression text i i' hproperty htells htrimmed hbalanced hi hi' =>
    refine ⟨_, g, hg, head_expression hi hbalanced htrimmed hi' _, hproperty.symm, rfl, ?_⟩
    have hexpression : m.expression = some (String.ofList text) := htells
    intro a ha
    cases a <;> simp_all [Lacks, adopt, Head.mapping]

theorem WrittenFront.read (h : m.WrittenFront settled front)
    {raws : List (List Char × List Char)} (hraws : ∀ p ∈ raws, IsRaw p) :
    ∃ p base, parts (front ++ rawText raws) = .ok p ∧ p.attributes = raws ∧ IsGaps p.rest ∧
      (∀ content, setTag content p.head.mapping p.tag = .ok base) ∧ base.Follows m settled := by
  have hcomma : (rawText raws).head?.any (· != ',') = false := by
    cases raws <;> rfl
  cases h with
  | @untagged settled head g g' hg hhead hg' =>
    have hr : (rawText raws).head?.any (fun c => c != ',' && c != ':') = false := by
      cases raws <;> rfl
    obtain ⟨part, i, hi, hread, hfollows⟩ := hhead.read hg' hr
    obtain ⟨rest, hattributes, hrest⟩ := attributes_rawText hraws hi
    have heq : g ++ (head ++ g') ++ rawText raws = g ++ (head ++ (g' ++ rawText raws)) := by simp
    refine ⟨⟨part, none, raws, rest⟩, part.mapping, ?_, rfl, hrest, fun _ => rfl, hfollows⟩
    refine parts_eq ?_ (tag_none hi hcomma) hattributes
    rw [heq, Expr.skipGaps_append hg, hhead.skipGaps, hread]
  | @tagged settled head g g' i value i' hg hhead hg' hi hvalue htells hi' =>
    have hr : (':' :: (i ++ (value ++ (i' ++ rawText raws)))).head?.any
        (fun c => c != ',' && c != ':') = false := rfl
    obtain ⟨part, j, hj, hread, hfollows⟩ := hhead.read hg' hr
    obtain ⟨rest, hattributes, hrest⟩ := attributes_rawText hraws Expr.isGaps_nil
    rw [List.nil_append] at hattributes
    have heq : g ++ (head ++ (g' ++ ':' :: (i ++ (value ++ i')))) ++ rawText raws =
        g ++ (head ++ (g' ++ ':' :: (i ++ (value ++ (i' ++ rawText raws))))) := by simp
    have htrimmed : isTrimmed value = true := (Bool.and_eq_true_iff.mp hvalue).1
    refine ⟨⟨part, some value, raws, rest⟩, part.mapping.adopt m .jdbcType, ?_, rfl, hrest,
      fun content => setTag_of_tells content _ htells htrimmed, hfollows.of_adopt _⟩
    refine parts_eq ?_ (tag_colon hj hi hvalue hi' hcomma) hattributes
    rw [heq, Expr.skipGaps_append hg, hhead.skipGaps, hread]

/-- **Each attribute that is read is taken over**, in whatever order they stand. -/
theorem WrittenAttributes.read (h : m.WrittenAttributes attributes s) :
    ∃ raws, s = rawText raws ∧ (∀ p ∈ raws, IsRaw p) ∧
      ∀ (content : String) (base : Mapping) (settled : List Attribute), base.Follows m settled →
        ∃ next, setAttributes content base raws = .ok next ∧
          next.Follows m (attributes ++ settled) := by
  induction h with
  | nil =>
    exact ⟨[], rfl, fun p hp => absurd hp List.not_mem_nil,
      fun content base settled hbase => ⟨base, rfl, hbase⟩⟩
  | @cons a attributes g g' i value i' s hg hg' hi hvalue htells hi' h ih =>
    obtain ⟨raws, rfl, hraws, hrun⟩ := ih
    simp only [isValue, Bool.and_eq_true, List.all_eq_true, bne_iff_ne] at hvalue
    obtain ⟨htrimmed, hfree⟩ := hvalue
    have hname : Text.trim (g ++ (a.name.toList ++ g')) = a.name.toList :=
      trim_gaps hg (by cases a <;> decide) hg'
    have htrim : Text.trim (i ++ (value ++ i')) = value :=
      trim_gaps hi htrimmed hi'
    have hraw : IsRaw (g ++ (a.name.toList ++ g'), i ++ (value ++ i')) := by
      have hplain : '=' ∉ a.name.toList ∧ ',' ∉ a.name.toList := by
        cases a <;> decide
      simp only [IsRaw, List.mem_append, not_or]
      exact ⟨⟨not_mem_gaps hg rfl, hplain.1, not_mem_gaps hg' rfl⟩,
        ⟨not_mem_gaps hg rfl, hplain.2, not_mem_gaps hg' rfl⟩,
        not_mem_gaps hi rfl, fun hm => hfree _ hm rfl, not_mem_gaps hi' rfl⟩
    refine ⟨(g ++ (a.name.toList ++ g'), i ++ (value ++ i')) :: raws, by simp [rawText], ?_, ?_⟩
    · intro p hp
      rcases List.mem_cons.mp hp with rfl | hp
      · exact hraw
      · exact hraws p hp
    · intro content base settled hbase
      obtain ⟨next, hnext, hfollows⟩ := hrun content _ _ (hbase.of_adopt a)
      refine ⟨next, ?_, hfollows.mono fun b hb => ?_⟩
      · have hset := setAttribute_of_tells content base hname (htrim.symm ▸ htells)
          (htrim.symm ▸ htrimmed)
        rw [setAttributes, hset]
        exact hnext
      · simp only [List.mem_append, List.mem_cons] at hb ⊢
        rcases hb with (hb | hb) | hb
        · exact .inr (.inl hb)
        · exact .inl hb
        · exact .inr (.inr hb)

theorem WrittenAttributes.append {attributes' : List Attribute} {s' : List Char}
    (h : m.WrittenAttributes attributes s) (h' : m.WrittenAttributes attributes' s') :
    m.WrittenAttributes (attributes ++ attributes') (s ++ s') := by
  induction h with
  | nil => exact h'
  | cons hg hg' hi hvalue htells hi' h ih =>
    have hcons := WrittenAttributes.cons hg hg' hi hvalue htells hi' ih
    simpa using hcons

def named (content : String) (m : Mapping) : Except Error Mapping :=
  if m.property.isEmpty && m.expression.isNone then
    .error (.badPlaceholder content 0 .noProperty)
  else .ok m

theorem WrittenHead.named (h : m.WrittenHead settled s) (content : String) :
    m.named content = .ok m := by
  have hsomething : ¬ (m.property.isEmpty && m.expression.isNone) = true := by
    cases h with
    | property hpath =>
      simp only [isPath, Bool.and_eq_true, Bool.not_eq_true'] at hpath
      have hne : m.property.isEmpty = false := by
        rw [Bool.eq_false_iff]
        intro hempty
        have hnil := hpath.1.1.1
        rw [String.isEmpty_iff.mp hempty] at hnil
        cases hnil
      simp [hne]
    | expression hproperty htells =>
      have hexpression : m.expression = some _ := htells
      simp [hexpression]
  rw [Mapping.named, if_neg hsomething]

theorem WrittenFront.named (h : m.WrittenFront settled front) (content : String) :
    m.named content = .ok m := by
  cases h with
  | untagged hg h hg' => exact h.named content
  | tagged hg h => exact h.named content

/-- Reading a placeholder is taking its parts, setting its tag and then its attributes. -/
theorem parse_of_parts {content : String} {p : Parts} (hparts : parts content.toList = .ok p)
    (hblank : p.rest.all Text.isBlank = true)
    (htag : setTag content p.head.mapping p.tag = .ok base) :
    parse content = setAttributes content base p.attributes >>= named content := by
  rw [parse]
  simp only [hparts, hblank, Bool.not_true, Bool.false_eq_true, if_false, htag]
  rfl

end

section

variable {m : Mapping} {before after : List Char}

/-- Reading a written placeholder with something more between two attributes: what stands in
front of it and behind it is taken over from the mapping. -/
theorem RendersAround.read (h : m.RendersAround before after)
    {extra : List (List Char × List Char)} (hextra : ∀ p ∈ extra, IsRaw p) {content : String}
    (hcontent : content.toList = before ++ (rawText extra ++ after)) :
    ∃ base raws, parse content = setAttributes content base (extra ++ raws) >>= named content ∧
      setAttributes content base raws = .ok m ∧ m.named content = .ok m := by
  obtain ⟨settled, front, attributes, s, attributes', hfront, hwritten, hwritten', rfl, hall,
    hvalue⟩ := h
  obtain ⟨raws, rfl, hraws, hrun⟩ := hwritten.read
  obtain ⟨raws', rfl, hraws', hrun'⟩ := hwritten'.read
  have hisRaw : ∀ p ∈ raws ++ (extra ++ raws'), IsRaw p := by
    intro p hp
    simp only [List.mem_append] at hp
    rcases hp with hp | hp | hp
    · exact hraws p hp
    · exact hextra p hp
    · exact hraws' p hp
  obtain ⟨p, base, hparts, hattributes, hrest, htag, hbase⟩ := hfront.read hisRaw
  obtain ⟨base', hset, hbase'⟩ := hrun content base settled hbase
  obtain ⟨next, hset', hnext⟩ := hrun' content base' _ hbase'
  have hm : next = m := by
    refine hnext.eq (fun a => ?_) hvalue
    refine (hall a).imp_left fun ha => ?_
    simp only [List.mem_append] at ha ⊢
    rcases ha with ha | ha | ha
    · exact .inr (.inr ha)
    · exact .inr (.inl ha)
    · exact .inl ha
  have htext : content.toList = front ++ rawText (raws ++ (extra ++ raws')) := by
    rw [hcontent]
    simp [rawText]
  rw [← htext] at hparts
  have hblank : p.rest.all Text.isBlank = true :=
    List.all_eq_true.mpr fun c hc => Text.isBlank_of_isGap (hrest c hc)
  refine ⟨base', raws', ?_, hm ▸ hset', hfront.named content⟩
  rw [parse_of_parts hparts hblank (htag content), hattributes, setAttributes_append, hset]
  rfl

theorem RendersAround.parse (h : m.RendersAround before after) {content : String}
    (hcontent : content.toList = before ++ after) : parse content = .ok m := by
  have hnone : ∀ p ∈ ([] : List (List Char × List Char)), IsRaw p :=
    fun p hp => absurd hp List.not_mem_nil
  obtain ⟨base, raws, hparse, hset, hnamed⟩ := h.read hnone hcontent
  rw [hparse, List.nil_append, hset]
  exact hnamed

theorem RendersAround.renders (h : m.RendersAround before after) :
    m.Renders (String.ofList (before ++ after)) := by
  obtain ⟨settled, front, attributes, s, attributes', hfront, hwritten, hwritten', rfl, hall,
    hvalue⟩ := h
  refine ⟨settled, front, attributes ++ attributes', s ++ after, [], hfront,
    hwritten.append hwritten', .nil, ?_, ?_, hvalue⟩
  · rw [String.toList_ofList, List.append_assoc]
  · simpa using hall

end

/-! ### Writing -/

section

variable {m : Mapping}

theorem writtenNumber_natText (n : Nat) : WrittenNumber n (Decimal.natText n).toList := by
  rw [Decimal.natText, String.toList_ofList]
  exact .inl ⟨Decimal.digitsOf_ne_nil, fun _ => Decimal.isDigit_of_mem_digitsOf,
    Decimal.valueOfDigits_digitsOf n⟩

theorem isValue_natText (n : Nat) : isValue (Decimal.natText n).toList = true := by
  have hdigit : ∀ c ∈ (Decimal.natText n).toList, c.isDigit = true :=
    fun _ => Decimal.isDigit_of_mem_natText
  rw [isValue, Bool.and_eq_true, List.all_eq_true]
  exact ⟨Text.isTrimmed_of_forall fun c hc => Text.isBlank_of_isDigit (hdigit c hc),
    fun c hc => bne_iff_ne.mpr (Expr.ne_of_test (hdigit c hc) rfl)⟩

theorem IsPlain.tells (h : m.IsPlain) {a : Attribute} {value : String}
    (hvalue : m.attribute? a = some value)
    (hpath : a = .expression → isPath m.property.toList = true) :
    m.Tells a value.toList ∧ isValue value.toList = true := by
  cases a with
  | javaType =>
    have hsome : m.valueType = some value := hvalue
    exact ⟨by rw [Tells, hsome, String.ofList_toList], h.valueType value hsome⟩
  | jdbcType =>
    obtain ⟨t, ht, rfl⟩ := Option.map_eq_some_iff.mp hvalue
    exact ⟨⟨t, ht, .refl _⟩, by cases t <;> decide⟩
  | mode =>
    simp only [attribute?, Option.ite_none_left_eq_some] at hvalue
    obtain rfl := Option.some.inj hvalue.2
    exact ⟨.refl _, by cases m.mode <;> decide⟩
  | numericScale =>
    obtain ⟨n, hn, rfl⟩ := Option.map_eq_some_iff.mp hvalue
    exact ⟨⟨n, hn, h.numericScale n hn, writtenNumber_natText n⟩, isValue_natText n⟩
  | resultMap =>
    have hsome : m.resultMap = some value := hvalue
    exact ⟨by rw [Tells, hsome, String.ofList_toList], h.resultMap value hsome⟩
  | jdbcTypeName =>
    have hsome : m.jdbcTypeName = some value := hvalue
    exact ⟨by rw [Tells, hsome, String.ofList_toList], h.jdbcTypeName value hsome⟩
  | expression =>
    have hsome : m.expression = some value := hvalue
    refine ⟨by rw [Tells, hsome, String.ofList_toList], ?_⟩
    rcases h.head with ⟨-, hexpression⟩ | ⟨hproperty, htrimmed, -⟩
    · exact hexpression value hsome
    · -- the expression is the property, and no comma stands in a property
      obtain rfl : value = m.property := Option.some.inj (hsome.symm.trans hproperty)
      have hfree := hpath rfl
      simp only [isPath, Bool.and_eq_true, List.all_eq_true] at hfree
      rw [isValue, Bool.and_eq_true, List.all_eq_true]
      exact ⟨htrimmed, fun c hc => (hfree.1.2 c hc).1⟩

theorem lacks_of_attribute? {a : Attribute} (h : m.attribute? a = none) : m.Lacks a := by
  cases a with
  | javaType => exact h
  | jdbcType => exact Option.map_eq_none_iff.mp h
  | mode =>
    by_contra hmode
    have hsome : m.attribute? .mode = some m.mode.name := if_neg hmode
    rw [hsome] at h
    cases h
  | numericScale => exact Option.map_eq_none_iff.mp h
  | resultMap => exact h
  | jdbcTypeName => exact h
  | expression => exact h

theorem IsPlain.writtenAttributes (h : m.IsPlain) (l : List Attribute)
    (hl : .expression ∈ l → isPath m.property.toList = true) :
    m.WrittenAttributes (l.filter fun a => (m.attribute? a).isSome) (m.attributesText l) := by
  induction l with
  | nil => exact .nil
  | cons a l ih =>
    have hrest := ih fun hm => hl (List.mem_cons_of_mem a hm)
    cases hvalue : m.attribute? a with
    | none =>
      rw [attributesText, hvalue, List.filter_cons_of_neg (by simp [hvalue])]
      exact hrest
    | some value =>
      obtain ⟨htells, hisValue⟩ := h.tells hvalue fun ha => hl (ha ▸ List.mem_cons_self)
      have hspace : IsGaps [' '] := isGaps_singleton rfl
      rw [attributesText, hvalue, List.filter_cons_of_pos (by simp [hvalue])]
      exact .cons hspace Expr.isGaps_nil Expr.isGaps_nil hisValue htells Expr.isGaps_nil hrest

/-- **A plain mapping can be written.** -/
theorem renders_text (h : m.IsPlain) : m.Renders m.text := by
  by_cases hpath : isPath m.property.toList = true
  · refine ⟨[], m.property.toList, _, _, [],
      by simpa using WrittenFront.untagged Expr.isGaps_nil (.property hpath) Expr.isGaps_nil,
      h.writtenAttributes Attribute.all fun _ => hpath, .nil, ?_, fun a => ?_, h.value⟩
    · rw [text, if_pos hpath, String.toList_ofList]
    · cases ha : m.attribute? a with
      | none => exact .inr (lacks_of_attribute? ha)
      | some value => exact .inl (by simp [Attribute.mem_all, ha])
  · rcases h.head with ⟨hpath', -⟩ | ⟨hexpression, htrimmed, hbalanced⟩
    · exact absurd hpath' hpath
    · have hhead : m.WrittenHead [.expression] ('(' :: (m.property.toList ++ [')'])) := by
        have hproperty : m.property = String.ofList m.property.toList :=
          String.ofList_toList.symm
        have htells : m.Tells .expression m.property.toList := by
          rw [Tells, String.ofList_toList, hexpression]
        exact .expression hproperty htells htrimmed hbalanced Expr.isGaps_nil Expr.isGaps_nil
      refine ⟨[.expression], '(' :: (m.property.toList ++ [')']), _, _, [],
        by simpa using WrittenFront.untagged Expr.isGaps_nil hhead Expr.isGaps_nil,
        h.writtenAttributes (Attribute.all.filter (· != .expression)) ?_, .nil, ?_, fun a => ?_,
        h.value⟩
      · intro hmem
        simp at hmem
      · rw [text, if_neg hpath, String.toList_ofList]
        simp
      · by_cases ha : a = .expression
        · exact .inl (by simp [ha])
        · cases hvalue : m.attribute? a with
          | none => exact .inr (lacks_of_attribute? hvalue)
          | some value => exact .inl (by simp [Attribute.mem_all, ha, hvalue])

end

/-- **Writing a mapping and reading it again gives the mapping back**: a plain mapping can be
written, every text that writes it is read as it, and one more attribute of another name,
wherever an attribute may stand, is an error. -/
theorem read_writing (m : Mapping) :
    (m.IsPlain → m.Renders m.text) ∧ (∀ text, m.Renders text → parse text = .ok m) ∧
      ∀ before after, m.RendersAround before after →
        m.Renders (String.ofList (before ++ after)) ∧
        ∀ name value, '=' ∉ name → ',' ∉ name → ',' ∉ value →
          (∀ a : Attribute, Text.trim name ≠ a.name.toList) →
          let text := String.ofList (before ++ ',' :: (name ++ '=' :: (value ++ after)))
          parse text = .error (.unknownAttribute (String.ofList (Text.trim name)) text) := by
  refine ⟨renders_text, fun text h => h.parse (List.append_nil _).symm, fun before after h => ?_⟩
  refine ⟨h.renders, fun name value hequals hcomma hvalue hother => ?_⟩
  intro text
  have hraw : ∀ p ∈ [(name, value)], IsRaw p := by
    intro p hp
    obtain rfl := List.mem_singleton.mp hp
    exact ⟨hequals, hcomma, hvalue⟩
  have htext : text.toList = before ++ (rawText [(name, value)] ++ after) := by
    rw [String.toList_ofList]
    simp [rawText]
  obtain ⟨base, raws, hparse, -, -⟩ := h.read hraw htext
  rw [hparse, List.singleton_append, setAttributes, setAttribute_of_other text base value hother]
  rfl

def total : Mapping :=
  { property := "(a + b) * 2", expression := some "(a + b) * 2", jdbcType := some .bigInt,
    mode := .inputOutput, numericScale := some 5, resultMap := some "all rows" }

theorem balanced_total : Balanced total.property.toList :=
  .parens (balanced_of_all (s := "a + b".toList) (by decide))
    (balanced_of_all (s := " * 2".toList) (by decide))

theorem isPlain_total : total.IsPlain where
  head := .inr ⟨rfl, by decide, balanced_total⟩
  valueType := fun t h => by cases h
  resultMap := fun t h => by
    obtain rfl := Option.some.inj h
    decide
  jdbcTypeName := fun t h => by cases h
  numericScale := fun n h => by
    obtain rfl := Option.some.inj h
    decide
  value := rfl

theorem rendersAround_total :
    total.RendersAround "\t( (a + b) * 2\n) : bigInt ,mode=inOut\n".toList
      ", resultMap = all rows , numericScale=+05".toList := by
  have hspace : IsGaps [' '] := isGaps_singleton rfl
  have hline : IsGaps ['\n'] := isGaps_singleton rfl
  have htag : total.Tells .jdbcType "bigInt".toList :=
    ⟨.bigInt, rfl, (Text.eqIgnoreCase_iff_inAnyCase (by decide)).mp (by decide)⟩
  have hmode : total.Tells .mode "inOut".toList :=
    (Text.eqIgnoreCase_iff_inAnyCase (by decide)).mp (by decide)
  have hscale : total.Tells .numericScale "+05".toList :=
    ⟨5, rfl, by decide,
      .inr ⟨"05".toList, by decide, by decide, List.all_eq_true.mp (by decide), by decide⟩⟩
  have hrows : total.Tells .resultMap "all rows".toList := by
    rw [Tells, String.ofList_toList]
    rfl
  have hexpression : total.Tells .expression total.property.toList := by
    rw [Tells, String.ofList_toList]
    rfl
  have hhead : total.WrittenHead [.expression] "( (a + b) * 2\n)".toList :=
    .expression String.ofList_toList.symm hexpression (by decide) balanced_total hspace hline
  have hfront : total.WrittenFront [.jdbcType, .expression] "\t( (a + b) * 2\n) : bigInt ".toList :=
    .tagged (isGaps_singleton rfl) hhead hspace hspace (by decide) htag hspace
  have hfirst : total.WrittenAttributes [.mode] ",mode=inOut\n".toList :=
    .cons Expr.isGaps_nil Expr.isGaps_nil Expr.isGaps_nil (by decide) hmode hline .nil
  have hlast : total.WrittenAttributes [.numericScale] ", numericScale=+05".toList :=
    .cons hspace Expr.isGaps_nil Expr.isGaps_nil (by decide) hscale Expr.isGaps_nil .nil
  have hrest : total.WrittenAttributes [.resultMap, .numericScale]
      ", resultMap = all rows , numericScale=+05".toList :=
    .cons hspace hspace hspace (by decide) hrows hspace hlast
  refine ⟨_, _, _, _, _, hfront, hfirst, hrest, by decide, fun a => ?_, rfl⟩
  cases a with
  | javaType => exact .inr rfl
  | jdbcTypeName => exact .inr rfl
  | _ => exact .inl (by decide)

theorem read_writing_total :
    total.text = "((a + b) * 2), jdbcType=BIGINT, mode=INOUT, numericScale=5, resultMap=all rows" ∧
      parse total.text = .ok total ∧
      parse "\t( (a + b) * 2\n) : bigInt ,mode=inOut\n, resultMap = all rows , numericScale=+05" =
        .ok total ∧
      let text := "\t( (a + b) * 2\n) : bigInt ,mode=inOut\n, size=1, resultMap = all rows , " ++
        "numericScale=+05"
      parse text = .error (.unknownAttribute "size" text) := by
  obtain ⟨hwrite, hread, haround⟩ := read_writing total
  obtain ⟨hrenders, hunknown⟩ := haround _ _ rendersAround_total
  have hwidth := hunknown " size".toList "1".toList (by decide) (by decide) (by decide)
    (by intro a; cases a <;> decide)
  exact ⟨by decide +kernel, hread _ (hwrite isPlain_total), hread _ hrenders, hwidth⟩

end Mapping

end QueryTemplate
