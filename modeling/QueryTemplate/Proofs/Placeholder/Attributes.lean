import QueryTemplate.Proofs.Outcome
import QueryTemplate.Proofs.Placeholder.Basic

/-!
# Setting attributes

An attribute says one thing of a mapping.  `Mapping.adopt` takes one attribute over from another
mapping, and setting an attribute or a tag is such a step, whatever the mapping is and whatever
error it would have been: so it can be set in every mapping or in none, and what it does not say
stays as it is.

* `Mapping.setAttribute_eq_adopt`, `Mapping.setTag_eq_adopt`: the steps.
* `Mapping.setAttributes_of_eq_ok`: one step after the other.
* `Mapping.exists_parts_of_parse`: what a placeholder that can be read is made of.
-/

namespace QueryTemplate.Mapping

open Placeholder Outcome

/-! ### Taking over one attribute -/

/-- The mapping with an attribute as another mapping has it. -/
def adopt (base m : Mapping) : Attribute → Mapping
  | .javaType => { base with valueType := m.valueType }
  | .jdbcType => { base with jdbcType := m.jdbcType }
  | .mode => { base with mode := m.mode }
  | .numericScale => { base with numericScale := m.numericScale }
  | .resultMap => { base with resultMap := m.resultMap }
  | .jdbcTypeName => { base with jdbcTypeName := m.jdbcTypeName }
  | .expression => { base with expression := m.expression }

section

variable (base m : Mapping) (a : Attribute)

theorem adopt_adopt (b : Attribute) : (base.adopt m a).adopt m b = (base.adopt m b).adopt m a := by
  cases a <;> cases b <;> rfl

theorem adopt_self : (base.adopt m a).adopt m a = base.adopt m a := by
  cases a <;> rfl

@[simp] theorem property_adopt : (base.adopt m a).property = base.property := by
  cases a <;> rfl

@[simp] theorem value_adopt : (base.adopt m a).value = base.value := by
  cases a <;> rfl

theorem expression_adopt_of_ne {a : Attribute} (h : a ≠ .expression) :
    (base.adopt m a).expression = base.expression := by
  cases a with
  | expression => exact absurd rfl h
  | _ => rfl

end

/-! ### Setting attributes -/

section

variable {content : String} {m m' : Mapping}

theorem valid_eq_ok_iff {α : Type} {name : String} {value : List Char} {reading : Option α}
    {a : α} : valid content name value reading = .ok a ↔ reading = some a := by
  cases reading with
  | none => exact ⟨nofun, nofun⟩
  | some b => exact ⟨fun h => congrArg some (Except.ok.inj h), fun h => congrArg Except.ok
      (Option.some.inj h)⟩

/-- **An attribute says one thing**: it can be set in every mapping or in none, and it leaves the
rest of the mapping as it is. -/
theorem setAttribute_eq_adopt {name value : List Char}
    (h : setAttribute content m name value = .ok m') :
    ∃ a : Attribute, Text.trim name = a.name.toList ∧
      (a = .expression → m'.expression.isSome = true) ∧
      ∀ content' base, setAttribute content' base name value = .ok (base.adopt m' a) := by
  have hname : ∀ {a : Attribute}, (String.ofList (Text.trim name) == a.name) = true →
      Text.trim name = a.name.toList := by
    intro a ha
    rw [← eq_of_beq ha, String.toList_ofList]
  rw [setAttribute] at h
  split_ifs at h with hvalueType hjdbcType hmode hscale hresultMap htypeName hexpression
  · obtain rfl := Except.ok.inj h
    refine ⟨.javaType, hname hvalueType, nofun, fun content' base => ?_⟩
    rw [setAttribute, if_pos hvalueType]
    rfl
  · obtain ⟨t, ht, h⟩ := bind_eq_ok_iff.mp h
    obtain rfl := pure_eq_ok_iff.mp h
    refine ⟨.jdbcType, hname hjdbcType, nofun, fun content' base => ?_⟩
    rw [setAttribute, if_neg hvalueType, if_pos hjdbcType]
    exact bind_eq_ok_iff.mpr ⟨t, valid_eq_ok_iff.mpr (valid_eq_ok_iff.mp ht), rfl⟩
  · obtain ⟨mode, hread, h⟩ := bind_eq_ok_iff.mp h
    obtain rfl := pure_eq_ok_iff.mp h
    refine ⟨.mode, hname hmode, nofun, fun content' base => ?_⟩
    rw [setAttribute, if_neg hvalueType, if_neg hjdbcType, if_pos hmode]
    exact bind_eq_ok_iff.mpr ⟨mode, valid_eq_ok_iff.mpr (valid_eq_ok_iff.mp hread), rfl⟩
  · obtain ⟨scale, hread, h⟩ := bind_eq_ok_iff.mp h
    obtain rfl := pure_eq_ok_iff.mp h
    refine ⟨.numericScale, hname hscale, nofun, fun content' base => ?_⟩
    rw [setAttribute, if_neg hvalueType, if_neg hjdbcType, if_neg hmode, if_pos hscale]
    exact bind_eq_ok_iff.mpr ⟨scale, valid_eq_ok_iff.mpr (valid_eq_ok_iff.mp hread), rfl⟩
  · obtain rfl := Except.ok.inj h
    refine ⟨.resultMap, hname hresultMap, nofun, fun content' base => ?_⟩
    rw [setAttribute, if_neg hvalueType, if_neg hjdbcType, if_neg hmode, if_neg hscale,
      if_pos hresultMap]
    rfl
  · obtain rfl := Except.ok.inj h
    refine ⟨.jdbcTypeName, hname htypeName, nofun, fun content' base => ?_⟩
    rw [setAttribute, if_neg hvalueType, if_neg hjdbcType, if_neg hmode, if_neg hscale,
      if_neg hresultMap, if_pos htypeName]
    rfl
  · obtain rfl := Except.ok.inj h
    refine ⟨.expression, hname hexpression, fun _ => rfl, fun content' base => ?_⟩
    rw [setAttribute, if_neg hvalueType, if_neg hjdbcType, if_neg hmode, if_neg hscale,
      if_neg hresultMap, if_neg htypeName, if_pos hexpression]
    rfl

/-- **A list of attributes can be set in every mapping or in none.**  The property and the value
stay, and the expression as well unless one of the attributes sets it. -/
theorem setAttributes_of_eq_ok {raws : List (List Char × List Char)}
    (h : setAttributes content m raws = .ok m') (content' : String) (base : Mapping) :
    ∃ next, setAttributes content' base raws = .ok next ∧ next.property = base.property ∧
      next.value = base.value ∧
      (base.expression.isSome = true → next.expression.isSome = true) ∧
      ((∀ p ∈ raws, Text.trim p.1 ≠ Attribute.expression.name.toList) →
        next.expression = base.expression) := by
  induction raws generalizing m base with
  | nil => exact ⟨base, rfl, rfl, rfl, id, fun _ => rfl⟩
  | cons p raws ih =>
    obtain ⟨name, value⟩ := p
    obtain ⟨mid, hmid, h⟩ := bind_eq_ok_iff.mp h
    obtain ⟨a, hname, hsome, hset⟩ := setAttribute_eq_adopt hmid
    obtain ⟨next, hnext, hproperty, hvalue, hisSome, hexpression⟩ := ih h (base.adopt mid a)
    rw [property_adopt] at hproperty
    rw [value_adopt] at hvalue
    refine ⟨next, ?_, hproperty, hvalue, fun hbase => hisSome ?_, fun hother => ?_⟩
    · rw [setAttributes, hset]
      exact hnext
    · by_cases ha : a = .expression
      · subst ha
        exact hsome rfl
      · rwa [expression_adopt_of_ne base mid ha]
    · obtain ⟨hfirst, hrest⟩ := List.forall_mem_cons.mp hother
      have ha : a ≠ .expression := by
        rintro rfl
        exact hfirst hname
      rw [hexpression hrest, expression_adopt_of_ne base mid ha]

/-- A tag sets the attribute for the type. -/
theorem setTag_eq_adopt {tag : Option (List Char)} (h : setTag content m tag = .ok m') :
    m' = m.adopt m' .jdbcType := by
  cases tag with
  | none =>
    obtain rfl := Except.ok.inj h
    rfl
  | some tag =>
    obtain ⟨t, -, h⟩ := bind_eq_ok_iff.mp h
    obtain rfl := pure_eq_ok_iff.mp h
    rfl

/-- **What a placeholder that can be read is made of**: its head gives the property, and its tag and
attributes can be set. -/
theorem exists_parts_of_parse (h : parse content = .ok m) :
    ∃ p, parts content.toList = .ok p ∧ p.rest.all Text.isBlank = true ∧
      m.property = p.head.mapping.property ∧ m.value = none := by
  simp only [parse] at h
  split at h
  · cases h
  · next p hp =>
    split at h
    · cases h
    · next hrest =>
      obtain ⟨tagged, htag, h⟩ := bind_eq_ok_iff.mp h
      obtain ⟨next, hnext, h⟩ := bind_eq_ok_iff.mp h
      split at h
      · cases h
      · obtain rfl := pure_eq_ok_iff.mp h
        obtain ⟨next', hnext', hproperty, hvalue, -⟩ := setAttributes_of_eq_ok hnext content tagged
        obtain rfl := Except.ok.inj (hnext.symm.trans hnext')
        rw [setTag_eq_adopt htag] at hproperty hvalue
        refine ⟨p, hp, by simpa using hrest, by rw [hproperty, property_adopt], ?_⟩
        rw [hvalue, value_adopt]
        cases p.head <;> rfl

theorem value_of_parse (h : parse content = .ok m) : m.value = none := by
  obtain ⟨_, _, _, _, hvalue⟩ := exists_parts_of_parse h
  exact hvalue

end

end QueryTemplate.Mapping
