import QueryTemplate.Proofs.Grammar.Derivation

/-!
# What the parser returns

The variables and members of an expression that was read are names, and its literals are
`null`, booleans, strings, whole numbers of a signed word without a sign, and floats.  So an
expression that was read and holds no float can be written again
(`isPlain_of_parse`).
-/

namespace QueryTemplate.Expr

open Text (Shorter)

def Sound (e : Expr) : Prop :=
  e.hasFloat = false → e.isPlain = true

/-! ### Tokens -/

theorem isName_of_name? {s : List Char} {name : String} {rest : Shorter s.length}
    (h : name? s = some (name, rest)) : isName name = true := by
  cases s with
  | nil => cases h
  | cons c s =>
    rw [name?] at h
    split at h
    · next hc =>
      obtain ⟨rfl, -⟩ := Prod.mk.inj (Option.some.inj h)
      have hall : (s.takeWhile isNameChar).all isNameChar = true := List.all_takeWhile
      rw [isName, String.toList_ofList]
      simp only [hc, hall, Bool.and_self]
    · cases h

theorem isName_of_member? {s : List Char} {name : String} {rest : Shorter s.length}
    (h : member? s = some (name, rest)) : isName name = true := by
  rw [member?] at h
  obtain ⟨point, -, h⟩ := Option.bind_eq_some_iff.mp h
  obtain ⟨⟨name', rest'⟩, hname, h⟩ := Option.bind_eq_some_iff.mp h
  obtain ⟨rfl, -⟩ := Prod.mk.inj (Option.some.inj h)
  exact isName_of_name? hname

theorem sound_of_constant? {s : List Char} {value : Value} {rest : Shorter s.length}
    (h : constant? s = some (value, rest)) : Sound (.literal value) := by
  have hall : ∀ entry ∈ constants, isPlainLiteral entry.2 = true := by decide
  obtain ⟨entry, hentry, h⟩ := List.exists_of_findSome?_eq_some ((constant?_eq s).symm.trans h)
  obtain ⟨_, -, h⟩ := Option.map_eq_some_iff.mp h
  obtain ⟨rfl, -⟩ := Prod.mk.inj h
  exact fun _ => hall entry hentry

theorem sound_of_whole? {digits : List Char} {value : Value} (h : whole? digits = some value) :
    Sound (.literal value) := by
  simp only [whole?] at h
  split at h
  · next hsigned =>
    obtain rfl := Option.some.inj h
    have hlow : (0 : Int) ≤ (Decimal.valueOfDigits digits : Int) := Int.natCast_nonneg _
    have hmin : minWhole ≤ 0 := by decide
    have hmax : maxSigned ≤ maxWhole := by decide
    intro _
    rw [isPlain, Value.ofInt, Number.ofInt_of_inRange (hmin.trans hlow) (hsigned.trans hmax)]
    simp [isPlainLiteral, hsigned]
  · cases h

/-- A numeral with a point is a float. -/
theorem sound_of_fraction? {digits fraction : List Char} {value : Value}
    (h : fraction? digits fraction = some value) : Sound (.literal value) := by
  simp only [fraction?] at h
  split at h
  · obtain rfl := Option.some.inj h
    intro hfloat
    cases hfloat
  · cases h

theorem sound_of_numeral? {s rest : List Char} {value : Value}
    (h : numeral? s = some (value, rest)) : Sound (.literal value) := by
  simp only [numeral?] at h
  split at h
  · cases h
  · split at h
    · split at h
      · obtain ⟨whole, hwhole, heq⟩ := Option.map_eq_some_iff.mp h
        obtain ⟨rfl, -⟩ := Prod.mk.inj heq
        exact sound_of_whole? hwhole
      · obtain ⟨float, hfloat, heq⟩ := Option.map_eq_some_iff.mp h
        obtain ⟨rfl, -⟩ := Prod.mk.inj heq
        exact sound_of_fraction? hfloat
    · obtain ⟨whole, hwhole, heq⟩ := Option.map_eq_some_iff.mp h
      obtain ⟨rfl, -⟩ := Prod.mk.inj heq
      exact sound_of_whole? hwhole

theorem sound_of_atom {s rest : List Char} {e : Expr} (h : (atom s).result? = some (e, rest)) :
    Sound e := by
  rw [atom] at h
  split at h
  · next value after hconstant =>
    obtain ⟨rfl, -⟩ := Prod.mk.inj (Option.some.inj h)
    exact sound_of_constant? hconstant
  · split at h
    · next value after hnumeral =>
      obtain ⟨rfl, -⟩ := Prod.mk.inj (Option.some.inj h)
      exact sound_of_numeral? hnumeral
    · split at h
      · cases h
      · split at h
        · split at h
          · obtain ⟨rfl, -⟩ := Prod.mk.inj (Option.some.inj h)
            exact fun _ => rfl
          · cases h
        · split at h
          · next name after hname =>
            split at h
            · cases h
            · next hfree =>
              obtain ⟨rfl, -⟩ := Prod.mk.inj (Option.some.inj h)
              intro _
              rw [isPlain, isName_of_name? hname]
              simpa using hfree
          · cases h

/-! ### Expressions -/

theorem Sound.not {e : Expr} (h : Sound e) : Sound (.not e) := h

theorem Sound.negate {e : Expr} (h : Sound e) : Sound (.negate e) := h

theorem Sound.call {base : Expr} (h : Sound base) (method : Method) :
    Sound (.call base method) := h

theorem Sound.member {base : Expr} {name : String} (h : Sound base) (hname : isName name = true) :
    Sound (.member base name) := by
  intro hfloat
  rw [isPlain, h hfloat, hname]
  rfl

theorem Sound.index {base key : Expr} (h : Sound base) (hkey : Sound key) :
    Sound (.index base key) := by
  intro hfloat
  obtain ⟨hb, hk⟩ := Bool.or_eq_false_iff.mp hfloat
  rw [isPlain, h hb, hkey hk]
  rfl

theorem Sound.binary {op : BinaryOp} {left right : Expr} (h : Sound left) (hright : Sound right) :
    Sound (.binary op left right) := by
  intro hfloat
  obtain ⟨hl, hr⟩ := Bool.or_eq_false_iff.mp hfloat
  rw [isPlain, h hl, hright hr]
  rfl

/-- **What is derived is sound** if the expression is that it goes on from. -/
theorem Derives.sound {part : Part} {s rest : List Char} {e : Expr} (h : Derives part s e rest)
    (hbase : part.From Sound) : Sound e := by
  induction h with
  | atom h => exact sound_of_atom h
  | parens h hclose ih => exact ih trivial
  | bare => exact hbase
  | member hmember h ih =>
    have hbase : Sound _ := hbase
    exact ih (hbase.member (isName_of_member? hmember))
  | call hmember hcall h ih =>
    have hbase : Sound _ := hbase
    exact ih (hbase.call _)
  | index hopen hkey hclose h ihkey ih =>
    have hbase : Sound _ := hbase
    exact ih (hbase.index (ihkey trivial))
  | postfixed h hmore ih ihmore => exact ihmore (ih trivial)
  | not hsign h ih => exact (ih trivial).not
  | negate hsign h ih => exact (ih trivial).negate
  | unsigned h ih => exact ih trivial
  | single => exact hbase
  | link hop h hmore ih ihmore =>
    have hbase : Sound _ := hbase
    exact ihmore (hbase.binary (ih trivial))
  | chain h hmore ih ihmore => exact ihmore (ih trivial)

/-- **An expression that was read can be written if it holds no float.** -/
theorem isPlain_of_parse {text : String} {e : Expr} (h : parse text = .ok e)
    (hfloat : e.hasFloat = false) : e.isPlain = true := by
  obtain ⟨rest, hderives, -⟩ := derives_of_parse h
  exact hderives.sound trivial hfloat

end QueryTemplate.Expr
