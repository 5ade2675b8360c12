import QueryTemplate.Proofs.Path.Segments

/-!
# Written paths

A `Part` is a segment as it is written: a name behind a dot or on its own, or a key between
brackets, in quotes of either kind or bare.  A name may hold anything but the marks that end a
name, and a key anything but the bracket that closes it; so the cut at the front of a path is at
the end of its first part, whatever stands behind, and a path is cut into the segments that it was
written for.

* `Path.Part.segmentsOf_append`: one part in front of a path.
* `Path.segmentsOf_flatMap`, `Path.segments_of_writable`: a path of parts.
* `Path.follow?_eq_some_iff`: the values that segments lead to, one segment after the other.
* `Path.segments_written`: what a written path means, and that it has one meaning.
-/

namespace QueryTemplate.Path

open Placeholder (WrittenNumber)

/-! ### Parts -/

inductive Quote
  | single
  | double
deriving DecidableEq, Repr

def Quote.mark : Quote → Char
  | .single => '\''
  | .double => '"'

inductive Part
  | field (dotted : Bool) (name : String)
  | bare (key : String)
  | quoted (quote : Quote) (key : String)
deriving DecidableEq, Repr

namespace Part

def segment : Part → Segment
  | .field _ name => .field name
  | .bare key => .index key
  | .quoted _ key => .index key

def chars : Part → List Char
  | .field dotted name => if dotted then '.' :: name.toList else name.toList
  | .bare key => '[' :: (key.toList ++ [']'])
  | .quoted quote key => '[' :: ((quote.mark :: key.toList ++ [quote.mark]) ++ [']'])

/-- Whether the part can be written: a name has something in it, no blank at its ends and no mark
that ends it, and a key does not close its bracket.  A bare key has no blank at its ends either,
and no quote in front. -/
def isPlain : Part → Bool
  | .field _ name =>
    !name.isEmpty && Text.isTrimmed name.toList && name.toList.all (!isStop ·)
  | .bare key =>
    key.toList.all (· != ']') && Text.isTrimmed key.toList &&
      !key.toList.head?.any fun c => c == '\'' || c == '"'
  | .quoted _ key => key.toList.all (· != ']')

/-- Whether the second part can stand behind the first: a name behind a name needs its dot. -/
def joins : Part → Part → Bool
  | .field _ _, .field dotted _ => dotted
  | _, _ => true

def Ends : Part → List Char → Prop
  | .field _ _, rest => EndsName rest
  | _, _ => True

end Part

/-! ### One part -/

theorem unquote_quoted (quote : Quote) (key : List Char) :
    unquote (quote.mark :: key ++ [quote.mark]) = key := by
  cases quote <;> simp [unquote, between?, Quote.mark]

theorem unquote_of_head? {key : List Char}
    (h : key.head?.any (fun c => c == '\'' || c == '"') = false) : unquote key = key := by
  cases key with
  | nil => rfl
  | cons c key =>
    simp only [List.head?_cons, Option.any_some, Bool.or_eq_false_iff] at h
    simp [unquote, between?, h]

section

variable {rest : List Char}

theorem segmentsOf_name {name : String} (hne : name ≠ "")
    (htrimmed : Text.isTrimmed name.toList = true)
    (hstop : ∀ c ∈ name.toList, isStop c = false) (hrest : EndsName rest) (dotted : Bool) :
    segmentsOf ((Part.field dotted name).chars ++ rest) = .field name :: segmentsOf rest := by
  have hname : name.toList ≠ [] := by
    simpa using hne
  have hfield : fieldOf (Text.trim name.toList) = [.field name] := by
    rw [Text.trim_of_isTrimmed htrimmed, fieldOf, if_neg (by simpa using hname),
      String.ofList_toList]
  cases dotted with
  | true =>
    rw [Part.chars, if_pos rfl, List.cons_append, segmentsOf_field hstop hrest, hfield]
    rfl
  | false =>
    rw [Part.chars, if_neg Bool.false_ne_true, segmentsOf_first hname hstop hrest, hfield]
    rfl

/-- A text between brackets is one key, if it has no blank at its ends and does not close them. -/
theorem segmentsOf_key {text : List Char} {key : String} (hclose : ']' ∉ text)
    (htrimmed : Text.isTrimmed text = true) (hkey : unquote text = key.toList) :
    segmentsOf ('[' :: (text ++ [']']) ++ rest) = .index key :: segmentsOf rest := by
  rw [List.cons_append, List.append_assoc, List.singleton_append, segmentsOf_index hclose,
    Text.trim_of_isTrimmed htrimmed, hkey, String.ofList_toList]

end

namespace Part

variable {p : Part} {rest : List Char}

/-- **One part is one segment**, where what stands behind it does not go on like it. -/
theorem segmentsOf_append (hp : p.isPlain = true) (hrest : p.Ends rest) :
    segmentsOf (p.chars ++ rest) = p.segment :: segmentsOf rest := by
  cases p with
  | field dotted name =>
    simp only [isPlain, Bool.and_eq_true, Bool.not_eq_true', List.all_eq_true] at hp
    obtain ⟨⟨hne, htrimmed⟩, hstop⟩ := hp
    have hname : name ≠ "" := by
      simpa using hne
    exact segmentsOf_name hname htrimmed hstop hrest dotted
  | bare key =>
    simp only [isPlain, Bool.and_eq_true, Bool.not_eq_true', List.all_eq_true, bne_iff_ne] at hp
    obtain ⟨⟨hclose, htrimmed⟩, hquote⟩ := hp
    have hfree : ']' ∉ key.toList := fun hmem => hclose _ hmem rfl
    exact segmentsOf_key hfree htrimmed (unquote_of_head? hquote)
  | quoted quote key =>
    simp only [isPlain, List.all_eq_true, bne_iff_ne] at hp
    have hmark : quote.mark ≠ ']' ∧ Text.isBlank quote.mark = false := by
      cases quote <;> exact ⟨by decide, by decide⟩
    have hfree : ']' ∉ quote.mark :: key.toList ++ [quote.mark] := by
      intro hmem
      rcases List.mem_append.mp hmem with hmem | hmem
      · rcases List.mem_cons.mp hmem with heq | hmem
        · exact hmark.1 heq.symm
        · exact hp _ hmem rfl
      · exact hmark.1 (List.mem_singleton.mp hmem).symm
    -- blanks at the ends of the key are inside the quotes
    have htrimmed : Text.isTrimmed (quote.mark :: key.toList ++ [quote.mark]) = true := by
      rw [Text.isTrimmed_iff, List.getLast?_concat]
      exact ⟨hmark.2, hmark.2⟩
    exact segmentsOf_key hfree htrimmed (unquote_quoted quote key.toList)

theorem isTrimmed_chars (hp : p.isPlain = true) : Text.isTrimmed p.chars = true := by
  have hkey : ∀ key : List Char, Text.isTrimmed ('[' :: (key ++ [']'])) = true := by
    intro key
    rw [Text.isTrimmed_iff, ← List.cons_append, List.getLast?_concat]
    exact ⟨rfl, rfl⟩
  cases p with
  | field dotted name =>
    simp only [isPlain, Bool.and_eq_true] at hp
    cases dotted with
    | true => exact Text.isTrimmed_append (s := ['.']) rfl hp.1.2
    | false => exact hp.1.2
  | bare key => exact hkey _
  | quoted quote key => exact hkey _

end Part

/-! ### A path of parts -/

def written (parts : List Part) : String :=
  String.ofList (parts.flatMap Part.chars)

/-- Each part can be written, and can stand behind the part in front of it. -/
structure Writable (parts : List Part) : Prop where
  plain : ∀ p ∈ parts, p.isPlain = true
  joined : parts.IsChain fun p q => p.joins q = true

section

variable {p : Part} {parts : List Part}

theorem Writable.tail (h : Writable (p :: parts)) : Writable parts :=
  ⟨fun q hq => h.plain q (List.mem_cons_of_mem p hq), h.joined.tail⟩

/-- What stands behind the first part does not go on like it. -/
theorem Writable.ends (h : Writable (p :: parts)) : p.Ends (parts.flatMap Part.chars) := by
  cases p with
  | bare key => trivial
  | quoted quote key => trivial
  | field dotted name =>
    cases parts with
    | nil => rfl
    | cons q parts =>
      cases q with
      | bare key => rfl
      | quoted quote key => rfl
      | field dotted' name' =>
        have hdotted : dotted' = true := (List.isChain_cons_cons.mp h.joined).1
        subst hdotted
        rfl

/-- **The segments of some parts are those that are written.** -/
theorem segmentsOf_flatMap (h : Writable parts) :
    segmentsOf (parts.flatMap Part.chars) = parts.map Part.segment := by
  induction parts with
  | nil => exact segmentsOf_nil
  | cons p parts ih =>
    have hp := h.plain p List.mem_cons_self
    rw [List.flatMap_cons, Part.segmentsOf_append hp h.ends, ih h.tail, List.map_cons]

theorem isTrimmed_flatMap (h : ∀ p ∈ parts, p.isPlain = true) :
    Text.isTrimmed (parts.flatMap Part.chars) = true := by
  induction parts with
  | nil => rfl
  | cons p parts ih =>
    obtain ⟨hp, hrest⟩ := List.forall_mem_cons.mp h
    exact Text.isTrimmed_append (Part.isTrimmed_chars hp) (ih hrest)

theorem segments_of_writable (h : Writable parts) :
    segments (written parts) = parts.map Part.segment := by
  rw [segments, written, String.toList_ofList, Text.trim_of_isTrimmed (isTrimmed_flatMap h.plain),
    segmentsOf_flatMap h]

end

/-! ### Where segments lead -/

/-- The segments lead from a value to a value inside it: through the members of objects with their
names, and through the items of arrays at the positions that their keys write. -/
inductive Leads : Value → List Segment → Value → Prop
  | here (v : Value) : Leads v [] v
  | member {members : Members} {s : Segment} {steps : List Segment} {v w : Value}
      (h : Members.get? members s.key = some v) (hrest : Leads v steps w) :
      Leads (.object members) (s :: steps) w
  | item {items : List Value} {key : String} {i : Nat} {steps : List Segment} {v w : Value}
      (hkey : WrittenNumber i key.toList) (hi : i < Nat.pow 2 64) (h : items[i]? = some v)
      (hrest : Leads v steps w) : Leads (.array items) (.index key :: steps) w

theorem leads_cons_iff {v w : Value} {s : Segment} {steps : List Segment} :
    Leads v (s :: steps) w ↔ ∃ mid, s.step? v = some mid ∧ Leads mid steps w := by
  constructor
  · intro h
    cases h with
    | member h hrest => exact ⟨_, (Segment.step?_object _ _).trans h, hrest⟩
    | item hkey hi h hrest =>
      refine ⟨_, ?_, hrest⟩
      rw [Segment.step?, Placeholder.unsigned?_eq_some_iff.mpr ⟨hkey, hi⟩]
      exact h
  · rintro ⟨mid, hmid, hrest⟩
    cases v with
    | object members =>
      rw [Segment.step?_object] at hmid
      exact .member hmid hrest
    | array items =>
      cases s with
      | field name => cases hmid
      | index key =>
        obtain ⟨i, hi, hitem⟩ := Option.bind_eq_some_iff.mp hmid
        obtain ⟨hkey, hbound⟩ := Placeholder.unsigned?_eq_some_iff.mp hi
        exact .item hkey hbound hitem hrest
    | _ => cases s <;> cases hmid

/-- **Following segments leads to the value that they lead to**, and nowhere else. -/
theorem follow?_eq_some_iff {v w : Value} {steps : List Segment} :
    follow? v steps = some w ↔ Leads v steps w := by
  induction steps generalizing v with
  | nil =>
    constructor
    · intro h
      obtain rfl := Option.some.inj h
      exact .here v
    · intro h
      cases h
      rfl
  | cons s steps ih =>
    rw [follow?_cons, Option.bind_eq_some_iff, leads_cons_iff]
    simp only [ih]

/-- **A path means the segments that it is written for.**  It is cut into them, it leads from a
value exactly where they lead, and it is not written for any others. -/
theorem segments_written {parts : List Part} (h : Writable parts) :
    segments (written parts) = parts.map Part.segment ∧
    (∀ v w, get? v (written parts) = some w ↔ Leads v (parts.map Part.segment) w) ∧
    ∀ others, Writable others → others.map Part.segment ≠ parts.map Part.segment →
      written others ≠ written parts := by
  have hsegments := segments_of_writable h
  refine ⟨hsegments, fun v w => ?_, fun others hothers hne heq => hne ?_⟩
  · rw [get?, hsegments, follow?_eq_some_iff]
  · rw [← segments_of_writable hothers, heq, hsegments]

/-- Keys with marks, quotes and blanks in them, and a name without a dot behind a key. -/
theorem segments_written_marks :
    let parts : List Part := [.quoted .single "k.[ '\"", .field false "a ]b", .bare "0",
      .quoted .double "", .field true "\"c"]
    let v : Value := .object [("k.[ '\"", .object [("a ]b",
      .array [.object [("", .object [("\"c", .bool true)])]])])]
    Writable parts ∧ written parts = "['k.[ '\"']a ]b[0][\"\"].\"c" ∧
    segments "['k.[ '\"']a ]b[0][\"\"].\"c" =
      [.index "k.[ '\"", .field "a ]b", .index "0", .index "", .field "\"c"] ∧
    get? v "['k.[ '\"']a ]b[0][\"\"].\"c" = some (.bool true) := by
  intro parts v
  have hwritable : Writable parts := ⟨by decide +kernel, by decide +kernel⟩
  have htext : written parts = "['k.[ '\"']a ]b[0][\"\"].\"c" := by decide +kernel
  have hzero : WrittenNumber 0 "0".toList := by
    have hwritten := Mapping.writtenNumber_natText 0
    rwa [show Decimal.natText 0 = "0" by decide +kernel] at hwritten
  have hleads : Leads v (parts.map Part.segment) (.bool true) :=
    .member rfl (.member rfl (.item hzero (by decide) rfl (.member rfl (.member rfl (.here _)))))
  obtain ⟨hsegments, hget, -⟩ := segments_written hwritable
  rw [← htext]
  exact ⟨hwritable, rfl, hsegments, (hget v _).mpr hleads⟩

end QueryTemplate.Path
