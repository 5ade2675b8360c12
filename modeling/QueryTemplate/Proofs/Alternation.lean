import QueryTemplate.Span

/-!
# Texts and spans in turn

A text with spans is made of texts and bodies in turn, `a₀ b₁ a₁ … bₙ aₙ`
(`Alternation`).  It is written with a backslash in front of every opening mark in one of
its texts and of every closing mark in one of its bodies (`Alternation.write`), and it is
read by joining the literal pieces that stand side by side (`Delimiters.read`).

* `Delimiters.bodies_eq`, `Delimiters.replace_eq`: the bodies of a text and what replacing
  its spans gives depend on nothing but the alternation that is read.
* `Text.escape_of_cut`, `Text.cut_escape_append`: the first mark of an escaped text stands
  behind a backslash.
* `Delimiters.closeSpan_escape`, `Delimiters.read_escape`: so an escaped body ends at the
  mark behind it, and an escaped text is read up to the end of its last mark.
* `Delimiters.read_writeOf`, `Alternation.read_write`: what was written is read.
-/

namespace QueryTemplate

/-! ### Marks in a text -/

namespace Text

/-- A mark that no backslash belongs to and whose first character does not come again. -/
structure IsMark (mark : List Char) : Prop where
  ne_nil : mark ≠ []
  noBackslash : '\\' ∉ mark
  noRepeat : ∀ c ∈ mark.head?, c ∉ mark.tail

section

variable {mark s t before after : List Char}

/-- A mark is found behind a text that holds none: it cannot begin in the text. -/
theorem cut_append_mark (hm : IsMark mark) (h : cut mark s = none) :
    cut mark (s ++ mark ++ t) = some (s, t) := by
  induction s with
  | nil =>
    obtain ⟨c, rest, rfl⟩ := List.exists_cons_of_ne_nil hm.ne_nil
    simp [cut]
  | cons c s ih =>
    have hc : ¬ mark.isPrefixOf (c :: s) = true := by
      intro hp
      rw [cut, if_pos hp] at h
      cases h
    rw [cut, if_neg hc] at h
    have hrest := ih (Option.map_eq_none_iff.mp h)
    have hfirst : ¬ mark.isPrefixOf (c :: (s ++ mark ++ t)) = true := by
      intro hp
      obtain ⟨tail, htail⟩ := List.isPrefixOf_iff_prefix.mp hp
      obtain ⟨d, rest, rfl⟩ := List.exists_cons_of_ne_nil hm.ne_nil
      obtain ⟨rfl, hrest⟩ := List.cons.inj htail
      rw [List.append_assoc] at hrest
      rcases List.append_eq_append_iff.mp hrest with ⟨u, hu, -⟩ | ⟨u, hu, hut⟩
      · -- the mark would stand in the text
        exact hc (List.isPrefixOf_iff_prefix.mpr ⟨u, by rw [hu, List.cons_append]⟩)
      · -- the mark would overlap itself
        cases u with
        | nil => exact hc (List.isPrefixOf_iff_prefix.mpr ⟨[], by simpa using hu⟩)
        | cons e u =>
          obtain ⟨rfl, -⟩ := List.cons.inj hut
          exact hm.noRepeat _ rfl (by simp [hu])
    rw [List.cons_append, List.cons_append, cut, if_neg hfirst, hrest]
    rfl

theorem cut_before (hm : IsMark mark) (h : cut mark s = some (before, after)) :
    cut mark before = none := by
  induction s generalizing before with
  | nil => simp [cut, hm.ne_nil] at h
  | cons c s ih =>
    by_cases hc : mark.isPrefixOf (c :: s) = true
    · rw [cut, if_pos hc] at h
      obtain ⟨rfl, -⟩ := Prod.mk.inj (Option.some.inj h)
      simp [cut, hm.ne_nil]
    · rw [cut, if_neg hc] at h
      obtain ⟨⟨front, after'⟩, hcut, heq⟩ := Option.map_eq_some_iff.mp h
      obtain ⟨rfl, rfl⟩ := Prod.mk.inj heq
      have hfront : ¬ mark.isPrefixOf (c :: front) = true := by
        intro hp
        obtain ⟨tail, htail⟩ := List.isPrefixOf_iff_prefix.mp hp
        refine hc (List.isPrefixOf_iff_prefix.mpr ⟨tail ++ mark ++ after', ?_⟩)
        rw [eq_of_cut hcut, ← List.append_assoc, ← List.append_assoc, htail]
        simp
      rw [cut, if_neg hfront, ih hcut]
      rfl

theorem cut_backslash (hm : IsMark mark) (h : cut mark s = none) :
    cut mark (s ++ ['\\']) = none := by
  rw [cut_eq_none_iff] at h ⊢
  intro before after heq
  rcases List.eq_nil_or_concat after with rfl | ⟨front, last, rfl⟩
  · have hlast : '\\' ∈ mark := by
      have hmark := congrArg List.getLast? heq
      rw [List.append_nil, List.getLast?_concat, List.getLast?_append] at hmark
      cases hl : mark.getLast? with
      | none => exact absurd (List.getLast?_eq_none_iff.mp hl) hm.ne_nil
      | some l =>
        rw [hl] at hmark
        obtain rfl := Option.some.inj hmark
        exact List.mem_of_getLast? hl
    exact hm.noBackslash hlast
  · rw [List.concat_eq_append, ← List.append_assoc] at heq
    exact h before front (List.append_inj_left' heq rfl)

def escape (mark : List Char) : List Char → List Char
  | [] => []
  | c :: rest =>
    if mark.isPrefixOf (c :: rest) then '\\' :: c :: escape mark rest
    else c :: escape mark rest

theorem escape_of_cut_eq_none (h : cut mark s = none) : escape mark s = s := by
  induction s with
  | nil => rfl
  | cons c s ih =>
    by_cases hc : mark.isPrefixOf (c :: s) = true
    · rw [cut, if_pos hc] at h
      cases h
    · rw [cut, if_neg hc] at h
      rw [escape, if_neg hc, ih (Option.map_eq_none_iff.mp h)]

theorem escape_append_of_not_mem {c : Char} {rest : List Char} (hmark : mark = c :: rest)
    (h : c ∉ t) : escape mark (t ++ s) = t ++ escape mark s := by
  induction t with
  | nil => rfl
  | cons d t ih =>
    have hd : ¬ mark.isPrefixOf (d :: (t ++ s)) = true := by
      rw [hmark]
      intro hp
      obtain ⟨tail, htail⟩ := List.isPrefixOf_iff_prefix.mp hp
      obtain ⟨rfl, -⟩ := List.cons.inj htail
      exact h List.mem_cons_self
    rw [List.cons_append, escape, if_neg hd, ih fun hc => h (List.mem_cons_of_mem d hc)]
    rfl

theorem escape_of_cut (hm : IsMark mark) (h : cut mark s = some (before, after)) :
    escape mark s = before ++ '\\' :: (mark ++ escape mark after) := by
  induction s generalizing before with
  | nil => simp [cut, hm.ne_nil] at h
  | cons c s ih =>
    by_cases hc : mark.isPrefixOf (c :: s) = true
    · rw [cut, if_pos hc] at h
      obtain ⟨rfl, rfl⟩ := Prod.mk.inj (Option.some.inj h)
      obtain ⟨d, rest, rfl⟩ := List.exists_cons_of_ne_nil hm.ne_nil
      obtain ⟨tail, htail⟩ := List.isPrefixOf_iff_prefix.mp hc
      obtain ⟨rfl, hs⟩ := List.cons.inj htail
      have hrest : s = rest ++ tail := hs.symm
      have hd : d ∉ rest := hm.noRepeat d rfl
      rw [escape, if_pos hc, hrest, escape_append_of_not_mem rfl hd]
      simp
    · rw [cut, if_neg hc] at h
      obtain ⟨⟨front, after'⟩, hcut, heq⟩ := Option.map_eq_some_iff.mp h
      obtain ⟨rfl, rfl⟩ := Prod.mk.inj heq
      rw [escape, if_neg hc, ih hcut]
      rfl

/-- The first mark of an escaped text stands behind a backslash. -/
theorem cut_escape_append (hm : IsMark mark) (h : cut mark s = some (before, after)) :
    cut mark (escape mark s ++ t) = some (before ++ ['\\'], escape mark after ++ t) := by
  have hbefore := cut_backslash hm (cut_before hm h)
  rw [escape_of_cut hm h, ← cut_append_mark hm hbefore]
  simp

end

end Text

/-! ### Alternations -/

/-- Texts and bodies in turn, with a text at either end. -/
inductive Alternation
  | last (text : List Char)
  | next (text body : List Char) (rest : Alternation)
deriving DecidableEq, Repr

namespace Alternation

def bodies : Alternation → List String
  | .last _ => []
  | .next _ body rest => String.ofList body :: bodies rest

def fill {ε : Type} (answer : String → Except ε String) : Alternation → Except ε String
  | .last text => .ok (String.ofList text)
  | .next text body rest => do
    let head ← answer (String.ofList body)
    let tail ← fill answer rest
    return String.ofList text ++ head ++ tail

/-- No text in front of a body and no body ends in a backslash. -/
def Separated : Alternation → Prop
  | .last _ => True
  | .next text body rest =>
    Delimiters.escapes text = false ∧ Delimiters.escapes body = false ∧ Separated rest

/-- The alternation as one text: each body between its marks, and a backslash before each
opening mark in a text and each closing mark in a body. -/
def writeOf (opening closing : List Char) : Alternation → List Char
  | .last text => Text.escape opening text
  | .next text body rest =>
    Text.escape opening text ++ opening ++ (Text.escape closing body ++ closing) ++
      writeOf opening closing rest

def write (d : Delimiters) (a : Alternation) : String :=
  String.ofList (writeOf d.opening.toList d.closing.toList a)

def prepend (text : List Char) : Alternation → Alternation
  | .last first => .last (text ++ first)
  | .next first body rest => .next (text ++ first) body rest

def ofPieces : List Piece → Alternation
  | [] => .last []
  | .literal text :: rest => (ofPieces rest).prepend text
  | .span body :: rest => .next [] body (ofPieces rest)

@[simp] theorem prepend_nil (a : Alternation) : a.prepend [] = a := by
  cases a <;> rfl

@[simp] theorem prepend_prepend (s t : List Char) (a : Alternation) :
    (a.prepend t).prepend s = a.prepend (s ++ t) := by
  cases a <;> simp [prepend]

@[simp] theorem bodies_prepend (text : List Char) (a : Alternation) :
    (a.prepend text).bodies = a.bodies := by
  cases a <;> rfl

theorem fill_prepend {ε : Type} (answer : String → Except ε String) (text : List Char)
    (a : Alternation) :
    (a.prepend text).fill answer = (a.fill answer).map (String.ofList text ++ ·) := by
  cases a with
  | last first => simp [prepend, fill, String.ofList_append, Except.map]
  | next first body rest =>
    simp only [prepend, fill, String.ofList_append]
    cases answer (String.ofList body) with
    | error e => rfl
    | ok head =>
      cases fill answer rest with
      | error e => rfl
      | ok tail => simp [bind, Except.bind, pure, Except.pure, Except.map, String.append_assoc]

end Alternation

namespace Delimiters

open Alternation Text

/-- What a text says: its texts and bodies in turn. -/
def read (d : Delimiters) (text : String) : Alternation :=
  ofPieces (d.pieces text)

theorem bodies_eq (d : Delimiters) (text : String) : d.bodies text = (d.read text).bodies := by
  rw [Delimiters.bodies, read]
  induction d.pieces text with
  | nil => rfl
  | cons piece rest ih =>
    cases piece with
    | literal t => simpa [ofPieces] using ih
    | span body => simpa [ofPieces, Alternation.bodies] using ih

theorem replace_eq {ε : Type} (d : Delimiters) (answer : String → Except ε String)
    (text : String) : d.replace answer text = (d.read text).fill answer := by
  rw [replace, read]
  induction d.pieces text with
  | nil => rfl
  | cons piece rest ih =>
    cases piece with
    | literal t =>
      rw [join, ih, ofPieces, fill_prepend]
      rfl
    | span body =>
      rw [join, ih, ofPieces, fill]
      simp

/-! ### The first mark of a text -/

section

variable {opening closing s before after body rest : List Char}

theorem piecesOf_of_cut_eq_none (h : cut opening s = none) :
    piecesOf opening closing s = if s.isEmpty then [] else [.literal s] := by
  rw [piecesOf, h]

theorem piecesOf_of_escaped (ho : opening ≠ []) (h : cut opening s = some (before, after))
    (he : escapes before = true) : piecesOf opening closing s =
      .literal (before.dropLast ++ opening) :: piecesOf opening closing after := by
  have hlength := length_of_cut h
  have hpos := List.length_pos_iff.mpr ho
  rw [piecesOf, h]
  simp only [he, if_true]
  rw [dif_pos (by omega)]

theorem piecesOf_of_unclosed (h : cut opening s = some (before, after))
    (he : escapes before = false) (hclose : closeSpan closing after = none) :
    piecesOf opening closing s = [.literal before, .literal (opening ++ after)] := by
  rw [piecesOf, h]
  simp [he, hclose]

theorem piecesOf_of_closed (ho : opening ≠ []) (h : cut opening s = some (before, after))
    (he : escapes before = false) (hclose : closeSpan closing after = some (body, rest)) :
    piecesOf opening closing s =
      .literal before :: .span body :: piecesOf opening closing rest := by
  have hlength := length_of_cut h
  have hrest := length_of_closeSpan hclose
  have hpos := List.length_pos_iff.mpr ho
  rw [piecesOf, h]
  simp only [he, hclose]
  rw [if_neg (by simp), dif_pos (by omega)]

def readOf (opening closing s : List Char) : Alternation :=
  ofPieces (piecesOf opening closing s)

theorem read_of_cut_eq_none (h : cut opening s = none) : readOf opening closing s = .last s := by
  rw [readOf, piecesOf_of_cut_eq_none h]
  cases s <;> simp [ofPieces, prepend]

theorem read_of_escaped (ho : IsMark opening) (h : cut opening s = some (before, after))
    (he : escapes before = true) :
    readOf opening closing s =
      (readOf opening closing after).prepend (before.dropLast ++ opening) := by
  rw [readOf, piecesOf_of_escaped ho.ne_nil h he]
  rfl

theorem read_of_closed (ho : IsMark opening) (h : cut opening s = some (before, after))
    (he : escapes before = false) (hclose : closeSpan closing after = some (body, rest)) :
    readOf opening closing s = .next before body (readOf opening closing rest) := by
  rw [readOf, piecesOf_of_closed ho.ne_nil h he hclose]
  simp [ofPieces, prepend, readOf]

/-- A closing mark behind a backslash belongs to the body. -/
theorem closeSpan_of_escaped (h : cut closing s = some (before, after))
    (he : escapes before = true) :
    closeSpan closing s =
      (closeSpan closing after).map fun (body, rest) =>
        (before.dropLast ++ closing ++ body, rest) := by
  rw [closeSpan]
  split
  · next hn => rw [h] at hn; cases hn
  · next piece after' hs =>
    rw [h] at hs
    obtain ⟨rfl, rfl⟩ := Prod.mk.inj (Option.some.inj hs)
    rw [dif_pos he]

theorem closeSpan_of_not_escaped (h : cut closing s = some (before, after))
    (he : escapes before = false) : closeSpan closing s = some (before, after) := by
  rw [closeSpan]
  split
  · next hn => rw [h] at hn; cases hn
  · next piece after' hs =>
    rw [h] at hs
    obtain ⟨rfl, rfl⟩ := Prod.mk.inj (Option.some.inj hs)
    rw [dif_neg (by simp [he])]

end

/-! ### What is written is read -/

section

variable {opening closing s t : List Char}

theorem escapes_of_append (h : escapes (s ++ t) = false) : escapes t = false := by
  by_cases ht : t = []
  · rw [ht]
    rfl
  · obtain ⟨front, last, rfl⟩ := (List.eq_nil_or_concat t).resolve_left ht
    simpa [escapes, ← List.append_assoc] using h

theorem escapes_backslash (s : List Char) : escapes (s ++ ['\\']) = true := by
  simp [escapes]

/-- **An escaped body is closed by the mark behind it**, whatever marks it holds. -/
theorem closeSpan_escape (hc : IsMark closing) {body rest : List Char}
    (hb : escapes body = false) :
    closeSpan closing (escape closing body ++ (closing ++ rest)) = some (body, rest) := by
  induction hn : body.length using Nat.strongRecOn generalizing body with
  | ind n ih =>
    cases hcut : cut closing body with
    | none =>
      rw [escape_of_cut_eq_none hcut, ← List.append_assoc]
      exact closeSpan_of_not_escaped (cut_append_mark hc hcut) hb
    | some parts =>
      obtain ⟨before, after⟩ := parts
      have hlength := length_of_cut hcut
      have hpos := List.length_pos_iff.mpr hc.ne_nil
      have hbody := eq_of_cut hcut
      have hafter : escapes after = false := escapes_of_append (s := before ++ closing) (hbody ▸ hb)
      rw [closeSpan_of_escaped (cut_escape_append hc hcut) (escapes_backslash before),
        ih after.length (by omega) hafter rfl, List.dropLast_concat, hbody]
      rfl

/-- An escaped text is read up to the end of its last mark, whatever stands behind it. -/
theorem read_escape (ho : IsMark opening) (closing text : List Char) :
    ∃ front tail, text = front ++ tail ∧ cut opening tail = none ∧
      ∀ t, readOf opening closing (escape opening text ++ t) =
        (readOf opening closing (tail ++ t)).prepend front := by
  induction hn : text.length using Nat.strongRecOn generalizing text with
  | ind n ih =>
    cases hcut : cut opening text with
    | none =>
      refine ⟨[], text, rfl, hcut, fun t => ?_⟩
      rw [escape_of_cut_eq_none hcut, prepend_nil]
    | some parts =>
      obtain ⟨before, after⟩ := parts
      have hlength := length_of_cut hcut
      have hpos := List.length_pos_iff.mpr ho.ne_nil
      obtain ⟨front, tail, hafter, htail, hread⟩ := ih after.length (by omega) after rfl
      refine ⟨before ++ opening ++ front, tail, ?_, htail, fun t => ?_⟩
      · rw [eq_of_cut hcut, hafter, List.append_assoc, List.append_assoc, List.append_assoc]
      · rw [read_of_escaped ho (cut_escape_append ho hcut) (escapes_backslash before), hread,
          List.dropLast_concat, prepend_prepend]

theorem read_escape_last (ho : IsMark opening) (text : List Char) :
    readOf opening closing (escape opening text) = .last text := by
  obtain ⟨front, tail, rfl, htail, hread⟩ := read_escape ho closing text
  have hnil := hread []
  rw [List.append_nil, List.append_nil] at hnil
  rw [hnil, read_of_cut_eq_none htail]
  rfl

theorem read_escape_next (ho : IsMark opening) {text after body rest : List Char}
    (ht : escapes text = false) (hclose : closeSpan closing after = some (body, rest)) :
    readOf opening closing (escape opening text ++ (opening ++ after)) =
      .next text body (readOf opening closing rest) := by
  obtain ⟨front, tail, rfl, htail, hread⟩ := read_escape ho closing text
  rw [hread, ← List.append_assoc,
    read_of_closed ho (cut_append_mark ho htail) (escapes_of_append ht) hclose]
  rfl

/-- **What is written is read**, as long as no text in front of a body and no body ends in a
backslash. -/
theorem read_writeOf (ho : IsMark opening) (hc : IsMark closing) {a : Alternation}
    (ha : a.Separated) : readOf opening closing (a.writeOf opening closing) = a := by
  induction a with
  | last text => exact read_escape_last ho text
  | next text body rest ih =>
    obtain ⟨ht, hb, hrest⟩ := ha
    rw [writeOf, List.append_assoc, List.append_assoc, List.append_assoc,
      read_escape_next ho ht (closeSpan_escape hc hb), ih hrest]

end

theorem isMark {d : Delimiters} (hd : d = .placeholder ∨ d = .interpolation) :
    IsMark d.opening.toList ∧ IsMark d.closing.toList := by
  rcases hd with rfl | rfl
  · exact ⟨⟨by decide, by decide, by rintro c ⟨⟩; decide⟩,
      ⟨by decide, by decide, by rintro c ⟨⟩; decide⟩⟩
  · exact ⟨⟨by decide, by decide, by rintro c ⟨⟩; decide⟩,
      ⟨by decide, by decide, by rintro c ⟨⟩; decide⟩⟩

end Delimiters

open Delimiters Text in
/-- **What is written with the marks of placeholders or of values is read again**: the same
texts and bodies, in the same order, so that each body is visited once and every way of
answering them fills the same places. -/
theorem Alternation.read_write {d : Delimiters} (hd : d = .placeholder ∨ d = .interpolation)
    {a : Alternation} (ha : a.Separated) :
    d.read (a.write d) = a ∧ d.bodies (a.write d) = a.bodies ∧
      ∀ {ε : Type} (answer : String → Except ε String),
        d.replace answer (a.write d) = a.fill answer := by
  obtain ⟨hopening, hclosing⟩ := isMark hd
  have hread : d.read (a.write d) = a := by
    have hof := read_writeOf hopening hclosing ha
    rw [readOf] at hof
    rw [Delimiters.read, pieces, write, String.toList_ofList, hof]
  refine ⟨hread, ?_, fun answer => ?_⟩
  · rw [bodies_eq, hread]
  · rw [replace_eq, hread]

/-- A span between texts that hold its marks, and any text with no span at all. -/
theorem Alternation.read_write_marks :
    let a := Alternation.next "x \\#\x7b".toList "a\x7d\\\x7d".toList (.last "#\x7by\\".toList)
    let text := "x \\\\#\x7b#\x7ba\\\x7d\\\\\x7d\x7d\\#\x7by\\"
    (a.Separated ∧ a.write .placeholder = text ∧
      Delimiters.placeholder.bodies text = ["a\x7d\\\x7d"] ∧
      Delimiters.placeholder.replace (fun body => .ok ("<" ++ body ++ ">")) text =
        (.ok "x \\#\x7b<a\x7d\\\x7d>#\x7by\\" : Except Unit String)) ∧
    ∀ any : List Char,
      Delimiters.interpolation.read ((Alternation.last any).write .interpolation) = .last any ∧
      Delimiters.interpolation.bodies ((Alternation.last any).write .interpolation) = [] := by
  intro a text
  have ha : a.Separated := ⟨by decide, by decide, trivial⟩
  have hwrite : a.write .placeholder = text := by decide +kernel
  have hread := Alternation.read_write (.inl rfl) ha
  rw [hwrite] at hread
  refine ⟨⟨ha, hwrite, hread.2.1.trans (by decide), ?_⟩, fun any => ?_⟩
  · rw [hread.2.2]
    rfl
  · have hlast := Alternation.read_write (a := .last any) (.inr rfl) trivial
    exact ⟨hlast.1, hlast.2.1⟩

end QueryTemplate
