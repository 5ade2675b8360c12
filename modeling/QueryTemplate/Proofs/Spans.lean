import Mathlib
import QueryTemplate.Draft
import QueryTemplate.Proofs.Alternation
import QueryTemplate.Proofs.Escapes

/-!
# Scanning a text for spans

A scan goes through a text from left to right.  It looks for the first opening mark, and where no
backslash stands in front of it, for the first closing mark behind it that has no backslash in
front of it.  `Delimiters.Scans` says this with one rule for each turn of the scan, in terms of
what was read before and what is still to be read.

* `Text.cut_eq_some_iff`, `Delimiters.closeSpan_eq_some_iff`: where the marks are found.
* `Delimiters.scans_iff`: every text has one scan, and it gives the pieces of the text.
* `Delimiters.discard_replaceM`: replacing the spans and visiting them have the same effects.
* `Delimiters.collect_eq_replaceM`: so does reading the placeholders of a text.
* `Delimiters.replace_eq_error_iff`: which body makes a replacement fail.
* `Delimiters.replace_self`: a text without backslashes is put together again.
* `Delimiters.uses_agree`: what the uses of a text have in common.
-/

namespace QueryTemplate

/-! ### The first place of a token -/

namespace Text

structure FirstAt (token s before after : List Char) : Prop where
  split : s = before ++ token ++ after
  least : ∀ b a, s = b ++ token ++ a → before.length ≤ b.length

section

variable {token s before after : List Char}

theorem FirstAt.unique {before' after' : List Char} (h : FirstAt token s before after)
    (h' : FirstAt token s before' after') : before = before' ∧ after = after' := by
  have hlength : before.length = before'.length :=
    Nat.le_antisymm (h.least _ _ h'.split) (h'.least _ _ h.split)
  have hsplit := h.split.symm.trans h'.split
  rw [List.append_assoc, List.append_assoc] at hsplit
  obtain ⟨hbefore, hrest⟩ := List.append_inj hsplit hlength
  exact ⟨hbefore, List.append_cancel_left hrest⟩

theorem firstAt_of_cut (h : cut token s = some (before, after)) :
    FirstAt token s before after := by
  refine ⟨eq_of_cut h, ?_⟩
  induction s generalizing before with
  | nil =>
    intro b a hs
    have hbefore := congrArg List.length (eq_of_cut h)
    simp only [List.length_append, List.length_nil] at hbefore
    omega
  | cons c rest ih =>
    intro b a hs
    by_cases hc : token.isPrefixOf (c :: rest) = true
    · rw [cut, if_pos hc] at h
      obtain ⟨rfl, -⟩ := Prod.mk.inj (Option.some.inj h)
      exact Nat.zero_le _
    · rw [cut, if_neg hc] at h
      obtain ⟨⟨front, after'⟩, hcut, heq⟩ := Option.map_eq_some_iff.mp h
      obtain ⟨rfl, rfl⟩ := Prod.mk.inj heq
      cases b with
      | nil =>
        -- the token would stand at the front
        exact absurd (List.isPrefixOf_iff_prefix.mpr ⟨a, by simpa using hs.symm⟩) hc
      | cons d b =>
        obtain ⟨-, hrest⟩ := List.cons.inj hs
        exact Nat.succ_le_succ (ih hcut b a hrest)

/-- **Cutting a text at a token** finds its first place. -/
theorem cut_eq_some_iff : cut token s = some (before, after) ↔ FirstAt token s before after := by
  refine ⟨firstAt_of_cut, fun h => ?_⟩
  cases hcut : cut token s with
  | none => exact absurd h.split (cut_eq_none_iff.mp hcut before after)
  | some found =>
    obtain ⟨hbefore, hafter⟩ := (firstAt_of_cut hcut).unique h
    rw [← hbefore, ← hafter]

theorem cut_eq_none_iff_nowhere : cut token s = none ↔ ¬ token <:+: s := by
  rw [cut_eq_none_iff]
  constructor
  · rintro h ⟨before, after, hs⟩
    exact h before after hs.symm
  · intro h before after hs
    exact h ⟨before, after, hs.symm⟩

end

end Text

namespace Delimiters

open Text

/-! ### The end of a span -/

section

variable {closing s body rest : List Char}

/-- The text behind an opening mark begins with the body of a span and its closing mark, and
`rest` stands behind them.  A closing mark behind a backslash belongs to the body, without the
backslash. -/
inductive Closes (closing : List Char) : List Char → List Char → List Char → Prop
  | here {s piece rest} (h : FirstAt closing s piece rest) (he : escapes piece = false) :
      Closes closing s piece rest
  | escaped {s piece after body rest} (h : FirstAt closing s piece after)
      (he : escapes piece = true) (hmore : Closes closing after body rest) :
      Closes closing s (piece.dropLast ++ closing ++ body) rest

theorem closes_of_closeSpan (h : closeSpan closing s = some (body, rest)) :
    Closes closing s body rest := by
  fun_induction closeSpan closing s generalizing body with
  | case1 => cases h
  | case2 s piece after hcut he hlt ih =>
    obtain ⟨⟨b, r⟩, hb, heq⟩ := Option.map_eq_some_iff.mp h
    obtain ⟨rfl, rfl⟩ := Prod.mk.inj heq
    exact .escaped (firstAt_of_cut hcut) he (ih hb)
  | case3 s piece after hcut he =>
    obtain ⟨rfl, rfl⟩ := Prod.mk.inj (Option.some.inj h)
    exact .here (firstAt_of_cut hcut) (Bool.not_eq_true _ ▸ he)

/-- **The body of a span** ends at the first closing mark that has no backslash in front of it. -/
theorem closeSpan_eq_some_iff :
    closeSpan closing s = some (body, rest) ↔ Closes closing s body rest := by
  refine ⟨closes_of_closeSpan, fun h => ?_⟩
  induction h with
  | here h he => exact closeSpan_of_not_escaped (cut_eq_some_iff.mpr h) he
  | escaped h he hmore ih =>
    rw [closeSpan_of_escaped (cut_eq_some_iff.mpr h) he, ih]
    rfl

theorem closeSpan_eq_none_iff :
    closeSpan closing s = none ↔ ∀ body rest, ¬ Closes closing s body rest := by
  constructor
  · intro h body rest hcloses
    rw [closeSpan_eq_some_iff.mpr hcloses] at h
    cases h
  · intro h
    cases hclose : closeSpan closing s with
    | none => rfl
    | some found => exact absurd (closes_of_closeSpan hclose) (h _ _)

theorem Closes.exists_eq_append (h : Closes closing s body rest) :
    ∃ front, s = front ++ closing ++ rest := by
  induction h with
  | here h he => exact ⟨_, h.split⟩
  | @escaped s piece after body rest h he hmore ih =>
    obtain ⟨front, hfront⟩ := ih
    refine ⟨piece ++ closing ++ front, ?_⟩
    rw [h.split, hfront]
    simp only [List.append_assoc]

end

/-! ### The scan -/

/-- A mark that can be looked for: it is not empty and does not end in a backslash. -/
structure Usable (mark : String) : Prop where
  ne_nil : mark.toList ≠ []
  noEscape : escapes mark.toList = false

/-- The scan of the text `past ++ s` from the point on where `past` was read. -/
inductive Scans (opening closing : List Char) : List Char → List Char → List Piece → Prop
  | done {past s} (h : ¬ opening <:+: s) :
      Scans opening closing past s (if s.isEmpty then [] else [.literal s])
  | escaped {past s before after ps} (h : FirstAt opening s before after)
      (he : escapes (past ++ before) = true)
      (hmore : Scans opening closing (past ++ before ++ opening) after ps) :
      Scans opening closing past s (.literal (before.dropLast ++ opening) :: ps)
  | unclosed {past s before after} (h : FirstAt opening s before after)
      (he : escapes (past ++ before) = false)
      (hclose : ∀ body rest, ¬ Closes closing after body rest) :
      Scans opening closing past s [.literal before, .literal (opening ++ after)]
  | span {past s before after body read rest ps} (h : FirstAt opening s before after)
      (he : escapes (past ++ before) = false) (hclose : Closes closing after body rest)
      (hread : after = read ++ rest)
      (hmore : Scans opening closing (past ++ before ++ opening ++ read) rest ps) :
      Scans opening closing past s (.literal before :: .span body :: ps)

section

variable {opening closing past s before after body rest : List Char}

theorem escapes_append_of_ne_nil (h : s ≠ []) : escapes (past ++ s) = escapes s := by
  rw [escapes, escapes, List.getLast?_append_of_ne_nil _ h]

/-- What was read before does not escape a mark unless it ends in a backslash. -/
theorem escapes_append (hpast : escapes past = false) : escapes (past ++ s) = escapes s := by
  by_cases hs : s = []
  · rw [hs, List.append_nil, hpast]
    rfl
  · exact escapes_append_of_ne_nil hs

theorem Usable.escapes_append {mark : String} (h : Usable mark) (past : List Char) :
    escapes (past ++ mark.toList) = false := by
  rw [escapes_append_of_ne_nil h.ne_nil, h.noEscape]

/-- Every text has a scan: each turn leaves less of it to be read. -/
theorem scans_piecesOf {d : Delimiters} (ho : Usable d.opening) (hc : Usable d.closing)
    (hpast : escapes past = false) : Scans d.opening.toList d.closing.toList past s
      (piecesOf d.opening.toList d.closing.toList s) := by
  induction hn : s.length using Nat.strong_induction_on generalizing s past with
  | _ n ih =>
    subst hn
    cases hcut : cut d.opening.toList s with
    | none =>
      rw [piecesOf_of_cut_eq_none hcut]
      exact .done (cut_eq_none_iff_nowhere.mp hcut)
    | some found =>
      obtain ⟨before, after⟩ := found
      have hfirst := firstAt_of_cut hcut
      have hlength := length_of_cut hcut
      have hpos := List.length_pos_iff.mpr ho.ne_nil
      have hescapes := escapes_append (s := before) hpast
      cases he : escapes before with
      | true =>
        rw [piecesOf_of_escaped ho.ne_nil hcut he]
        exact .escaped hfirst (hescapes.trans he) (ih _ (by omega) (ho.escapes_append _) rfl)
      | false =>
        cases hspan : closeSpan d.closing.toList after with
        | none =>
          rw [piecesOf_of_unclosed hcut he hspan]
          exact .unclosed hfirst (hescapes.trans he) (closeSpan_eq_none_iff.mp hspan)
        | some found =>
          obtain ⟨body, rest⟩ := found
          have hclose := closes_of_closeSpan hspan
          have hrest := length_of_closeSpan hspan
          obtain ⟨front, hfront⟩ := hclose.exists_eq_append
          have hclosed :
              escapes (past ++ before ++ d.opening.toList ++ (front ++ d.closing.toList)) =
                false := by
            rw [← List.append_assoc, hc.escapes_append]
          rw [piecesOf_of_closed ho.ne_nil hcut he hspan]
          exact .span hfirst (hescapes.trans he) hclose hfront (ih _ (by omega) hclosed rfl)

theorem Scans.eq_piecesOf {d : Delimiters} (ho : Usable d.opening) (hc : Usable d.closing)
    (hpast : escapes past = false) {ps : List Piece}
    (h : Scans d.opening.toList d.closing.toList past s ps) :
    ps = piecesOf d.opening.toList d.closing.toList s := by
  induction h with
  | done h => rw [piecesOf_of_cut_eq_none (cut_eq_none_iff_nowhere.mpr h)]
  | escaped h he hmore ih =>
    rw [escapes_append hpast] at he
    rw [piecesOf_of_escaped ho.ne_nil (cut_eq_some_iff.mpr h) he, ih (ho.escapes_append _)]
  | unclosed h he hclose =>
    rw [escapes_append hpast] at he
    rw [piecesOf_of_unclosed (cut_eq_some_iff.mpr h) he (closeSpan_eq_none_iff.mpr hclose)]
  | span h he hclose hread hmore ih =>
    rw [escapes_append hpast] at he
    obtain ⟨front, hfront⟩ := hclose.exists_eq_append
    obtain rfl := List.append_cancel_right (hread.symm.trans hfront)
    rw [piecesOf_of_closed ho.ne_nil (cut_eq_some_iff.mpr h) he (closeSpan_eq_some_iff.mpr hclose),
      ih (by rw [← List.append_assoc, hc.escapes_append])]

end

/-- **Every text has one scan, and it gives the pieces of the text.** -/
theorem scans_iff {d : Delimiters} (ho : Usable d.opening) (hc : Usable d.closing) {text : String}
    {ps : List Piece} :
    Scans d.opening.toList d.closing.toList [] text.toList ps ↔ ps = d.pieces text := by
  constructor
  · exact fun h => h.eq_piecesOf ho hc rfl
  · rintro rfl
    exact scans_piecesOf ho hc rfl

/-! ### Answers with effects -/

section

variable {m : Type → Type} [Monad m]

def joinM (answer : String → m String) : List Piece → m String
  | [] => pure ""
  | .literal text :: rest => do
    let tail ← joinM answer rest
    return String.ofList text ++ tail
  | .span body :: rest => do
    let head ← answer (String.ofList body)
    let tail ← joinM answer rest
    return head ++ tail

/-- Replaces each span by the answer for its body, from left to right. -/
def replaceM (d : Delimiters) (answer : String → m String) (text : String) : m String :=
  joinM answer (d.pieces text)

def bodiesOf (ps : List Piece) : List String :=
  ps.filterMap fun
    | .literal _ => none
    | .span body => some (String.ofList body)

/-- **Replacing the spans of a text and visiting them have the same effects**: the answers are
asked for the same bodies in the same order. -/
theorem discard_replaceM [LawfulMonad m] (d : Delimiters) (answer : String → m String)
    (text : String) :
    (fun _ => ()) <$> d.replaceM answer text =
      d.visit (fun body => (fun _ => ()) <$> answer body) text := by
  show (fun _ => ()) <$> joinM answer (d.pieces text) = (bodiesOf (d.pieces text)).forM _
  induction d.pieces text with
  | nil => simp [joinM, bodiesOf]
  | cons piece rest ih =>
    cases piece with
    | literal t =>
      show _ = (bodiesOf rest).forM _
      rw [← ih, joinM]
      simp
    | span body =>
      show _ = (do
        (fun _ => ()) <$> answer (String.ofList body)
        (bodiesOf rest).forM _)
      rw [← ih, joinM]
      simp

end

theorem replaceM_eq_replace {ε : Type} (d : Delimiters) (answer : String → Except ε String)
    (text : String) : d.replaceM answer text = d.replace answer text := by
  show joinM answer (d.pieces text) = join answer (d.pieces text)
  induction d.pieces text with
  | nil => rfl
  | cons piece rest ih =>
    cases piece with
    | literal t => rw [joinM, ih, join]
    | span body => rw [joinM, ih, join]

def answerPlaceholder (c : Configuration) (scope : Scope) (body : String) :
    StateT (List Mapping) (Except Error) String :=
  fun mappings => do
    let parsed ← Mapping.parse body
    let mapping ← Draft.capture c scope parsed
    return (c.marker (mappings.length + 1), mappings ++ [mapping])

/-- Reading the placeholders of a text replaces its spans. -/
theorem collect_eq_replaceM (c : Configuration) (scope : Scope) (mappings : List Mapping)
    (text : String) : Draft.collect c scope mappings (placeholder.pieces text) =
      Prod.swap <$> (placeholder.replaceM (answerPlaceholder c scope) text).run mappings := by
  show _ = Prod.swap <$> (joinM (answerPlaceholder c scope) (placeholder.pieces text)).run mappings
  induction placeholder.pieces text generalizing mappings with
  | nil => rfl
  | cons piece rest ih =>
    cases piece with
    | literal t =>
      rw [Draft.collect, joinM, ih, StateT.run_bind]
      cases (joinM (answerPlaceholder c scope) rest).run mappings with
      | error e => rfl
      | ok tail => rfl
    | span body =>
      rw [Draft.collect, joinM, StateT.run_bind]
      show _ = Prod.swap <$> (answerPlaceholder c scope (String.ofList body) mappings >>= _)
      rw [answerPlaceholder]
      cases Mapping.parse (String.ofList body) with
      | error e => rfl
      | ok parsed =>
        show (Draft.capture c scope parsed >>= _) =
          Prod.swap <$> ((Draft.capture c scope parsed >>= _) >>= _)
        cases Draft.capture c scope parsed with
        | error e => rfl
        | ok mapping =>
          show (Draft.collect c scope (mappings ++ [mapping]) rest >>= _) =
            Prod.swap <$>
              ((joinM (answerPlaceholder c scope) rest).run (mappings ++ [mapping]) >>= _)
          rw [ih]
          cases (joinM (answerPlaceholder c scope) rest).run (mappings ++ [mapping]) with
          | error e => rfl
          | ok tail => rfl

/-! ### Failing answers -/

/-- A replacement fails at the first body whose answer fails, and with its error. -/
theorem replace_eq_error_iff {ε : Type} {d : Delimiters} {answer : String → Except ε String}
    {text : String} {e : ε} : d.replace answer text = .error e ↔
      ∃ before body after, d.bodies text = before ++ body :: after ∧
        (∀ b ∈ before, ∃ t, answer b = .ok t) ∧ answer body = .error e := by
  have hvisit : d.replace answer text = .error e ↔
      (d.bodies text).forM (fun body => (fun _ => ()) <$> answer body) = .error e := by
    show _ ↔ d.visit _ text = _
    rw [← discard_replaceM, replaceM_eq_replace]
    exact Outcome.map_eq_error_iff.symm
  have hanswer : ∀ body, (fun _ => ()) <$> answer body = .ok () ↔ ∃ t, answer body = .ok t := by
    intro body
    refine Outcome.map_eq_ok_iff.trans ?_
    simp
  rw [hvisit, Outcome.forM_eq_error_iff]
  simp only [hanswer]
  have herror : ∀ body, (fun _ => ()) <$> answer body = .error e ↔ answer body = .error e :=
    fun body => Outcome.map_eq_error_iff
  simp only [herror]

theorem holdsSpan_iff {d : Delimiters} {text : String} :
    d.holdsSpan text = true ↔ d.bodies text ≠ [] := by
  show (d.pieces text).any _ = true ↔ bodiesOf (d.pieces text) ≠ []
  induction d.pieces text with
  | nil => simp [bodiesOf]
  | cons piece rest ih =>
    cases piece with
    | literal t => simpa [bodiesOf] using ih
    | span body => simp [bodiesOf]

def visited (d : Delimiters) (text : String) : List String :=
  ((d.visit (fun body => modify (· ++ [body])) text : StateM (List String) Unit).run []).2

theorem visited_eq_bodies (d : Delimiters) (text : String) : d.visited text = d.bodies text := by
  have hlog : ∀ (bodies log : List String), (((bodies.forM fun body => modify (· ++ [body])) :
      StateM (List String) Unit).run log).2 = log ++ bodies := by
    intro bodies
    induction bodies with
    | nil => exact fun log => (List.append_nil log).symm
    | cons body rest ih =>
      intro log
      rw [List.append_cons]
      exact ih (log ++ [body])
  exact hlog (d.bodies text) []

/-! ### Texts without backslashes -/

section

variable {opening closing past s body rest : List Char} {ps : List Piece}

theorem escapes_of_not_mem (h : '\\' ∉ s) : escapes s = false := by
  rw [escapes, beq_eq_false_iff_ne]
  intro hlast
  exact h (List.mem_of_getLast? hlast)

theorem Closes.eq_append (h : Closes closing s body rest) (hs : '\\' ∉ s) :
    s = body ++ closing ++ rest := by
  cases h with
  | here h he => exact h.split
  | @escaped _ piece after _ _ h he hmore =>
    have hpiece : '\\' ∉ piece := fun hm => hs (by rw [h.split]; simp [hm])
    rw [escapes_of_not_mem hpiece] at he
    cases he

theorem Scans.join_eq {ε : Type} (h : Scans opening closing past s ps) (hs : '\\' ∉ past ++ s) :
    join (fun body => .ok (String.ofList opening ++ body ++ String.ofList closing)) ps =
      (.ok (String.ofList s) : Except ε String) := by
  induction h with
  | @done past s h =>
    cases s with
    | nil => rfl
    | cons c rest =>
      rw [List.isEmpty_cons, if_neg Bool.false_ne_true, join_literal join_nil, List.append_nil]
  | @escaped past s before after ps h he hmore ih =>
    rw [h.split, List.append_assoc, ← List.append_assoc] at hs
    rw [escapes_of_not_mem fun hm => hs (List.mem_append_left _ hm)] at he
    cases he
  | unclosed h he hclose =>
    rw [join_literal (join_literal join_nil), h.split]
    simp
  | @span past s before after body read rest ps h he hclose hread hmore ih =>
    have hafter : '\\' ∉ after := by
      intro hm
      refine hs (List.mem_append_right _ ?_)
      rw [h.split]
      exact List.mem_append_right _ hm
    have hbody := hclose.eq_append hafter
    have hrest : '\\' ∉ past ++ before ++ opening ++ read ++ rest := by
      rwa [List.append_assoc, ← hread, List.append_assoc past, List.append_assoc past, ← h.split]
    have hspan : join (fun body => .ok (String.ofList opening ++ body ++ String.ofList closing))
        (.span body :: ps) =
          (.ok (String.ofList (opening ++ body ++ closing ++ rest)) : Except ε String) := by
      rw [join, ih hrest, String.ofList_append, String.ofList_append, String.ofList_append]
      rfl
    rw [join_literal hspan, h.split, hbody]
    simp only [List.append_assoc]

end

/-- **A text without backslashes is put together again** when each body is answered by itself
between its marks. -/
theorem replace_self {ε : Type} {d : Delimiters} (ho : Usable d.opening) (hc : Usable d.closing)
    {text : String} (h : '\\' ∉ text.toList) :
    d.replace (fun body => .ok (d.opening ++ body ++ d.closing)) text =
      (.ok text : Except ε String) := by
  have hscan := (scans_iff ho hc).mpr (rfl : d.pieces text = d.pieces text)
  have hjoin : _ = (_ : Except ε String) := hscan.join_eq h
  rw [String.ofList_toList, String.ofList_toList, String.ofList_toList] at hjoin
  exact hjoin

/-! ### The uses of a text -/

/-- **The uses of a text agree.**  Its one scan gives its pieces.  It holds a span exactly when a
visitor sees a body.  Replacing its spans, with effects or without, asks for the answers of the
bodies that a visitor sees in their order, and fails exactly when one of the answers fails, with
the error of the first that does.  A text without backslashes is put together again. -/
theorem uses_agree {d : Delimiters} (ho : Usable d.opening) (hc : Usable d.closing)
    (text : String) :
    (∀ ps, Scans d.opening.toList d.closing.toList [] text.toList ps ↔ ps = d.pieces text) ∧
      (d.holdsSpan text = true ↔ d.visited text ≠ []) ∧
      (∀ (m : Type → Type) [Monad m] [LawfulMonad m] (answer : String → m String),
        (fun _ => ()) <$> d.replaceM answer text =
          d.visit (fun body => (fun _ => ()) <$> answer body) text) ∧
      (∀ (ε : Type) (answer : String → Except ε String),
        d.replaceM answer text = d.replace answer text ∧
          ∀ e, d.replace answer text = .error e ↔
            ∃ before body after, d.visited text = before ++ body :: after ∧
              (∀ b ∈ before, ∃ t, answer b = .ok t) ∧ answer body = .error e) ∧
      ('\\' ∉ text.toList → ∀ ε : Type,
        d.replace (fun body => .ok (d.opening ++ body ++ d.closing)) text =
          (.ok text : Except ε String)) := by
  refine ⟨fun ps => scans_iff ho hc, ?_, fun m _ _ answer => discard_replaceM d answer text,
    fun ε answer => ⟨replaceM_eq_replace d answer text, fun e => ?_⟩,
    fun h ε => replace_self ho hc h⟩
  · rw [visited_eq_bodies, holdsSpan_iff]
  · rw [visited_eq_bodies]
    exact replace_eq_error_iff

/-- Two equal marks that overlap themselves: the first one opens a span, whose body begins like a
mark, and the last one opens a span that is never closed. -/
theorem uses_agree_overlapping :
    Usable "aa" ∧ '\\' ∉ "aaa|aaaa".toList ∧
      visited ⟨"aa", "aa"⟩ "aaa|aaaa" = ["a|"] ∧ holdsSpan ⟨"aa", "aa"⟩ "aaa|aaaa" = true ∧
      replace ⟨"aa", "aa"⟩ (fun body => .error body) "aaa|aaaa" = .error "a|" ∧
      replace ⟨"aa", "aa"⟩ (fun body => .ok ("aa" ++ body ++ "aa")) "aaa|aaaa" =
        (.ok "aaa|aaaa" : Except String String) := by
  have hmark : Usable "aa" := ⟨by decide, by decide⟩
  have htext : '\\' ∉ "aaa|aaaa".toList := by decide
  have hbodies : visited ⟨"aa", "aa"⟩ "aaa|aaaa" = ["a|"] := by
    rw [visited_eq_bodies]
    decide +kernel
  obtain ⟨-, hholds, -, hanswers, hself⟩ :=
    @uses_agree ⟨"aa", "aa"⟩ hmark hmark "aaa|aaaa"
  refine ⟨hmark, htext, hbodies, ?_, ?_, hself htext String⟩
  · rw [hholds, hbodies]
    exact List.cons_ne_nil _ _
  · rw [(hanswers String _).2, hbodies]
    exact ⟨[], "a|", [], rfl, by simp, rfl⟩

end Delimiters

end QueryTemplate
