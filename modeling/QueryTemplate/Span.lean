import QueryTemplate.Text.Cut

/-!
# Spans between delimiters

A text is read from left to right as literal pieces and spans `opening body
closing`.  A backslash before a delimiter takes its meaning away: the backslash
goes and the delimiter stays as text.  A span that is never closed is literal text
to the end.

`pieces` is that reading.  `replace` rebuilds the text with an answer in place of
each span, `bodies` lists what stands inside the spans, `holdsSpan` tells whether
there is one, and `visit` walks over the bodies.
-/

namespace QueryTemplate

/-- The two marks around a span. -/
structure Delimiters where
  opening : String
  closing : String
deriving DecidableEq, Repr

/-- A part of a text. -/
inductive Piece
  | literal (text : List Char)
  | span (body : List Char)
deriving DecidableEq, Repr

namespace Delimiters

/-- The marks around a value that is written into the text. -/
def interpolation : Delimiters := ⟨"$\x7b", "\x7d"⟩

/-- The marks around a value that is passed beside the text. -/
def placeholder : Delimiters := ⟨"#\x7b", "\x7d"⟩

def escapes (s : List Char) : Bool :=
  s.getLast? == some '\\'

/-- The body of a span up to its closing mark, and the text after the mark. -/
def closeSpan (closing s : List Char) : Option (List Char × List Char) :=
  match h : Text.cut closing s with
  | none => none
  | some (piece, after) =>
    if he : escapes piece then
      have : after.length < s.length := by
        have hl := Text.length_of_cut h
        have hp : piece ≠ [] := by
          rintro rfl; simp [escapes] at he
        have := List.length_pos_iff.2 hp
        omega
      (closeSpan closing after).map fun (body, rest) => (piece.dropLast ++ closing ++ body, rest)
    else some (piece, after)
termination_by s.length

/-- The text after a closed span is no longer than the text from its body on. -/
theorem length_of_closeSpan {closing s body rest : List Char}
    (h : closeSpan closing s = some (body, rest)) : rest.length + closing.length ≤ s.length := by
  fun_induction closeSpan closing s generalizing body with
  | case1 => simp at h
  | case2 s piece after hcut he hlt ih =>
    obtain ⟨⟨b, r⟩, hb, heq⟩ := Option.map_eq_some_iff.1 h
    simp only [Prod.mk.injEq] at heq
    obtain ⟨-, rfl⟩ := heq
    have := ih hb
    omega
  | case3 s piece after hcut he =>
    simp only [Option.some.injEq, Prod.mk.injEq] at h
    obtain ⟨-, rfl⟩ := h
    have := Text.length_of_cut hcut
    omega

/-- The literal pieces and the spans of a text.  Two empty marks delimit nothing. -/
def piecesOf (opening closing s : List Char) : List Piece :=
  match Text.cut opening s with
  | none => if s.isEmpty then [] else [.literal s]
  | some (before, after) =>
    if escapes before then
      if _hlt : after.length < s.length then
        .literal (before.dropLast ++ opening) :: piecesOf opening closing after
      else [.literal s]
    else
      match closeSpan closing after with
      | none => [.literal before, .literal (opening ++ after)]
      | some (body, rest) =>
        if _hlt : rest.length < s.length then
          .literal before :: .span body :: piecesOf opening closing rest
        else [.literal s]
termination_by s.length

/-- The literal pieces and the spans of a text. -/
def pieces (d : Delimiters) (text : String) : List Piece :=
  piecesOf d.opening.toList d.closing.toList text.toList

def bodies (d : Delimiters) (text : String) : List String :=
  (d.pieces text).filterMap fun
    | .literal _ => none
    | .span body => some (String.ofList body)

def holdsSpan (d : Delimiters) (text : String) : Bool :=
  (d.pieces text).any fun
    | .literal _ => false
    | .span _ => true

def visit {m : Type → Type} [Monad m] (d : Delimiters) (visitor : String → m Unit)
    (text : String) : m Unit :=
  (d.bodies text).forM visitor

/-- Puts the pieces together again, with an answer in place of each span. -/
def join {ε : Type} (answer : String → Except ε String) : List Piece → Except ε String
  | [] => .ok ""
  | .literal text :: rest => do
    let tail ← join answer rest
    return String.ofList text ++ tail
  | .span body :: rest => do
    let head ← answer (String.ofList body)
    let tail ← join answer rest
    return head ++ tail

/-- Replaces each span by the answer for its body; the first failing answer is the result. -/
def replace {ε : Type} (d : Delimiters) (answer : String → Except ε String) (text : String) :
    Except ε String :=
  join answer (d.pieces text)

end Delimiters

end QueryTemplate
