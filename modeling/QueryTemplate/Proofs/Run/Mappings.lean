import QueryTemplate.Proofs.Placeholder.Attributes
import QueryTemplate.Proofs.Run.Basic
import Mathlib.Data.List.Forall2

/-!
# The mappings of a run

A run adds one mapping for each placeholder that it meets, in order, and takes none
away (`Run.mappings`).  A mapping says what its placeholder says; its value is fixed
exactly when the scope of the placeholder is nested and has a say in it
(`Draft.capture_eq_ok_iff`).
-/

namespace QueryTemplate

open Outcome

/-! ### Placeholders and mappings -/

def Event.placeholder? : Event → Option (Scope × String)
  | .placeholder scope body => some (scope, body)
  | _ => none

/-- The placeholders that a run meets, in order. -/
def Log.placeholders (log : Log) : List (Scope × String) :=
  log.filterMap Event.placeholder?

@[simp] theorem Log.placeholders_append (log log' : Log) :
    (log ++ log').placeholders = log.placeholders ++ log'.placeholders :=
  List.filterMap_append

@[simp] theorem Log.placeholders_inlining (scope : Scope) (text : String) :
    (Log.inlining scope text).placeholders = [] := by
  simp [Log.inlining, placeholders, Event.placeholder?]

def Captured (c : Configuration) (place : Scope × String) (m : Mapping) : Prop :=
  ∃ parsed, Mapping.parse place.2 = .ok parsed ∧ Draft.capture c place.1 parsed = .ok m

theorem Draft.mappings_of_collect {c : Configuration} {scope : Scope} {pieces : List Piece}
    {mappings after : List Mapping} {sql : String}
    (h : Draft.collect c scope mappings pieces = .ok (after, sql)) :
    ∃ new, after = mappings ++ new ∧
      List.Forall₂ (Captured c) (Log.placeholders (pieces.map (Event.ofPiece scope))) new := by
  induction pieces generalizing mappings sql with
  | nil =>
    obtain ⟨rfl, -⟩ := Prod.mk.inj (Except.ok.inj h)
    exact ⟨[], by simp, .nil⟩
  | cons piece rest ih =>
    cases piece with
    | literal text =>
      obtain ⟨tail, htail, -⟩ := Draft.collect_literal_eq_ok_iff.mp h
      exact ih htail
    | span body =>
      obtain ⟨parsed, mapping, tail, hparsed, hmapping, htail, -⟩ :=
        Draft.collect_span_eq_ok_iff.mp h
      obtain ⟨new, rfl, hnew⟩ := ih htail
      exact ⟨mapping :: new, by simp, .cons ⟨parsed, hparsed, hmapping⟩ hnew⟩

theorem Draft.mappings_of_addStatic {c : Configuration} {text : String} {d d' : Draft}
    (h : d.addStatic c text = .ok d') :
    ∃ new, d'.mappings = d.mappings ++ new ∧
      List.Forall₂ (Captured c) (Log.reading d.scope text).placeholders new := by
  obtain ⟨mappings, sql, hc, rfl⟩ := Draft.addStatic_eq_ok_iff.mp h
  exact Draft.mappings_of_collect hc

/-- **A run adds one mapping for each placeholder that it meets**, in their order. -/
theorem Run.mappings {c : Configuration} {job : Job} {d d' : Draft} {log : Log}
    (h : Run c job d d' log) :
    ∃ new, d'.mappings = d.mappings ++ new ∧ List.Forall₂ (Captured c) log.placeholders new := by
  induction h with
  | static h => exact Draft.mappings_of_addStatic h
  | interpolated hw h =>
    rw [Log.placeholders_append, Log.placeholders_inlining, List.nil_append]
    exact Draft.mappings_of_addStatic h
  | condition h ih => exact ih
  | choice h ih => exact ih
  | otherwise h ih => exact ih
  | item h ih => exact ih
  | group h ih => exact ih
  | wrapped h ht ih => exact ih
  | dropped h ht ih => exact ih
  | forEach h ih => exact ih
  | list ht h ih => exact ih
  | listed ht hb h ih => exact ih
  | unlisted ht hb => exact ⟨[], by simp, .nil⟩
  | bind hv => exact ⟨[], by simp [Draft.bind], .nil⟩
  | sequence h ih => exact ih
  | empty => exact ⟨[], by simp, .nil⟩
  | nil => exact ⟨[], by simp, .nil⟩
  | cons h hr ih ihr =>
    obtain ⟨new, hnew, hcaptured⟩ := ih
    obtain ⟨new', hnew', hcaptured'⟩ := ihr
    refine ⟨new ++ new', by rw [hnew', hnew, List.append_assoc], ?_⟩
    rw [Log.placeholders_append]
    exact List.rel_append hcaptured hcaptured'
  | chosen hb h ih => exact ih
  | passed hb h ih => exact ih
  | defaulted h ih => exact ih
  | unchosen => exact ⟨[], by simp, .nil⟩
  | iterate he h ih => exact ih
  | idle he h => exact ⟨[], by simp, .nil⟩
  | done => exact ⟨[], by simp, .nil⟩
  | round h hr ih ihr =>
    obtain ⟨new, hnew, hcaptured⟩ := ih
    obtain ⟨new', hnew', hcaptured'⟩ := ihr
    refine ⟨new ++ new', ?_, ?_⟩
    · rw [hnew', Draft.resume, hnew, Loop.enter_mappings, List.append_assoc]
    · rw [Log.placeholders_append]
      exact List.rel_append hcaptured hcaptured'

theorem Run.mappings_isPrefix {c : Configuration} {job : Job} {d d' : Draft} {log : Log}
    (h : Run c job d d' log) : d.mappings <+: d'.mappings := by
  obtain ⟨new, hnew, -⟩ := h.mappings
  exact ⟨new, hnew.symm⟩

theorem Run.getElem?_of_placeholders {c : Configuration} {job : Job} {d d' : Draft} {log : Log}
    (h : Run c job d d' log) {i : Nat} {place : Scope × String}
    (hi : log.placeholders[i]? = some place) :
    ∃ m, d'.mappings[d.mappings.length + i]? = some m ∧ Captured c place m := by
  obtain ⟨new, hnew, hcaptured⟩ := h.mappings
  obtain ⟨hlength, hget⟩ := List.forall₂_iff_get.mp hcaptured
  obtain ⟨hlt, rfl⟩ := List.getElem?_eq_some_iff.mp hi
  have hnewlt : i < new.length := hlength ▸ hlt
  refine ⟨new[i], ?_, hget i hlt hnewlt⟩
  rw [hnew, List.getElem?_append_right (Nat.le_add_right _ _), Nat.add_sub_cancel_left]
  exact List.getElem?_eq_getElem _

/-- The mapping of a placeholder stands behind those of the placeholders before it. -/
theorem Run.getElem?_mappings {c : Configuration} {job : Job} {d d' : Draft} {log : Log}
    (h : Run c job d d' log) {before after : Log} {s : Scope} {body : String}
    (hlog : log = before ++ .placeholder s body :: after) :
    ∃ m, d'.mappings[d.mappings.length + before.placeholders.length]? = some m ∧
      Captured c (s, body) m := by
  refine h.getElem?_of_placeholders ?_
  rw [hlog, Log.placeholders_append, List.getElem?_append_right (Nat.le_refl _), Nat.sub_self]
  rfl

end QueryTemplate
