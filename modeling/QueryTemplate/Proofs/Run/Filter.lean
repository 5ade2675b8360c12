import Mathlib
import QueryTemplate.Proofs.Run.Basic

/-!
# The filter of a run

A filter looks at the values that are written into texts, and at nothing else.  So what
composing comes to under a filter is told by the log of the run without one: the events
are checked in order, and the run goes on as long as they pass (`Log.guard`).

* `Run.unfiltered`: a run under a filter is one without a filter.
* `Run.ends_of_guard`: under a filter, the job ends as the guard of its log does.
* `Node.render_filter`: composing a template with a filter and without one.
-/

namespace QueryTemplate

open Outcome

def Configuration.withFilter (c : Configuration) (filter : Option Filter) : Configuration :=
  { c with filter }

theorem Configuration.check_eq_ok_iff {c : Configuration} {f : Filter} {text : String} :
    (c.withFilter (some f)).check text = .ok () ↔ f.accepts text = true := by
  simp [withFilter, check]

theorem Configuration.check_eq_error_iff {c : Configuration} {f : Filter} {text : String}
    {e : Error} :
    (c.withFilter (some f)).check text = .error e ↔
      f.accepts text = false ∧ e = .rejected text f.pattern := by
  rw [check]
  show (if f.accepts text then _ else _) = _ ↔ _
  cases f.accepts text with
  | true => simp
  | false => simp [eq_comm]

/-! ### Texts -/

/-- When the answers that put a text together come through a check, the text does too. -/
theorem Delimiters.replace_of_check {ε : Type} {d : Delimiters}
    {answer checked : String → Except ε String} {check : String → Except ε Unit}
    (hchecked : ∀ body text, answer body = .ok text → checked body = (check body).map fun _ => text)
    {text written : String} (h : d.replace answer text = .ok written) :
    d.replace checked text = ((d.bodies text).forM check).map fun _ => written := by
  rw [replace] at h
  rw [replace, bodies]
  generalize d.pieces text = pieces at *
  induction pieces generalizing written with
  | nil =>
    obtain rfl := Except.ok.inj h
    rfl
  | cons piece rest ih =>
    cases piece with
    | literal t =>
      obtain ⟨tail, htail, h⟩ := bind_eq_ok_iff.mp h
      obtain rfl := pure_eq_ok_iff.mp h
      rw [join, ih htail, List.filterMap_cons_none rfl]
      cases List.forM _ check <;> rfl
    | span body =>
      obtain ⟨head, hhead, h⟩ := bind_eq_ok_iff.mp h
      obtain ⟨tail, htail, h⟩ := bind_eq_ok_iff.mp h
      obtain rfl := pure_eq_ok_iff.mp h
      rw [join, hchecked _ _ hhead, ih htail, List.filterMap_cons]
      show _ = (check (String.ofList body) >>= fun _ => List.forM _ check).map _
      cases check (String.ofList body) with
      | error e => rfl
      | ok _ => cases List.forM _ check <;> rfl

namespace Draft

variable {c : Configuration} {filter : Option Filter} {scope : Scope} {expression text : String}

theorem collect_withFilter (mappings : List Mapping) (pieces : List Piece) :
    collect (c.withFilter filter) scope mappings pieces = collect c scope mappings pieces := by
  induction pieces generalizing mappings with
  | nil => rfl
  | cons piece rest ih =>
    cases piece with
    | literal text => simp only [collect, ih]
    | span body =>
      simp only [collect, ih]
      rfl

@[simp] theorem addStatic_withFilter (d : Draft) :
    d.addStatic (c.withFilter filter) text = d.addStatic c text := by
  simp only [addStatic, collect_withFilter]

theorem inlined_of_value {value : Value}
    (hvalue : c.evaluator.value expression scope.lookup = .ok value) :
    inlined c scope expression = (c.check value.toText).map fun _ => value.toText := by
  rw [inlined, hvalue]
  show (c.check value.toText >>= fun _ => pure value.toText) = _
  cases c.check value.toText <;> rfl

theorem inlined_eq_ok_iff :
    inlined c scope expression = .ok text ↔
      ∃ value, c.evaluator.value expression scope.lookup = .ok value ∧
        c.check value.toText = .ok () ∧ text = value.toText := by
  constructor
  · intro h
    obtain ⟨value, hvalue, -⟩ := bind_eq_ok_iff.mp h
    rw [mapError_eq_ok_iff] at hvalue
    rw [inlined_of_value hvalue] at h
    obtain ⟨⟨⟩, hcheck, rfl⟩ := map_eq_ok_iff.mp h
    exact ⟨value, hvalue, hcheck, rfl⟩
  · rintro ⟨value, hvalue, hcheck, rfl⟩
    rw [inlined_of_value hvalue, hcheck]
    rfl

theorem inlined_of_filter (h : inlined (c.withFilter filter) scope expression = .ok text) :
    inlined (c.withFilter none) scope expression = .ok text := by
  obtain ⟨value, hvalue, -, rfl⟩ := inlined_eq_ok_iff.mp h
  exact inlined_eq_ok_iff.mpr ⟨value, hvalue, rfl, rfl⟩

end Draft

/-! ### Logs under a filter -/

/-- The check that the composer makes for an event. -/
def Event.guard (c : Configuration) : Event → Except Error Unit
  | .inlined scope expression => (Draft.inlined c scope expression).map fun _ => ()
  | _ => .ok ()

namespace Log

def guard (c : Configuration) (log : Log) : Except Error Unit :=
  log.forM (Event.guard c)

/-- The filter accepts each value that is written into a text. -/
def Passes (e : Evaluator) (f : Filter) (log : Log) : Prop :=
  ∀ scope expression, .inlined scope expression ∈ log →
    ∃ value, e.value expression scope.lookup = .ok value ∧ f.accepts value.toText = true

/-- The error names the first value of the log that the filter does not accept. -/
def Rejects (e : Evaluator) (f : Filter) (log : Log) (error : Error) : Prop :=
  ∃ before scope expression after value,
    log = before ++ .inlined scope expression :: after ∧ Passes e f before ∧
      e.value expression scope.lookup = .ok value ∧ f.accepts value.toText = false ∧
      error = .rejected value.toText f.pattern

variable {c : Configuration}

theorem guard_append (log log' : Log) :
    guard c (log ++ log') = guard c log >>= fun _ => guard c log' :=
  List.forM_append

theorem guard_reading (scope : Scope) (text : String) : guard c (reading scope text) = .ok () := by
  refine forM_eq_ok_iff.mpr fun event hevent => ?_
  obtain ⟨piece, -, rfl⟩ := List.mem_map.mp hevent
  cases piece <;> rfl

@[simp] theorem guard_counted (entries : Nat) (log : Log) :
    guard c (.counted entries :: log) = guard c log := rfl

theorem guard_inlining (scope : Scope) (text : String) :
    guard c (inlining scope text) = (Delimiters.interpolation.bodies text).forM fun expression =>
      Event.guard c (.inlined scope expression) :=
  List.forM_map

theorem passes_of_guard {f : Filter} {log : Log}
    (h : guard (c.withFilter (some f)) log = .ok ()) : log.Passes c.evaluator f := by
  intro scope expression hmem
  obtain ⟨text, hinlined, -⟩ := map_eq_ok_iff.mp (forM_eq_ok_iff.mp h _ hmem)
  obtain ⟨value, hvalue, hcheck, -⟩ := Draft.inlined_eq_ok_iff.mp hinlined
  exact ⟨value, hvalue, Configuration.check_eq_ok_iff.mp hcheck⟩

/-- When a check fails for values that can be written, the filter does not accept one. -/
theorem rejects_of_guard {f : Filter} {log : Log} {e : Error}
    (hopen : guard (c.withFilter none) log = .ok ())
    (h : guard (c.withFilter (some f)) log = .error e) : log.Rejects c.evaluator f e := by
  obtain ⟨before, event, after, rfl, hbefore, hevent⟩ := exists_of_forM_eq_error h
  have hcan := forM_eq_ok_iff.mp hopen event (by simp)
  cases event with
  | inlined scope expression =>
    obtain ⟨text, hinlined, -⟩ := map_eq_ok_iff.mp hcan
    obtain ⟨value, hvalue, -, -⟩ := Draft.inlined_eq_ok_iff.mp hinlined
    have hchecked : Draft.inlined (c.withFilter (some f)) scope expression = _ :=
      Draft.inlined_of_value hvalue
    rw [Event.guard, map_eq_error_iff, hchecked, map_eq_error_iff] at hevent
    obtain ⟨haccepts, rfl⟩ := Configuration.check_eq_error_iff.mp hevent
    exact ⟨before, scope, expression, after, value, rfl, passes_of_guard hbefore, hvalue,
      haccepts, rfl⟩
  | copied text => cases hevent
  | placeholder scope body => cases hevent
  | tested answer => cases hevent
  | counted entries => cases hevent
  | bound scope name => cases hevent

end Log

section Inlining

variable {c : Configuration} {filter : Option Filter} {scope : Scope}

/-- A value that can be written without a filter comes through a filter as its check does. -/
theorem Draft.inlined_of_guard {expression text : String}
    (h : inlined (c.withFilter none) scope expression = .ok text) :
    inlined (c.withFilter filter) scope expression =
      (Event.guard (c.withFilter filter) (.inlined scope expression)).map fun _ => text := by
  rw [Event.guard]
  cases hinlined : inlined (c.withFilter filter) scope expression with
  | error e => rfl
  | ok text' =>
    obtain rfl := Except.ok.inj (h.symm.trans (inlined_of_filter hinlined))
    rfl

theorem Draft.replace_of_guard {text written : String}
    (h : Delimiters.interpolation.replace (inlined (c.withFilter none) scope) text = .ok written) :
    Delimiters.interpolation.replace (inlined (c.withFilter filter) scope) text =
      ((Log.inlining scope text).guard (c.withFilter filter)).map fun _ => written := by
  rw [Log.guard_inlining]
  exact Delimiters.replace_of_check (fun _ _ => inlined_of_guard) h

theorem Draft.replace_of_filter {text written : String}
    (h : Delimiters.interpolation.replace (inlined (c.withFilter filter) scope) text =
      .ok written) :
    Delimiters.interpolation.replace (inlined (c.withFilter none) scope) text = .ok written := by
  have hchecked : ∀ body t, inlined (c.withFilter filter) scope body = .ok t →
      inlined (c.withFilter none) scope body = (Except.ok () : Except Error Unit).map fun _ => t :=
    fun _ _ => inlined_of_filter
  rw [Delimiters.replace_of_check hchecked h, forM_eq_ok_iff.mpr fun _ _ => rfl]
  rfl

end Inlining

/-! ### Runs under a filter -/

def Job.Ends (c : Configuration) : Job → Draft → Except Error Draft → Prop
  | .node n, d, r => n.compose c d = r
  | .all children, d, r => Node.composeAll c children d = r
  | .first branches fallback, d, r => (Node.choice branches fallback).compose c d = r
  | .iterate lead loop child, d, r =>
    ((loop.render c (child.compose c) d).map fun r =>
      r.2.elim r.1 fun t => r.1.append (lead ++ t)) = r
  | .rounds loop child entries parts, d, r =>
    loop.rounds (child.compose c) d entries = r.map fun after => (after, parts)

namespace Run

variable {c : Configuration} {filter : Option Filter} {job : Job} {d d' : Draft} {log : Log}

/-- **A run under a filter is a run without one.** -/
theorem unfiltered (h : Run (c.withFilter filter) job d d' log) :
    Run (c.withFilter none) job d d' log := by
  induction h with
  | static h =>
    rw [Draft.addStatic_withFilter] at h
    exact .static ((Draft.addStatic_withFilter _).trans h)
  | interpolated hw h =>
    rw [Draft.addStatic_withFilter] at h
    exact .interpolated (Draft.replace_of_filter hw) ((Draft.addStatic_withFilter _).trans h)
  | condition h ih => exact .condition ih
  | choice h ih => exact .choice ih
  | otherwise h ih => exact .otherwise ih
  | item h ih => exact .item ih
  | group h ih => exact .group ih
  | wrapped h ht ih => exact .wrapped ih ht
  | dropped h ht ih => exact .dropped ih ht
  | forEach h ih => exact .forEach ih
  | list ht h ih => exact .list ht ih
  | listed ht hb h ih => exact .listed ht hb ih
  | unlisted ht hb => exact .unlisted ht hb
  | bind hv => exact .bind hv
  | sequence h ih => exact .sequence ih
  | empty => exact .empty
  | nil => exact .nil
  | cons h hr ih ihr => exact .cons ih ihr
  | chosen hb h ih => exact .chosen hb ih
  | passed hb h ih => exact .passed hb ih
  | defaulted h ih => exact .defaulted ih
  | unchosen => exact .unchosen
  | iterate he h ih => exact .iterate he ih
  | idle he h => exact .idle he h
  | done => exact .done
  | round h hr ih ihr => exact .round ih ihr

/-- **Under a filter, a job ends as the checks for the log of its run do.** -/
theorem ends_of_guard (filter : Option Filter) (h : Run (c.withFilter none) job d d' log) :
    job.Ends (c.withFilter filter) d ((log.guard (c.withFilter filter)).map fun _ => d') := by
  -- on the run without a filter, which says what there is to check
  induction h with
  | static h =>
    rw [Draft.addStatic_withFilter] at h
    rw [Log.guard_reading]
    exact (Draft.addStatic_withFilter _).trans h
  | @interpolated text written d d' hw h =>
    rw [Draft.addStatic_withFilter] at h
    rw [Job.Ends, Node.compose, Draft.addInterpolated, Draft.replace_of_guard hw,
      Log.guard_append, Log.guard_reading]
    cases (Log.inlining d.scope text).guard (c.withFilter filter) with
    | error e => rfl
    | ok _ => exact (Draft.addStatic_withFilter _).trans h
  | condition h ih => exact Node.compose_condition.trans ih
  | choice h ih => exact ih
  | otherwise h ih => exact ih
  | @item connector child d inner log h ih =>
    rw [Job.Ends, Node.compose, ih]
    cases log.guard (c.withFilter filter) <;> rfl
  | @group connector children d inner log h ih =>
    rw [Job.Ends, Node.compose, ih]
    cases log.guard (c.withFilter filter) <;> rfl
  | @wrapped clause child d inner text log h ht ih =>
    rw [Job.Ends, Node.compose, ih]
    cases log.guard (c.withFilter filter) with
    | error e => rfl
    | ok _ => exact bind_eq_ok_iff.mpr ⟨inner, rfl, by rw [ht]; rfl⟩
  | @dropped clause child d inner log h ht ih =>
    rw [Job.Ends, Node.compose, ih]
    cases log.guard (c.withFilter filter) with
    | error e => rfl
    | ok _ => exact bind_eq_ok_iff.mpr ⟨inner, rfl, by rw [ht]; rfl⟩
  | @forEach loop child d d' log h ih =>
    refine Node.compose_forEach.trans ?_
    simpa only [Job.Ends, String.empty_append] using ih
  | list ht h ih => exact (Membership.compose_of_holds (by simp [ht])).trans ih
  | @listed m test d d' log ht hb h ih =>
    refine (Membership.compose_of_holds fun test' htest => ?_).trans ih
    obtain rfl := Option.some.inj (ht.symm.trans htest)
    exact hb
  | unlisted ht hb => exact Membership.compose_of_not_holds ht hb
  | bind hv => exact bind_eq_ok_iff.mpr ⟨_, mapError_eq_ok_iff.mpr hv, rfl⟩
  | sequence h ih => exact ih
  | empty => rfl
  | nil => rfl
  | @cons child rest d mid d' log log' h hr ih ihr =>
    rw [Job.Ends, Node.composeAll, ih, Log.guard_append]
    -- the other children are composed only when the checks for the first one pass
    cases log.guard (c.withFilter filter) with
    | error e => rfl
    | ok _ => exact ihr
  | chosen hb h ih => exact Eq.trans (Node.compose_choice_of_holds (by exact hb)) ih
  | passed hb h ih => exact Eq.trans (Node.compose_choice_of_not_holds (by exact hb)) ih
  | defaulted h ih => exact ih
  | unchosen => rfl
  | @iterate lead loop child entry rest parts d d' log he h ih =>
    have hentries : loop.entries (c.withFilter filter) d.scope = .ok (some (entry :: rest)) := he
    rw [Job.Ends, Loop.render_of_entries hentries, ih, Log.guard_counted]
    cases log.guard (c.withFilter filter) <;> rfl
  | @idle lead loop child entries d he h =>
    have hentries : loop.entries (c.withFilter filter) d.scope = .ok entries := he
    rw [Job.Ends, Loop.render_eq_ok_iff.mpr (.inl ⟨_, hentries, h, rfl, rfl⟩)]
    rfl
  | done => rfl
  | @round loop child entry rest parts d inner d' log log' h hr ih ihr =>
    rw [Job.Ends, Loop.rounds, ih, Log.guard_append]
    cases log.guard (c.withFilter filter) with
    | error e => rfl
    | ok _ =>
      show (loop.rounds _ (d.resume inner) rest >>= _) = _
      rw [ihr]
      cases log'.guard (c.withFilter filter) <;> rfl

/-- The values that are written in a run pass their checks. -/
theorem guard_eq_ok {n : Node} (h : Run (c.withFilter filter) (.node n) d d' log) :
    log.guard (c.withFilter filter) = .ok () := by
  have hends : n.compose (c.withFilter filter) d = _ := h.unfiltered.ends_of_guard filter
  obtain ⟨⟨⟩, hguard, -⟩ := map_eq_ok_iff.mp (hends.symm.trans h.composes)
  exact hguard

end Run

/-- **The filter is a guard and nothing else.**  What is composed under a filter is composed in
the same way without one, and each value that is written into it is accepted.  What fails
under a filter alone fails for the first value that is not accepted, and what fails without
a filter fails under one. -/
theorem Node.render_filter (c : Configuration) (f : Filter) (root : Node) (parameter : Value) :
    (∀ out, root.render (c.withFilter (some f)) parameter = .ok out →
      root.render (c.withFilter none) parameter = .ok out ∧
        (∃ log, root.Logs (c.withFilter (some f)) parameter log) ∧
        ∀ log, root.Logs (c.withFilter (some f)) parameter log → log.Passes c.evaluator f) ∧
    (∀ out e, root.render (c.withFilter none) parameter = .ok out →
      root.render (c.withFilter (some f)) parameter = .error e →
        ∃ log, root.Logs (c.withFilter none) parameter log ∧ log.Rejects c.evaluator f e) ∧
    ∀ e, root.render (c.withFilter none) parameter = .error e →
      ∃ e', root.render (c.withFilter (some f)) parameter = .error e' := by
  have hfree : ∀ out, root.render (c.withFilter (some f)) parameter = .ok out →
      root.render (c.withFilter none) parameter = .ok out := by
    intro out h
    obtain ⟨d, hd, rfl⟩ := render_eq_ok_iff.mp h
    obtain ⟨log, hrun⟩ := compose_eq_ok_iff.mp hd
    exact render_eq_ok_iff.mpr ⟨d, hrun.unfiltered.composes, rfl⟩
  refine ⟨fun out h => ⟨hfree out h, exists_logs h, fun log ⟨d, hrun⟩ => ?_⟩,
    fun out e hopen h => ?_, fun e h => ?_⟩
  · exact Log.passes_of_guard hrun.guard_eq_ok
  · obtain ⟨log, d, hrun⟩ := exists_logs hopen
    refine ⟨log, ⟨d, hrun⟩, Log.rejects_of_guard hrun.guard_eq_ok ?_⟩
    have hends : root.compose (c.withFilter (some f)) (start c parameter) = _ :=
      hrun.ends_of_guard (some f)
    rcases bind_eq_error_iff.mp h with hcompose | ⟨d', -, h⟩
    · exact map_eq_error_iff.mp (hends.symm.trans hcompose)
    · cases h
  · cases hfiltered : root.render (c.withFilter (some f)) parameter with
    | error e' => exact ⟨e', rfl⟩
    | ok out =>
      rw [hfree out hfiltered] at h
      cases h

/-- A loop that writes names into its text, under a filter that knows one name: over names
that are accepted, over one that is not, and over nothing. -/
theorem Node.render_filter_loop :
    ∃ (c : Configuration) (f : Filter) (root : Node) (out out' : Composed)
      (known unknown : Value) (log log' : Log),
      root.render (c.withFilter (some f)) known = .ok out ∧
      root.render (c.withFilter none) known = .ok out ∧
      root.Logs (c.withFilter (some f)) known log ∧ log.Passes c.evaluator f ∧
      root.render (c.withFilter none) unknown = .ok out' ∧
      root.render (c.withFilter (some f)) unknown = .error (.rejected "b" "a") ∧
      root.Logs (c.withFilter none) unknown log' ∧
      log'.Rejects c.evaluator f (.rejected "b" "a") ∧
      ∃ e, root.render (c.withFilter (some f)) .null = .error e := by
  let c : Configuration := { evaluator := .lookup }
  let f : Filter := { pattern := "a", accepts := (· == "a") }
  let root : Node :=
    .forEach { collection := "names", item := some "name", separator := ", " }
      (.interpolated "$\x7bname\x7d")
  let known : Value := .object [("names", .array [.string "a", .string "a"])]
  let unknown : Value := .object [("names", .array [.string "a", .string "b"])]
  have hknown : root.render (c.withFilter (some f)) known = .ok ⟨"a, a", [], []⟩ := by
    cbv
  have hopen : root.render (c.withFilter none) unknown = .ok ⟨"a, b", [], []⟩ := by
    cbv
  have hunknown : root.render (c.withFilter (some f)) unknown = .error (.rejected "b" "a") := by
    cbv
  have hnull : ∃ e, root.render (c.withFilter none) .null = .error e := ⟨_, by cbv⟩
  obtain ⟨hfree, ⟨log, hlog⟩, hpasses⟩ := (Node.render_filter c f root known).1 _ hknown
  obtain ⟨log', hlog', hrejects⟩ :=
    (Node.render_filter c f root unknown).2.1 _ _ hopen hunknown
  obtain ⟨e, he⟩ := hnull
  exact ⟨c, f, root, _, _, known, unknown, log, log', hknown, hfree, hlog, hpasses log hlog, hopen,
    hunknown, hlog', hrejects, (Node.render_filter c f root .null).2.2 e he⟩

end QueryTemplate
