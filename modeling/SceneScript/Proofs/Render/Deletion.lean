import SceneScript.Proofs.Render.Agree
import SceneScript.Proofs.Render.Cause
import SceneScript.Proofs.Render.Journal
import SceneScript.Proofs.Script.Scopes

/-!
# Operations that are left out

A shape changes nothing but the canvas, and a request nothing but the output. Whether an operation
fails by itself depends on the place alone (`Raises.of_samePlace`), so with an output that never
fails a list still succeeds when such an operation is left out of it. Without a shape the others
are drawn as before, and without a request the others get the pictures that they got before
(`Render.execute_deletion`).
-/

namespace SceneScript

section
variable {α σ : Type}

/-- What an operation asks the output for when a picture is on the canvas. -/
def Operation.request? (picture : Picture) : Operation α → Option Request
  | save file => some (.save picture file)
  | display => some (.display picture)
  | _ => none

/-- A request asks for something. -/
theorem Operation.exists_request? {op : Operation α} (h : op.isRequest = true) (picture : Picture) :
    ∃ request, op.request? picture = some request := by
  cases op with
  | save file => exact ⟨.save picture file, rfl⟩
  | display => exact ⟨.display picture, rfl⟩
  | _ => cases h

/-- The requests that a journal holds, in order. -/
def Journal.requests (j : Journal σ) : List Request := j.calls.map Call.request

end

namespace Render

section
variable {α σ : Type} [Scalar α] [Trig α] {settings : Settings α} {out : Output σ}
  {op : Operation α} {ops : List (Operation α)} {s s₀ t : RenderState α σ} {fault : Fault}

/-- What operations ask the output for when they are executed in the state `s₀`, in order. -/
def requests (settings : Settings α) (out : Output σ) (ops : List (Operation α))
    (s₀ : RenderState α σ) : List Request :=
  (final (execute settings out.journaled ops s₀.journaled)).output.requests

/-- The requests of operations that succeed. -/
theorem requests_of_ok {j : RenderState α (Journal σ)}
    (h : execute settings out.journaled ops s₀.journaled = .ok () j) :
    requests settings out ops s₀ = j.output.requests := by
  rw [requests, h]
  rfl

/-! ## What one operation keeps -/

/-- A request keeps the scene and draws nothing. -/
theorem Performs.of_isRequest (hop : op.isRequest = true) (h : Performs settings out op s t) :
    t.SameScene s ∧ t.draws = s.draws := by
  cases h with
  | save | display => exact ⟨⟨rfl, rfl, fun _ => rfl⟩, rfl⟩
  | push | pop => cases hop
  | moves hm => cases hm <;> cases hop
  | draws ho => cases ho <;> cases hop
  | directive hd =>
    cases op with
    | save | display => cases hd
    | _ => cases hop

/-- A shape keeps the place, and its call is told. -/
theorem Performs.of_isShape (hop : op.isShape = true) (h : Performs settings out op s t) :
    t.SamePlace s ∧ ∃ call, t.draws = s.draws.push call := by
  cases h with
  | draws => exact ⟨⟨rfl, Canvas.extent_paint .., fun _ => rfl⟩, _, rfl⟩
  | push | pop | save | display => cases hop
  | moves hm => cases hm <;> cases hop
  | directive hd =>
    cases op with
    | box | sphere | torus | line => cases hd
    | _ => cases hop

/-- An operation that is no shape keeps the canvas. -/
theorem Performs.canvas_eq (hop : op.isShape = false) (h : Performs settings out op s t) :
    t.canvas = s.canvas := by
  cases h with
  | draws ho => cases ho <;> cases hop
  | _ => rfl

/-- An operation asks for what it is to ask for, with the picture that is on the canvas. -/
theorem Performs.requests_eq {s t : RenderState α (Journal σ)}
    (h : Performs settings out.journaled op s t) :
    t.output.requests = s.output.requests ++ (op.request? s.canvas.picture).toList := by
  have hnone (hop : op.request? s.canvas.picture = none) : s.output.requests =
      s.output.requests ++ (op.request? s.canvas.picture).toList := by
    rw [hop, Option.toList_none, List.append_nil]
  cases h with
  | push | pop => exact hnone rfl
  | moves hm => exact hnone (by cases hm <;> rfl)
  | draws ho => exact hnone (by cases ho <;> rfl)
  | save hr => exact List.map_append
  | display hr => exact List.map_append
  | directive hd =>
    cases op with
    | frames | basename | vary => exact hnone rfl
    | _ => cases hd

/-! ## Executions side by side -/

/-- In the same place an operation raises the same faults. -/
theorem Raises.of_samePlace {s' : RenderState α σ} (h : Raises settings s' op fault)
    (hs : s.SamePlace s') : Raises settings s op fault := by
  cases h with
  | underflow hb => exact .underflow (hs.stack ▸ hb)
  | knob hk hv => exact .knob hk ((hs.knobs _).trans hv)
  | angle hf hd => exact .angle ((Knobs.factor_congr hs.knobs).trans hf) hd
  | sphere hm => exact .sphere hm
  | torus hm => exact .torus hm
  | drawing ho hd => exact .drawing ho (hs.stack ▸ hs.extent ▸ hd)

/-- With an output that never fails, an operation succeeds unless it fails by itself. -/
theorem exists_perform_ok (hgood : out.NeverFails) (h : ∀ fault, ¬ Raises settings s op fault) :
    ∃ t, perform settings out op s = .ok () t := by
  cases hp : perform settings out op s with
  | ok _ t => exact ⟨t, rfl⟩
  | error fault t =>
    cases perform_error hp with
    | raises hop => exact absurd ((perform_error_iff hop).1 ⟨_, hp⟩) (h fault)
    | save hw =>
      obtain ⟨path, hr⟩ := hgood.save s.canvas.picture _ s.output
      cases hr.symm.trans hw
    | display hw => cases (hgood.display s.canvas.picture s.output).symm.trans hw

/-- With an output that never fails, operations that succeed do so wherever the place is the
same. -/
theorem exists_execute_ok (hgood : out.NeverFails) {s' : RenderState α σ}
    (h : execute settings out ops s = .ok () t) (hs : s.SamePlace s') :
    ∃ t', execute settings out ops s' = .ok () t' := by
  induction ops generalizing s s' with
  | nil => exact ⟨s', rfl⟩
  | cons op ops ih =>
    obtain ⟨s₁, hp, h⟩ := execute_cons_ok.1 h
    obtain ⟨s₁', hp'⟩ : ∃ s₁', perform settings out op s' = .ok () s₁' := by
      refine exists_perform_ok hgood fun fault hraises => ?_
      have hfail : ∃ s', perform settings out op s = .error fault s' :=
        (hraises.of_samePlace hs).exists_perform_error
      obtain ⟨_, hfail⟩ := hfail
      cases hp.symm.trans hfail
    obtain ⟨t', h'⟩ := ih h ((perform_ok hp).drawsAlike (perform_ok hp') hs).place
    exact ⟨t', execute_cons_ok.2 ⟨s₁', hp', h'⟩⟩

/-- Executions that succeed from states that show the same scene ask for the same. -/
theorem requests_execute {s t s' t' : RenderState α (Journal σ)}
    (h : execute settings out.journaled ops s = .ok () t)
    (h' : execute settings out.journaled ops s' = .ok () t') (hs : s.SameScene s') :
    ∃ later, t.output.requests = s.output.requests ++ later ∧
      t'.output.requests = s'.output.requests ++ later := by
  induction ops generalizing s s' with
  | nil =>
    obtain rfl := execute_nil_ok.1 h
    obtain rfl := execute_nil_ok.1 h'
    exact ⟨[], by simp⟩
  | cons op ops ih =>
    obtain ⟨s₁, hp, h⟩ := execute_cons_ok.1 h
    obtain ⟨s₁', hp', h'⟩ := execute_cons_ok.1 h'
    have halike := (perform_ok hp).drawsAlike (perform_ok hp') hs.samePlace
    obtain ⟨later, hlater, hlater'⟩ := ih h h' (halike.sameScene hs)
    refine ⟨(op.request? s.canvas.picture).toList ++ later, ?_, ?_⟩
    · rw [hlater, (perform_ok hp).requests_eq, List.append_assoc]
    · rw [hlater', (perform_ok hp').requests_eq, hs.canvas, List.append_assoc]

/-! ## Leaving operations out -/

/-- A shape that is left out takes nothing from the draws behind it but its own. -/
theorem Performs.exists_execute_of_isShape (hgood : out.NeverFails) {s₁ s₂ : RenderState α σ}
    (hop : op.isShape = true) (h : Performs settings out op s₁ s₂)
    (hafter : execute settings out ops s₂ = .ok () t) : ∃ t' call later,
      execute settings out ops s₁ = .ok () t' ∧ t'.stack = t.stack ∧
      t.draws = s₁.draws.push call ++ later ∧ t'.draws = s₁.draws ++ later := by
  obtain ⟨hplace, call, hcall⟩ := h.of_isShape hop
  obtain ⟨t', hafter'⟩ := exists_execute_ok hgood hafter hplace
  obtain ⟨place, -, later, hd, hd'⟩ := drawsAlike_execute hafter hafter' hplace
  exact ⟨t', call, later, hafter', place.stack.symm, hcall ▸ hd, hd'⟩

/-- A request that is left out takes nothing from the requests behind it but its own. -/
theorem Performs.exists_execute_of_isRequest (hgood : out.NeverFails)
    {s₁ s₂ t : RenderState α (Journal σ)} (hop : op.isRequest = true)
    (h : Performs settings out.journaled op s₁ s₂)
    (hafter : execute settings out.journaled ops s₂ = .ok () t) : ∃ t' request later,
      op.request? s₁.canvas.picture = some request ∧
      execute settings out.journaled ops s₁ = .ok () t' ∧ t.SameScene t' ∧ t'.draws = t.draws ∧
      t.output.requests = s₁.output.requests ++ request :: later ∧
      t'.output.requests = s₁.output.requests ++ later := by
  obtain ⟨hscene, hdraws⟩ := h.of_isRequest hop
  obtain ⟨t', hafter'⟩ := exists_execute_ok hgood.journaled hafter hscene.samePlace
  obtain ⟨-, -, calls, hd, hd'⟩ := drawsAlike_execute hafter hafter' hscene.samePlace
  obtain ⟨later, hlater, hlater'⟩ := requests_execute hafter hafter' hscene
  obtain ⟨request, hrequest⟩ := op.exists_request? hop s₁.canvas.picture
  refine ⟨t', request, later, hrequest, hafter', sameScene_execute hafter hafter' hscene, ?_, ?_,
    hlater'⟩
  · rw [hd, hd', hdraws]
  · rw [hlater, h.requests_eq, hrequest, Option.toList_some, List.append_assoc,
      List.singleton_append]

/-- Operations do not interfere. An execution with an output that never fails leaves the knobs as
they were. When a request is left out, it succeeds as before, and at each later point the canvas,
the stack and the draws are the same; of the requests just its own is missing. When a shape is left
out, it succeeds, too; at each later point the stack is the same, and of the draws just its own is
missing. All operations that are no shapes leave the canvas as it was. -/
theorem execute_deletion {s' : RenderState α σ} (hgood : out.NeverFails)
    (h : execute settings out ops s₀ = .ok () s') :
    s'.knobs = s₀.knobs ∧
    ∀ before op after rest, ops = before ++ op :: (after ++ rest) → ∃ s₁ s₂ t,
      execute settings out before s₀ = .ok () s₁ ∧
      execute settings out (before ++ [op]) s₀ = .ok () s₂ ∧
      execute settings out (before ++ op :: after) s₀ = .ok () t ∧
      (op.isRequest = true → ∃ t' request later, op.request? s₁.canvas.picture = some request ∧
        execute settings out (before ++ after) s₀ = .ok () t' ∧
        t'.canvas = t.canvas ∧ t'.stack = t.stack ∧ t'.draws = t.draws ∧
        requests settings out (before ++ op :: after) s₀ =
          requests settings out before s₀ ++ request :: later ∧
        requests settings out (before ++ after) s₀ =
          requests settings out before s₀ ++ later) ∧
      (op.isShape = true → ∃ t' call later,
        execute settings out (before ++ after) s₀ = .ok () t' ∧ t'.stack = t.stack ∧
        t.draws = s₁.draws.push call ++ later ∧ t'.draws = s₁.draws ++ later) ∧
      (op.isShape = false → s₂.canvas = s₁.canvas) := by
  refine ⟨(execute_keeps h).1, fun before op after rest hops => ?_⟩
  subst hops
  -- the run is followed with a journal, and each of its states is one without it
  obtain ⟨_, hall, -⟩ := journals_execute.exists_ok (j := s₀.journaled) h
  obtain ⟨j₁, hbefore, hall⟩ := execute_append_ok.1 hall
  obtain ⟨j₂, hop, hall⟩ := execute_cons_ok.1 hall
  obtain ⟨k, hafter, -⟩ := execute_append_ok.1 hall
  have hall : execute settings out.journaled (before ++ op :: after) s₀.journaled = .ok () k :=
    execute_append_ok.2 ⟨j₁, hbefore, execute_cons_ok.2 ⟨j₂, hop, hafter⟩⟩
  have hupto : execute settings out.journaled (before ++ [op]) s₀.journaled = .ok () j₂ :=
    execute_append_ok.2 ⟨j₁, hbefore, execute_cons_ok.2 ⟨j₂, hop, execute_nil_ok.2 rfl⟩⟩
  refine ⟨j₁.plain, j₂.plain, k.plain, journals_execute.ok hbefore, journals_execute.ok hupto,
    journals_execute.ok hall, fun hreq => ?_, fun hshape => ?_, (perform_ok hop).canvas_eq⟩
  · obtain ⟨k', request, later, hrequest, hafter', hscene, hdraws, hwith, hwithout⟩ :=
      (perform_ok hop).exists_execute_of_isRequest hgood hreq hafter
    have hall' : execute settings out.journaled (before ++ after) s₀.journaled = .ok () k' :=
      execute_append_ok.2 ⟨j₁, hbefore, hafter'⟩
    rw [requests_of_ok hall, requests_of_ok hall', requests_of_ok hbefore]
    exact ⟨k'.plain, request, later, hrequest, journals_execute.ok hall', hscene.canvas.symm,
      hscene.stack.symm, hdraws, hwith, hwithout⟩
  · obtain ⟨k', call, later, hafter', hst, hwith, hwithout⟩ :=
      (perform_ok hop).exists_execute_of_isShape hgood.journaled hshape hafter
    have hall' : execute settings out.journaled (before ++ after) s₀.journaled = .ok () k' :=
      execute_append_ok.2 ⟨j₁, hbefore, hafter'⟩
    exact ⟨k'.plain, call, later, journals_execute.ok hall', hst, hwith, hwithout⟩

end

/-- Two dots side by side. The first one is saved before the second is drawn. -/
def twoDots : List (Operation Float) :=
  [.push, .line ⟨0, 0, 0⟩ ⟨0, 0, 0⟩, .save "a.png", .move ⟨1, 0, 0⟩ none,
    .line ⟨0, 0, 0⟩ ⟨0, 0, 0⟩, .display]

open Job in
/-- Without the `save` the same picture is shown, and without the first dot the second is drawn
where it was. -/
theorem execute_deletion_twoDots : ∃ t,
    execute movingDot.settings movingDot.output twoDots usedState = .ok () t ∧
    t.knobs = usedState.knobs ∧
    (∃ t' request later,
      execute movingDot.settings movingDot.output (twoDots.eraseIdx 2) usedState = .ok () t' ∧
      t'.canvas = t.canvas ∧
      requests movingDot.settings movingDot.output twoDots usedState =
        requests movingDot.settings movingDot.output (twoDots.take 2) usedState ++
          request :: later ∧
      requests movingDot.settings movingDot.output (twoDots.eraseIdx 2) usedState =
        requests movingDot.settings movingDot.output (twoDots.take 2) usedState ++ later) ∧
    ∃ s t' call later,
      execute movingDot.settings movingDot.output (twoDots.take 1) usedState = .ok () s ∧
      execute movingDot.settings movingDot.output (twoDots.eraseIdx 1) usedState = .ok () t' ∧
      t'.stack = t.stack ∧ t.draws = s.draws.push call ++ later ∧ t'.draws = s.draws ++ later := by
  have hok : result? (execute movingDot.settings movingDot.output twoDots usedState) =
    some () := by decide +kernel
  obtain ⟨_, h⟩ : ∃ t, execute movingDot.settings movingDot.output twoDots usedState = .ok () t :=
    ⟨_, eq_ok_of_result? hok⟩
  obtain ⟨hknobs, hdelete⟩ := execute_deletion Gallery.neverFails_output h
  refine ⟨_, h, hknobs, ?_, ?_⟩
  · obtain ⟨_, _, _, -, -, ht, hsave, -⟩ :=
      hdelete (twoDots.take 2) (.save "a.png") (twoDots.drop 3) [] rfl
    obtain ⟨t', request, later, -, ht', hc, -, -, hwith, hwithout⟩ := hsave rfl
    cases h.symm.trans ht
    exact ⟨t', request, later, ht', hc, hwith, hwithout⟩
  · obtain ⟨s, _, _, hs, -, ht, -, hline, -⟩ :=
      hdelete (twoDots.take 1) (.line ⟨0, 0, 0⟩ ⟨0, 0, 0⟩) (twoDots.drop 2) [] rfl
    obtain ⟨t', call, later, ht', hst, hwith, hwithout⟩ := hline rfl
    cases h.symm.trans ht
    exact ⟨s, t', call, later, hs, ht', hst, hwith, hwithout⟩

end Render

end SceneScript
