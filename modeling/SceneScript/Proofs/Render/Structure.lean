import SceneScript.Proofs.Render.Abort
import SceneScript.Proofs.Render.Foreign
import SceneScript.Proofs.Render.Systems
import SceneScript.Proofs.Script.Names

/-!
# Scopes and knobs

Whether every `pop` has its `push` and every knob that is named has a value can be seen from the
operations before a run: the scopes are counted, and the names are compared with those that have a
value in the first frame (`Operation.Misuse`). In each frame the stack is new and the knobs are no
fewer than in the first (`Job.upTo_state`), so what is wrong shows in the first frame, at the first
operation that is misused, or not at all (`Job.structural_faults`).
-/

namespace SceneScript

/-- Whether a fault is one of scopes or of knobs. -/
def Fault.isStructural (f : Fault) : Bool :=
  match f.kind with
  | .underflow | .knob => true
  | _ => false

/-- A structural fault is not foreign. -/
theorem Fault.isForeign_of_isStructural {f : Fault} (h : f.isStructural = true) :
    f.isForeign = false := by
  have hscript : f.isScriptFault = true := by
    unfold isStructural at h
    unfold isScriptFault
    split at h
    · next hk => rw [hk]
    · next hk => rw [hk]
    · cases h
  rw [isForeign, hscript]
  rfl

/-- What is wrong with an operation of a script, seen without running it: up to a `pop` there are
more of them than there are `push`es, or a transform names a knob that is not known. -/
inductive Operation.Misuse {α : Type} (known : String → Prop) (ops : List (Operation α)) (p : Nat) :
    Fault → Prop
  | pop : ops[p]? = some .pop →
      (ops.take (p + 1)).countP (·.isPush) < (ops.take (p + 1)).countP (·.isPop) →
      Misuse known ops p .noMatchingPush
  | knob : ops[p]? = some op → op.knob? = some name → ¬ known name →
      Misuse known ops p (.undefinedKnob name)

/-- The fault of an answer is that of the operation, or the operand of a `save` is at fault. -/
theorem Operation.raised_cases {α : Type} (op : Operation α) (why : Fault) :
    op.raised why = why ∨ ∃ file, op.raised why = .cannotSave file why := by
  cases op with
  | save file =>
    cases hv : why.isValueFault with
    | true => exact .inr ⟨file, by rw [raised, hv]; rfl⟩
    | false => exact .inl (by rw [raised, hv]; rfl)
  | _ => exact .inl rfl

/-- An operation that is misused is one of the script. -/
theorem Operation.Misuse.getElem? {α : Type} {known : String → Prop} {ops : List (Operation α)}
    {p : Nat} {fault : Fault} (h : Misuse known ops p fault) : ∃ op, ops[p]? = some op := by
  cases h with
  | pop hat => exact ⟨_, hat⟩
  | knob hat => exact ⟨_, hat⟩

/-- An operation of a script stands behind those before it and in front of the rest. -/
theorem Operation.eq_take_append {α : Type} {ops : List (Operation α)} {op : Operation α} {p : Nat}
    (hat : ops[p]? = some op) : ops = ops.take p ++ op :: ops.drop (p + 1) := by
  obtain ⟨hp, hop⟩ := List.getElem?_eq_some_iff.1 hat
  rw [← hop, List.getElem_cons_drop, List.take_append_drop]

namespace Render

section
variable {α σ : Type} [Scalar α] [Trig α] {settings : Settings α} {out : Output σ}
  {op : Operation α} {s s' : RenderState α σ}

/-- A scope that was not opened cannot be closed. -/
theorem perform_pop_error (h : s.stack.below = []) :
    perform settings out .pop s = .error .noMatchingPush s := by
  refine closeScope_error.2 ⟨?_, rfl⟩
  rw [ScopeStack.pop, h]

/-- A transform cannot be performed without the value of its knob. -/
theorem perform_knob_error {name : String} (hk : op.knob? = some name)
    (hv : s.knobs.lookup? name = none) :
    perform settings out op s = .error (.undefinedKnob name) s := by
  have hf := Knobs.factor_error.2 ⟨name, hk, hv, rfl⟩
  cases op with
  | move | scale | rotate => exact bind_error.2 (.inl (factor_error.2 ⟨hf, rfl⟩))
  | _ => cases hk

/-- An operation opens a scope, closes one, or leaves the scopes. -/
theorem Performs.length_below (h : Performs settings out op s s') :
    s'.stack.below.length + [op].countP (·.isPop) =
      s.stack.below.length + [op].countP (·.isPush) := by
  cases h with
  | push => rfl
  | pop hb => rw [hb]; rfl
  | moves hm =>
    obtain ⟨hpush, hpop, -⟩ := hm.kind
    simp [hpush, hpop, ScopeStack.apply]
  | draws ho =>
    obtain ⟨hpush, hpop, -⟩ := ho.kind
    simp [hpush, hpop]
  | save | display => rfl
  | directive hd =>
    obtain ⟨hpush, hpop, -⟩ := Operation.kind_of_isDirective hd
    simp [hpush, hpop]

/-- Behind operations there are as many scopes more as they have opened and not closed. -/
theorem length_below_of_execute {ops : List (Operation α)}
    (h : execute settings out ops s = .ok () s') :
    s'.stack.below.length + ops.countP (·.isPop) =
      s.stack.below.length + ops.countP (·.isPush) := by
  induction ops generalizing s with
  | nil =>
    obtain rfl := execute_nil_ok.1 h
    rfl
  | cons op ops ih =>
    obtain ⟨s₁, hop, hops⟩ := execute_cons_ok.1 h
    have hhead := (perform_ok hop).length_below
    have htail := ih hops
    rw [← List.singleton_append, List.countP_append, List.countP_append]
    omega

end

end Render

namespace Job

section
variable {α σ : Type} [Scalar α] [Trig α] {job : Job α σ} {d : Directives} {t : Timeline α}
  {s₀ s : RenderState α σ} {frame : Nat} {before after : List (Operation α)} {op : Operation α}
  {fault : Fault}

/-- Where a run comes to an operation, as many scopes are open as the operations before have opened
and not closed, and the knobs have the values that the timeline gives them up to the frame. -/
theorem upTo_state (ht : Timeline.ofOperations job.operations d.frames = .ok t)
    (hf : (frame : Int) < d.frames) (h : job.upTo d t frame before s₀ = .ok () s) :
    s.stack.below.length + before.countP (·.isPop) = before.countP (·.isPush) ∧
      ∀ name, t.Gives s₀.knobs (frame + 1) name (s.knobs.lookup? name) := by
  obtain ⟨paths, s₁, start, hpaths, henter, hexec⟩ := upTo_ok.1 h
  have hsize : frame < t.slots.size := by
    rw [Timeline.size_ofOperations ht]
    omega
  have hfirst : d.isAnimated = true ∨ frame = 0 := by
    simp only [Directives.isAnimated, decide_eq_true_eq]
    omega
  obtain ⟨hstack, -, hknobs⟩ := approach_ok hfirst (Nat.le_of_lt hsize) hpaths
  obtain ⟨start', henter', hstack', -, -, hknobs'⟩ := enter_of_lt (s := s₁) hsize
  cases henter'.symm.trans henter
  have hdepth := Render.length_below_of_execute hexec
  rw [hstack', hstack] at hdepth
  refine ⟨by simpa [ScopeStack.initial] using hdepth, fun name => ?_⟩
  rw [(Render.execute_keeps hexec).1, hknobs']
  exact (hknobs name).next

/-- A run that comes to an operation of a frame has come to each operation of the frames before. -/
theorem exists_upTo_of_lt {g : Nat} (hg : g < frame)
    (h : job.upTo d t frame before s₀ = .ok () s) :
    ∃ s', job.upTo d t g job.operations s₀ = .ok () s' := by
  obtain ⟨paths, s₁, -, hpaths, -⟩ := upTo_ok.1 h
  rw [approach_eq, Render.bind_ok] at hpaths
  obtain ⟨none, s₂, hzero, hframes⟩ := hpaths
  rw [range_eq_append hg, renderFrames_append, Render.bind_ok] at hframes
  obtain ⟨pathsg, sg, hg', hframes⟩ := hframes
  simp only [renderFrames, renderFrame_eq, Render.bind_ok] at hframes
  obtain ⟨_, _, ⟨_, _, ⟨_, start, henter, _, s', hexec, -⟩, -⟩, -⟩ := hframes
  refine ⟨s', upTo_ok.2 ⟨pathsg, sg, start, ?_, henter, hexec⟩⟩
  rw [approach_eq, Render.bind_of_ok hzero]
  exact hg'

/-- What stops an operation of any frame with a structural fault is its misuse. -/
theorem misuse_of_raises {job : Job Float σ} {t : Timeline Float} {s₀ s : RenderState Float σ}
    {before after : List (Operation Float)} {op : Operation Float} {light : Light}
    (hsurface : job.settings.surface = light.surface)
    (ht : Timeline.ofOperations job.operations d.frames = .ok t)
    (hf : (frame : Int) < d.frames) (hops : job.operations = before ++ op :: after)
    (h : job.upTo d t frame before s₀ = .ok () s)
    (hr : Render.Raises job.settings s op fault) (hfault : fault.isStructural = true) :
    Operation.Misuse (t.Defines s₀.knobs) job.operations before.length fault := by
  obtain ⟨hdepth, hknobs⟩ := upTo_state ht hf h
  have hat : job.operations[before.length]? = some op := by
    rw [hops, List.getElem?_append_right (Nat.le_refl _), Nat.sub_self]
    rfl
  have htake : job.operations.take (before.length + 1) = before ++ [op] := by
    rw [hops, List.take_append]
    simp
  rcases hr.cases hsurface with ⟨rfl, hb, rfl⟩ | ⟨name, hk, hv, rfl⟩ | hforeign
  · refine .pop hat ?_
    rw [hb, List.length_nil] at hdepth
    rw [htake, List.countP_append, List.countP_append, ← hdepth, Nat.zero_add]
    exact Nat.lt_succ_self _
  · refine .knob hat hk fun hdef => ?_
    have hsome := (hknobs name).isSome hdef
    rw [hv] at hsome
    cases hsome
  · rw [Fault.isForeign_of_isStructural hfault] at hforeign
    cases hforeign

/-- An operation that is misused stops in the first frame, if the run comes to it, and leaves the
state. -/
theorem perform_error_of_misuse {p : Nat}
    (ht : Timeline.ofOperations job.operations d.frames = .ok t) (hf : 0 < d.frames)
    (h : job.upTo d t 0 (job.operations.take p) s₀ = .ok () s)
    (hm : Operation.Misuse (t.Defines s₀.knobs) job.operations p fault) :
    ∃ op, job.operations[p]? = some op ∧ op.isRequest = false ∧
      Render.perform job.settings job.output op s = .error fault s := by
  obtain ⟨hdepth, hknobs⟩ := upTo_state ht (by exact_mod_cast hf) h
  cases hm with
  | pop hat hcount =>
    refine ⟨.pop, hat, rfl, Render.perform_pop_error ?_⟩
    rw [List.take_add_one, hat, List.countP_append, List.countP_append] at hcount
    have hclosed : (job.operations.take p).countP (·.isPush) <
        (job.operations.take p).countP (·.isPop) + 1 := hcount
    exact List.eq_nil_of_length_eq_zero (by omega)
  | @knob op name hat hk hnot =>
    refine ⟨op, hat, ?_, Render.perform_knob_error hk ?_⟩
    · cases op with
      | save | display => cases hk
      | _ => rfl
    · cases hv : s.knobs.lookup? name with
      | none => rfl
      | some v => exact absurd ((hknobs name).defines (by rw [hv]; rfl)) hnot

/-- A run comes to the operations behind others when it performs those, too. -/
theorem upTo_append {ops : List (Operation α)} :
    job.upTo d t frame (before ++ ops) s₀ = .ok () s ↔
      ∃ s₁, job.upTo d t frame before s₀ = .ok () s₁ ∧
        Render.execute job.settings job.output ops s₁ = .ok () s := by
  simp only [upTo_ok, Render.execute_append_ok]
  constructor
  · rintro ⟨paths, s₁, start, hpaths, henter, s₂, hbefore, hops⟩
    exact ⟨s₂, ⟨paths, s₁, start, hpaths, henter, hbefore⟩, hops⟩
  · rintro ⟨s₂, ⟨paths, s₁, start, hpaths, henter, hbefore⟩, hops⟩
    exact ⟨paths, s₁, start, hpaths, henter, s₂, hbefore, hops⟩

/-- A run does not come past an operation that is misused in the first frame. -/
theorem not_misuse_of_upTo {p q : Nat}
    (ht : Timeline.ofOperations job.operations d.frames = .ok t) (hf : 0 < d.frames)
    (h : job.upTo d t 0 (job.operations.take p) s₀ = .ok () s) (hq : q < p) :
    ¬ Operation.Misuse (t.Defines s₀.knobs) job.operations q fault := by
  intro hm
  obtain ⟨op, hat⟩ := hm.getElem?
  have hsplit := Operation.eq_take_append
    (show (job.operations.take p)[q]? = some op by rw [List.getElem?_take_of_lt hq, hat])
  rw [List.take_take, Nat.min_eq_left (Nat.le_of_lt hq)] at hsplit
  rw [hsplit, upTo_append] at h
  obtain ⟨s₁, hbefore, hrest⟩ := h
  obtain ⟨s₂, hop, -⟩ := Render.execute_cons_ok.1 hrest
  obtain ⟨op', hat', -, herror⟩ := perform_error_of_misuse ht hf hbefore hm
  cases hat.symm.trans hat'
  cases hop.symm.trans herror

/-- A run comes to an operation alike with a journal. -/
theorem journals_upTo :
    Render.Journals (job.upTo d t frame before) (job.journaled.upTo d t frame before) :=
  Render.journals_of_relates <| relates_upTo Render.pairing_plain (congrArg RenderState.knobs)
    fun h => by subst h; rfl

/-- The calls before an operation of the first frame have been answered. -/
theorem answered_of_upTo {j : RenderState α (Journal σ)}
    (h : job.journaled.upTo d t 0 before s₀.journaled = .ok () j) :
    ∀ c ∈ j.output.calls, c.Answered := by
  obtain ⟨paths, s₁, start, hpaths, henter, hops⟩ := upTo_ok.1 h
  obtain ⟨_, -, rfl⟩ := enter_ok henter
  cases hpaths
  obtain ⟨calls, hcalls, hall⟩ := (Render.execute_advances hops).calls
  rw [hcalls]
  exact hall

/-- A run that stops does so in an operation that asks for nothing, or because the output has
answered a call with a fault, which for a `save` of the script may become one of its operand, or
because an animation has no directory. -/
theorem record_error_cases {s' : RenderState α (Journal σ)}
    (hd : Directives.ofOperations job.operations = .ok d)
    (ht : Timeline.ofOperations job.operations d.frames = .ok t)
    (h : job.record s₀ = .error fault s') :
    (∃ (frame : Nat) (before after : List (Operation α)) (op : Operation α)
      (j : RenderState α (Journal σ)),
      (frame : Int) < d.frames ∧ job.operations = before ++ op :: after ∧
      job.journaled.upTo d t frame before s₀.journaled = .ok () j ∧ op.isRequest = false ∧
      Render.perform job.settings job.output.journaled op j = .error fault s') ∨
    (∃ c ∈ s'.output.calls, ∃ why, c.answer = .error why ∧
      (fault = why ∨ ∃ file, fault = .cannotSave file why)) ∨
    fault = .noDirectory := by
  have hlast {calls : List Call} {request : Request} {why : Fault}
      (hcalls : s'.output.calls = calls ++ [⟨request, .error why⟩])
      (hfault : fault = why ∨ ∃ file, fault = .cannotSave file why) :
      ∃ c ∈ s'.output.calls, ∃ why, c.answer = .error why ∧
        (fault = why ∨ ∃ file, fault = .cannotSave file why) := by
    refine ⟨⟨request, .error why⟩, ?_, why, rfl, hfault⟩
    rw [hcalls]
    exact List.mem_append_right _ List.mem_cons_self
  have hrun : job.journaled.run s₀.journaled = .error fault s' := h
  have hd' : Directives.ofOperations job.journaled.operations = .ok d := hd
  rcases run_error hd' ht hrun with
    ⟨frame, before, after, op, j, hf, hops, hup, hop⟩ | ⟨frame, j, hf, -, hup, hexport⟩ |
    ⟨paths, j, -, hclose⟩
  · cases Render.perform_error hop with
    | raises hreq => exact .inl ⟨frame, before, after, op, j, hf, hops, hup, hreq, hop⟩
    | save hw =>
      exact .inr (.inl (hlast (Reply.calls_journaled_error hw ..) (Operation.raised_cases ..)))
    | display hw => exact .inr (.inl (hlast (Reply.calls_journaled_error hw ..) (.inl rfl)))
  · have hname := Directives.namesFrame_of_lt (Directives.writes_frames hd) hf
    cases hdir : job.journaled.directory with
    | none =>
      cases (exportFrame_of_none hdir hname).symm.trans hexport
      exact .inr (.inr rfl)
    | some directory =>
      obtain ⟨hw, rfl⟩ := exportFrame_error hdir hname hexport
      exact .inr (.inl (hlast (Reply.calls_journaled_error hw ..) (.inl rfl)))
  · rcases close_error hclose with ⟨-, rfl⟩ | ⟨directory, hdir, hw, rfl⟩
    · exact .inr (.inr rfl)
    · exact .inr (.inl (hlast (Reply.calls_journaled_error hw ..) (.inl rfl)))

end

section
variable {σ : Type} {job : Job Float σ} {light : Light} {d : Directives} {t : Timeline Float}
  {s₀ s s' : RenderState Float σ} {frame : Nat} {before after : List (Operation Float)}
  {op : Operation Float} {fault : Fault}

/-- An operation that stops at a structural fault leaves the state. -/
theorem state_of_isStructural (hsurface : job.settings.surface = light.surface)
    (hop : op.isRequest = false) (hfault : fault.isStructural = true)
    (h : Render.perform job.settings job.output op s = .error fault s') : s' = s := by
  have hr := Render.raises_of_perform_error hop h
  rcases hr.cases hsurface with ⟨rfl, hb, rfl⟩ | ⟨name, hk, hv, rfl⟩ | hforeign
  · cases h.symm.trans (Render.perform_pop_error hb)
    rfl
  · cases h.symm.trans (Render.perform_knob_error hk hv)
    rfl
  · rw [Fault.isForeign_of_isStructural hfault] at hforeign
    cases hforeign

/-- An operation of a later frame does not stop at a structural fault. -/
theorem frame_eq_zero_of_raises (hsurface : job.settings.surface = light.surface)
    (ht : Timeline.ofOperations job.operations d.frames = .ok t)
    (hf : (frame : Int) < d.frames) (hops : job.operations = before ++ op :: after)
    (h : job.upTo d t frame before s₀ = .ok () s)
    (hr : Render.Raises job.settings s op fault) (hfault : fault.isStructural = true) :
    frame = 0 := by
  by_contra hframe
  have hm := misuse_of_raises hsurface ht hf hops h hr hfault
  obtain ⟨s₁, hzero⟩ := exists_upTo_of_lt (Nat.pos_of_ne_zero hframe) h
  rw [← List.take_length (l := job.operations)] at hzero
  refine not_misuse_of_upTo ht (by omega) hzero ?_ hm
  rw [hops, List.length_append, List.length_cons]
  omega

/-- A run that stops at a structural fault by itself stops in the first frame, where an operation is
misused. -/
theorem misuse_of_run_error (hsurface : job.settings.surface = light.surface)
    (hd : Directives.ofOperations job.operations = .ok d)
    (ht : Timeline.ofOperations job.operations d.frames = .ok t)
    (hfault : fault.isStructural = true) (h : job.run s₀ = .error fault s')
    (hcalls : ∀ c ∈ job.calls s₀, c.answer ≠ .error fault) :
    ∃ p, Operation.Misuse (t.Defines s₀.knobs) job.operations p fault ∧
      job.upTo d t 0 (job.operations.take p) s₀ = .ok () s' := by
  obtain ⟨j, hrecord, rfl⟩ := exists_record_error h
  rcases record_error_cases hd ht hrecord with
    ⟨frame, before, after, op, j', hf, hops, hup, hreq, hop⟩ | ⟨c, hc, why, hanswer, hwhy⟩ | rfl
  · have hsurface' : job.journaled.settings.surface = light.surface := hsurface
    have hops' : job.journaled.operations = before ++ op :: after := hops
    have hr := Render.raises_of_perform_error hreq hop
    obtain rfl := state_of_isStructural hsurface' hreq hfault hop
    obtain rfl := frame_eq_zero_of_raises hsurface' ht hf hops' hup hr hfault
    have hm := misuse_of_raises hsurface' ht hf hops' hup hr hfault
    refine ⟨before.length, hm, ?_⟩
    rw [hops, List.take_left']
    · exact journals_upTo.ok hup
    · rfl
  · rw [calls_of_record_error hrecord] at hcalls
    rcases hwhy with rfl | ⟨file, rfl⟩
    · exact absurd hanswer (hcalls c hc)
    · cases hfault
  · cases hfault

/-- A run that comes to an operation which is misused stops there, and all its calls have been
answered. -/
theorem run_error_of_misuse {p : Nat} (hd : Directives.ofOperations job.operations = .ok d)
    (ht : Timeline.ofOperations job.operations d.frames = .ok t)
    (hm : Operation.Misuse (t.Defines s₀.knobs) job.operations p fault)
    (h : job.upTo d t 0 (job.operations.take p) s₀ = .ok () s) :
    job.run s₀ = .error fault s ∧ ∀ c ∈ job.calls s₀, c.Answered := by
  have hf := Directives.frames_pos hd
  obtain ⟨op, hat, -, hop⟩ := perform_error_of_misuse ht hf h hm
  refine ⟨(ComesTo.intro hd ht hf (Operation.eq_take_append hat) h).run_error hop, ?_⟩
  obtain ⟨j, hj, -⟩ := journals_upTo.exists_ok (j := s₀.journaled) h
  have hd' : Directives.ofOperations job.journaled.operations = .ok d := hd
  have ht' : Timeline.ofOperations job.journaled.operations d.frames = .ok t := ht
  obtain ⟨op', hat', -, hop'⟩ := perform_error_of_misuse ht' hf hj hm
  have hrecord : job.record s₀ = .error fault j :=
    (ComesTo.intro hd' ht' hf (Operation.eq_take_append hat') hj).run_error hop'
  rw [calls_of_record_error hrecord]
  exact answered_of_upTo hj

end

/-- Structural errors show in the first frame or never. Let the first passes of a script succeed, in
whatever light it is drawn, and let the names that are known be those that have a value in the first
frame. No operation of a later frame that the run comes to stops at a structural fault by itself. A
run stops at such a fault without the output having answered with it exactly if some operation is
misused, none before it is, and nothing before it in the first frame has stopped the run; the fault
is that of the misuse, and the state is left as it was before the operation. For a script that was
read from a text, the names that are known are those of its `vary` and `set` lines. -/
theorem structural_faults {σ : Type} {job : Job Float σ} {light : Light} {d : Directives}
    {t : Timeline Float} (hsurface : job.settings.surface = light.surface)
    (hd : Directives.ofOperations job.operations = .ok d)
    (ht : Timeline.ofOperations job.operations d.frames = .ok t) (s₀ : RenderState Float σ) :
    (∀ (frame : Nat) before op after s fault, (frame : Int) < d.frames →
      job.operations = before ++ op :: after → job.upTo d t frame before s₀ = .ok () s →
      Render.Raises job.settings s op fault → fault.isStructural = true → frame = 0) ∧
    (∀ fault s', fault.isStructural = true →
      (job.run s₀ = .error fault s' ∧ (∀ c ∈ job.calls s₀, c.answer ≠ .error fault) ↔
        ∃ p, Operation.Misuse (t.Defines s₀.knobs) job.operations p fault ∧
          (∀ q < p, ∀ why, ¬ Operation.Misuse (t.Defines s₀.knobs) job.operations q why) ∧
          job.upTo d t 0 (job.operations.take p) s₀ = .ok () s')) ∧
    ∀ text script, Script.ofText text = .ok script → job.operations = script.operations →
      s₀.knobs = script.knobs → ∃ ls ss, Text.IsLines text.toList ls ∧ List.Forall₂ Line ls ss ∧
        ∀ name, t.Defines s₀.knobs name ↔ ∃ s ∈ ss, s.Names name := by
  have hpos := Directives.frames_pos hd
  refine ⟨fun frame before op after s fault hf hops h hr hfault => ?_,
    fun fault s' hfault => ⟨?_, ?_⟩, fun text script htext hops hknobs => ?_⟩
  · exact frame_eq_zero_of_raises hsurface ht hf hops h hr hfault
  · rintro ⟨h, hcalls⟩
    obtain ⟨p, hm, hup⟩ := misuse_of_run_error hsurface hd ht hfault h hcalls
    exact ⟨p, hm, fun q hq why => not_misuse_of_upTo ht hpos hup hq, hup⟩
  · rintro ⟨p, hm, -, hup⟩
    obtain ⟨h, hanswered⟩ := run_error_of_misuse hd ht hm hup
    exact ⟨h, fun c hc hanswer => Call.not_answered hanswer (hanswered c hc)⟩
  · rw [hops] at ht
    rw [hknobs]
    exact Script.defines_iff htext (Int.le_of_lt hpos) ht

/-- A script that moves by a knob before the knob has a value, and closes a scope too many. -/
def earlyKnob : Job Float Gallery where
  operations := [.push, .pop, .move ⟨1, 0, 0⟩ (some "k"), .pop, .frames (.whole 2),
    .vary ⟨"k", 1, 1, 1, 1⟩]
  settings := { width := 2, height := 1, surface := ({} : Light).surface }
  directory := some "frames"
  output := Gallery.output {}

/-- A state without knobs. -/
def knoblessState : RenderState Float Gallery where
  stack := .initial
  knobs := .empty
  canvas := .blank ⟨2, 1⟩ .white
  output := {}

/-- The knob is the first misuse of the script, and its run stops there in the first frame. -/
theorem structural_faults_earlyKnob : ∃ t s',
    Timeline.ofOperations earlyKnob.operations 2 = .ok t ∧ ¬ t.Defines knoblessState.knobs "k" ∧
    earlyKnob.upTo ⟨2, "basename", true⟩ t 0 [.push, .pop] knoblessState = .ok () s' ∧
    earlyKnob.run knoblessState = .error (.undefinedKnob "k") s' := by
  have hd : Directives.ofOperations earlyKnob.operations = .ok ⟨2, "basename", true⟩ := rfl
  have ht : Timeline.ofOperations earlyKnob.operations 2 =
    .ok ⟨#[.empty, .ofList [("k", 1)]]⟩ := rfl
  have hsurface : earlyKnob.settings.surface = ({} : Light).surface := rfl
  obtain ⟨-, hiff, -⟩ := structural_faults hsurface hd ht knoblessState
  have hnot : ¬ Timeline.Defines ⟨#[.empty, .ofList [("k", 1)]]⟩ knoblessState.knobs "k" := by
    rintro (h | h) <;> cases h
  have hup : ∃ s', earlyKnob.upTo ⟨2, "basename", true⟩ ⟨#[.empty, .ofList [("k", 1)]]⟩ 0
      [.push, .pop] knoblessState = .ok () s' := ⟨_, rfl⟩
  obtain ⟨s', hup⟩ := hup
  refine ⟨_, s', ht, hnot, hup, ((hiff (.undefinedKnob "k") s' rfl).2 ⟨2, .knob rfl rfl hnot, ?_,
    hup⟩).1⟩
  intro q hq why hm
  obtain rfl | rfl : q = 0 ∨ q = 1 := by omega
  · cases hm with
    | pop hat => cases hat
    | knob hat hk => cases hat; cases hk
  · cases hm with
    | pop _ hcount => exact absurd hcount (by decide)
    | knob hat hk => cases hat; cases hk

end Job

end SceneScript
