import Mathlib.Data.List.DropRight
import SceneScript.Space.ScopeStack

/-!
# Scopes that are opened and closed

The stack of coordinate systems as a thing that calls act on, one after another. A call leaves a
stack whether it fails or not, and the next one goes on from there (`ScopeStack.run`). The only call
that can fail is a `pop` of the last system, and it leaves the stack as it was
(`ScopeStack.after_of_error`). So the depth counts the scopes that the calls opened since the last
`reset` and that no successful `pop` has closed (`ScopeStack.depth_run`).

What a scope does stays in it. The invariant is that of the calls in a scope
(`ScopeStack.Above`): the systems below the scope are at the bottom of the stack, untouched, and
above them lie the top and one system for each scope that is open in it.
-/

namespace SceneScript.ScopeStack

section
variable {α : Type}

/-- A call on a stack. -/
inductive Call (α : Type)
  | push
  | pop
  | apply (m : Transform α)
  | reset

namespace Call

/-- Whether a call opens a scope. -/
def isPush : Call α → Bool
  | push => true
  | _ => false

/-- Whether a call closes a scope. -/
def isPop : Call α → Bool
  | pop => true
  | _ => false

/-- Whether a call starts the stack anew. -/
def isReset : Call α → Bool
  | reset => true
  | _ => false

end Call

/-- How many scopes calls open. -/
def pushes (cs : List (Call α)) : Nat := cs.countP Call.isPush

/-- How many scopes calls close. -/
def pops (cs : List (Call α)) : Nat := cs.countP Call.isPop

/-- Calls that close each scope that they open, and no other: as many `pop`s as `push`es, and at no
moment more. They do not start the stack anew. -/
structure Nested (w : List (Call α)) : Prop where
  noReset : ∀ c ∈ w, c.isReset = false
  even : pops w = pushes w
  within : ∀ v, v <+: w → pops v ≤ pushes v

@[simp] theorem pushes_cons (c : Call α) (cs : List (Call α)) :
    pushes (c :: cs) = pushes cs + if c.isPush then 1 else 0 := List.countP_cons

@[simp] theorem pops_cons (c : Call α) (cs : List (Call α)) :
    pops (c :: cs) = pops cs + if c.isPop then 1 else 0 := List.countP_cons

@[simp] theorem pushes_append (cs cs' : List (Call α)) :
    pushes (cs ++ cs') = pushes cs + pushes cs' := List.countP_append

@[simp] theorem pops_append (cs cs' : List (Call α)) :
    pops (cs ++ cs') = pops cs + pops cs' := List.countP_append

variable {s t : ScopeStack α} {c : Call α} {cs w : List (Call α)} {m next : Transform α}
  {base rest : List (Transform α)} {d : Nat} {fault : Fault}

/-- There is a coordinate system on top, and those below it. -/
theorem depth_eq : s.depth = s.below.length + 1 := rfl

/-- Opening a scope. -/
theorem depth_push : s.push.depth = s.depth + 1 := rfl

/-- A `pop` of the last system fails and leaves it. -/
theorem pop_of_below_nil (h : s.below = []) : s.pop = (.error .noMatchingPush, s) := by
  rw [pop, h]

/-- A `pop` with a system below the top makes that the top. -/
theorem pop_of_below_cons (h : s.below = next :: rest) : s.pop = (.ok s.top, ⟨next, rest⟩) := by
  rw [pop, h]

/-- A `pop` fails exactly if there is one system, for want of a `push`. -/
theorem pop_eq_error_iff : s.pop.1 = .error fault ↔ fault = .noMatchingPush ∧ s.depth = 1 := by
  rw [depth_eq]
  cases h : s.below with
  | nil => simp [pop_of_below_nil h, eq_comm]
  | cons next rest => simp [pop_of_below_cons h]

/-- Whether a stack has the given systems at its bottom and above them, under the top, those of `d`
open scopes. -/
def Above (s : ScopeStack α) (d : Nat) (base : List (Transform α)) : Prop :=
  ∃ inner, s.below = inner ++ base ∧ inner.length = d

/-- A scope that has just been opened has the old stack below it. -/
theorem above_push : s.push.Above 0 s.entries := ⟨[], rfl, rfl⟩

/-- Opening a scope in a scope. -/
theorem Above.push (h : s.Above d base) : s.push.Above (d + 1) base := by
  obtain ⟨inner, hbelow, hlength⟩ := h
  exact ⟨s.top :: inner, by simp [ScopeStack.push, entries, hbelow], by simp [hlength]⟩

variable [Scalar α]

/-! ## Calls one after another -/

/-- Whether a call succeeds, and the stack that it leaves. -/
def call (s : ScopeStack α) : Call α → Except Fault Unit × ScopeStack α
  | .push => (.ok (), s.push)
  | .pop => (s.pop.1.map fun _ => (), s.pop.2)
  | .apply m => (.ok (), s.apply m)
  | .reset => (.ok (), .initial)

/-- The stack that a call leaves. -/
def after (s : ScopeStack α) (c : Call α) : ScopeStack α := (s.call c).2

/-- The stack that a call leaves, if it succeeds. -/
def answer (s : ScopeStack α) (c : Call α) : Except Fault (ScopeStack α) :=
  (s.call c).1.map fun _ => s.after c

/-- The stack that calls leave, one after another, whether they fail or not. -/
def run (s : ScopeStack α) (cs : List (Call α)) : ScopeStack α := cs.foldl after s

/-- The calls that succeed, in order. -/
def successes (s : ScopeStack α) : List (Call α) → List (Call α)
  | [] => []
  | c :: cs => (if (s.answer c).isOk then [c] else []) ++ successes (s.after c) cs

/-- The calls on a new stack that have succeeded since it was last started anew. -/
def sinceReset (cs : List (Call α)) : List (Call α) :=
  (successes initial cs).rtakeWhile fun c => !c.isReset

/-- A `pop` with a system below the top makes that the top. -/
theorem answer_pop (h : s.below = next :: rest) : s.answer .pop = .ok ⟨next, rest⟩ := by
  simp only [answer, after, call, pop_of_below_cons h]
  rfl

/-- A `pop` at depth one fails. -/
theorem answer_pop_of_depth (h : s.depth = 1) : s.answer .pop = .error .noMatchingPush := by
  have hbelow : s.below = [] := List.length_eq_zero_iff.1 (Nat.succ.inj h)
  simp only [answer, after, call, pop_of_below_nil hbelow]
  rfl

/-- A call that fails leaves the stack as it was: it is a `pop` of the last system. -/
theorem after_of_error (h : s.answer c = .error fault) : s.after c = s := by
  cases c with
  | push | apply | reset => cases h
  | pop =>
    cases hbelow : s.below with
    | nil => simp only [after, call, pop_of_below_nil hbelow]
    | cons next rest => cases (answer_pop hbelow).symm.trans h

/-- A call that succeeds leaves the stack that it answers with. -/
theorem after_of_ok (h : s.answer c = .ok t) : s.after c = t := by
  unfold answer at h
  cases hcall : (s.call c).1 with
  | error fault => rw [hcall] at h; cases h
  | ok => rw [hcall] at h; cases h; rfl

/-! ## The depth -/

/-- The last call acts on what the calls before it leave. -/
theorem run_concat : run s (cs ++ [c]) = (run s cs).after c := by
  simp [run]

/-- The last call succeeds if it does on what the calls before it leave. -/
theorem successes_concat : successes s (cs ++ [c]) =
    successes s cs ++ if ((run s cs).answer c).isOk then [c] else [] := by
  induction cs generalizing s with
  | nil => exact (List.append_nil _).trans (List.nil_append _).symm
  | cons c' cs ih =>
    rw [List.cons_append, successes, ih, successes, List.append_assoc]
    rfl

/-- A last call that fails does not count. -/
theorem sinceReset_of_error (h : (run initial cs).answer c = .error fault) :
    sinceReset (cs ++ [c]) = sinceReset cs := by
  rw [sinceReset, successes_concat, h, sinceReset]
  simp [Except.isOk, Except.toBool]

/-- A last call that succeeds counts if it does not start the stack anew. -/
theorem sinceReset_of_ok (h : (run initial cs).answer c = .ok t) (hc : c.isReset = false) :
    sinceReset (cs ++ [c]) = sinceReset cs ++ [c] := by
  rw [sinceReset, successes_concat, h, sinceReset]
  simp only [Except.isOk, Except.toBool, if_true]
  rw [List.rtakeWhile_concat_pos _ _ _ (by simp [hc])]

/-- Nothing has been called since a stack was started anew. -/
theorem sinceReset_reset : sinceReset (cs ++ [(.reset : Call α)]) = [] := by
  have hok : (run initial cs).answer .reset = .ok .initial := rfl
  rw [sinceReset, successes_concat, hok]
  simp only [Except.isOk, Except.toBool, if_true]
  rw [List.rtakeWhile_concat_neg _ _ _ (by simp [Call.isReset])]

/-- The depth is one more than the scopes that were opened and not closed since the stack was
started anew. By induction on the calls from the last one: it is one that fails, or it changes depth
and counts alike. -/
theorem depth_run (cs : List (Call α)) :
    (run initial cs).depth + pops (sinceReset cs) = 1 + pushes (sinceReset cs) := by
  induction cs using List.reverseRecOn with
  | nil => rfl
  | append_singleton cs c ih =>
    rw [run_concat]
    cases c with
    | push =>
      have hok : (run initial cs).answer .push = .ok (run initial cs).push := rfl
      rw [sinceReset_of_ok hok rfl, pops_append, pushes_append, after_of_ok hok, depth_push]
      simp [pops, pushes, Call.isPush, Call.isPop] at ih ⊢
      omega
    | pop =>
      cases hbelow : (run initial cs).below with
      | nil =>
        have herror := answer_pop_of_depth (s := run initial cs) (by rw [depth_eq, hbelow]; rfl)
        rw [sinceReset_of_error herror, after_of_error herror, ih]
      | cons next rest =>
        have hok := answer_pop hbelow
        rw [sinceReset_of_ok hok rfl, after_of_ok hok, pops_append, pushes_append]
        rw [depth_eq, hbelow] at ih
        simp [pops, pushes, Call.isPush, Call.isPop, depth_eq] at ih ⊢
        omega
    | apply m =>
      rw [sinceReset_of_ok rfl rfl, pops_append, pushes_append]
      exact ih
    | reset =>
      rw [sinceReset_reset]
      rfl

/-! ## Inside a scope -/

/-- A transform acts on the top alone. -/
theorem Above.apply (h : s.Above d base) : (s.apply m).Above d base := h

/-- Closing a scope that was opened in a scope. -/
theorem Above.exists_pop (h : s.Above (d + 1) base) :
    ∃ t, s.answer .pop = .ok t ∧ t.Above d base := by
  obtain ⟨inner, hbelow, hlength⟩ := h
  cases inner with
  | nil => simp at hlength
  | cons next inner =>
    exact ⟨_, answer_pop hbelow, inner, rfl, Nat.succ.inj hlength⟩

/-- Calls that close no scope but their own, with `d` open before them, succeed and leave the
systems below. By induction on the calls: each one opens or closes a scope above those systems, or
transforms the top. -/
theorem Above.exists_foldlM (h : s.Above d base) (hreset : ∀ c ∈ w, c.isReset = false)
    (hwithin : ∀ v, v <+: w → pops v ≤ d + pushes v) :
    ∃ t d', w.foldlM answer s = .ok t ∧ t.Above d' base ∧ d' + pops w = d + pushes w := by
  induction w generalizing s d with
  | nil => exact ⟨s, d, rfl, h, rfl⟩
  | cons c w ih =>
    obtain ⟨hc, hrest⟩ := List.forall_mem_cons.1 hreset
    have hhead : pops [c] ≤ d + pushes [c] := hwithin [c] (List.prefix_append [c] w)
    have htail : ∀ v, v <+: w → pops (c :: v) ≤ d + pushes (c :: v) := fun v hv =>
      hwithin (c :: v) ((List.prefix_cons_inj c).2 hv)
    cases c with
    | push =>
      simp only [pops_cons, pushes_cons, Call.isPush, Call.isPop] at htail ⊢
      obtain ⟨t, d', hrun, habove, hcount⟩ := ih h.push hrest fun v hv => by
        have := htail v hv
        simp at this
        omega
      refine ⟨t, d', hrun, habove, ?_⟩
      simp
      omega
    | pop =>
      simp only [pops_cons, pushes_cons, Call.isPush, Call.isPop] at hhead htail ⊢
      -- some scope is open, or the calls would close one that is not theirs
      obtain ⟨d, rfl⟩ : ∃ k, d = k + 1 := by
        simp [pops, pushes] at hhead
        exact ⟨d - 1, by omega⟩
      obtain ⟨s', hpop, habove'⟩ := h.exists_pop
      obtain ⟨t, d', hrun, habove, hcount⟩ := ih habove' hrest fun v hv => by
        have := htail v hv
        simp at this
        omega
      refine ⟨t, d', ?_, habove, ?_⟩
      · rw [List.foldlM_cons, hpop]
        exact hrun
      · simp
        omega
    | apply m => exact ih h.apply hrest htail
    | reset => cases hc

/-- A scope in which nested calls are made leaves the stack as it was. -/
theorem foldlM_scope (s : ScopeStack α) (h : Nested w) :
    (.push :: (w ++ [.pop])).foldlM answer s = .ok s := by
  obtain ⟨t, d, hrun, ⟨inner, hbelow, hlength⟩, hcount⟩ :=
    (above_push (s := s)).exists_foldlM h.noReset fun v hv => by
      rw [Nat.zero_add]
      exact h.within v hv
  obtain rfl : d = 0 := by
    have := h.even
    omega
  rw [List.length_eq_zero_iff.1 hlength, List.nil_append] at hbelow
  rw [List.foldlM_cons]
  show List.foldlM answer s.push (w ++ [.pop]) = _
  rw [List.foldlM_append, hrun]
  show List.foldlM answer t [.pop] = _
  rw [List.foldlM_cons, answer_pop hbelow]
  rfl

/-- The discipline of the stack. Whatever calls are made on a new stack, those that fail included,
its depth is at least one, and one more than the `push`es since the last `reset` less the `pop`s
that succeeded since. A `pop` fails exactly at depth one, for want of a `push`, and leaves all
systems as they were. And a scope that is opened then and closed after nested calls succeeds and
leaves the stack with all its systems as it was. -/
theorem discipline (cs : List (Call α)) :
    ((run initial cs).depth + pops (sinceReset cs) = 1 + pushes (sinceReset cs) ∧
      1 ≤ (run initial cs).depth) ∧
    (∀ fault, (run initial cs).pop.1 = .error fault ↔
      fault = .noMatchingPush ∧ (run initial cs).depth = 1) ∧
    ((run initial cs).depth = 1 → (run initial (cs ++ [.pop])).entries = (run initial cs).entries) ∧
    ∀ w, Nested w → (.push :: (w ++ [.pop])).foldlM answer (run initial cs) =
      .ok (run initial cs) := by
  refine ⟨⟨depth_run cs, ?_⟩, fun fault => pop_eq_error_iff, fun h => ?_, fun w hw => ?_⟩
  · rw [depth_eq]
    exact Nat.le_add_left 1 _
  · rw [run_concat, after_of_error (answer_pop_of_depth h)]
  · exact foldlM_scope _ hw

end

/-- A scope with a transform in it, and a transform behind it. -/
def movedAndScaled : List (Call Float) :=
  [.push, .apply (.translation ⟨1, 2, 3⟩), .pop, .apply (.scaling ⟨2, 2, 2⟩)]

/-- A scope with another one in it, behind a `pop` that fails and a `push`. -/
theorem discipline_movedAndScaled : (run (initial : ScopeStack Float) [.pop, .push]).depth = 2 ∧
    Nested movedAndScaled ∧
    (.push :: (movedAndScaled ++ [.pop])).foldlM answer (run initial [.pop, .push]) =
      .ok (run initial [.pop, .push]) := by
  have hnested : Nested movedAndScaled := by
    refine ⟨by simp [movedAndScaled, Call.isReset], rfl, fun v hv => ?_⟩
    simp only [movedAndScaled, List.prefix_cons_iff, List.prefix_nil] at hv
    rcases hv with rfl | ⟨_, rfl, rfl | ⟨_, rfl, rfl | ⟨_, rfl, rfl | ⟨_, rfl, rfl⟩⟩⟩⟩ <;> decide
  exact ⟨rfl, hnested, (discipline [.pop, .push]).2.2.2 movedAndScaled hnested⟩

end SceneScript.ScopeStack
