import SceneScript.Output.Gallery

/-!
# Journals

An output with a journal answers as the output that it is made from, and writes down each request
with its answer (`Output.journaled`). So the calls of a run can be spoken of: nothing but the output
itself sees the journal, and what it holds in the end is what the run has asked for, in order.

Outputs are compared by their answers. One `Extends` another if it gives each answer that the other
gives, faults apart, and leaves the same state then; it may have an answer where the other has a
fault.
-/

namespace SceneScript

/-- What an output is asked for. -/
inductive Request
  | save (picture : Picture) (path : String)
  | display (picture : Picture)
  | assemble (frames : Assembly)

/-- A request with its answer: the path of a file that was written, none for a picture that was
shown, or a fault. -/
structure Call where
  request : Request
  answer : Except Fault (Option String)

/-- A call that did not end with a fault. -/
def Call.Answered (c : Call) : Prop := ∃ path, c.answer = .ok path

/-- The fault of a call, if it ended with one. -/
def Call.fault? (c : Call) : Option Fault :=
  match c.answer with
  | .ok _ => none
  | .error fault => some fault

/-- A call with a fault was answered with it. -/
theorem Call.answer_of_fault? {c : Call} {fault : Fault} (h : c.fault? = some fault) :
    c.answer = .error fault := by
  unfold fault? at h
  split at h
  · cases h
  · next ha => cases h; exact ha

/-- A call with a fault was not answered otherwise. -/
theorem Call.not_answered {c : Call} {fault : Fault} (h : c.answer = .error fault) :
    ¬ c.Answered := by
  rintro ⟨path, hpath⟩
  cases h.symm.trans hpath

/-- Behind calls that are answered, only the last one can be a call that is not. -/
theorem Call.eq_last {calls : List Call} {last call : Call} {m : Nat}
    (hall : ∀ c ∈ calls, c.Answered) (hm : (calls ++ [last])[m]? = some call)
    (hcall : ¬ call.Answered) : calls.length = m ∧ last = call := by
  rcases Nat.lt_or_ge m calls.length with hlt | hge
  · rw [List.getElem?_append_left hlt] at hm
    exact absurd (hall call (List.mem_of_getElem? hm)) hcall
  · rw [List.getElem?_append_right hge, List.getElem?_singleton] at hm
    split at hm
    · cases hm
      exact ⟨by omega, rfl⟩
    · cases hm

/-- The state of an output, and the calls that it has got. -/
structure Journal (σ : Type) where
  state : σ
  calls : List Call := []

/-- The reply of an output, written down behind the calls before it. -/
def Reply.journaled {σ β : Type} (r : Reply σ β) (calls : List Call) (request : Request)
    (path : β → Option String) : Reply (Journal σ) β :=
  ⟨r.result, ⟨r.state, calls ++ [⟨request, r.result.map path⟩]⟩, r.written⟩

/-- The journal behind a reply that is no fault. -/
theorem Reply.calls_journaled_ok {σ β : Type} {r : Reply σ β} {b : β} (h : r.result = .ok b)
    (calls : List Call) (request : Request) (path : β → Option String) :
    (r.journaled calls request path).state.calls = calls ++ [⟨request, .ok (path b)⟩] := by
  rw [journaled, h]
  rfl

/-- The journal behind a reply with a fault. -/
theorem Reply.calls_journaled_error {σ β : Type} {r : Reply σ β} {fault : Fault}
    (h : r.result = .error fault) (calls : List Call) (request : Request)
    (path : β → Option String) :
    (r.journaled calls request path).state.calls = calls ++ [⟨request, .error fault⟩] := by
  rw [journaled, h]
  rfl

namespace Output

variable {σ : Type} {good out : Output σ}

/-- An output with a journal. -/
def journaled (out : Output σ) : Output (Journal σ) where
  save p path j := (out.save p path j.state).journaled j.calls (.save p path) some
  display p j := (out.display p j.state).journaled j.calls (.display p) fun _ => none
  assemble a j := (out.assemble a j.state).journaled j.calls (.assemble a) some

/-- An output that answers each picture that it stores with the path that it was given. -/
def Faithful (out : Output σ) : Prop :=
  ∀ p path o answer, (out.save p path o).result = .ok answer → answer = path

/-- An output without faults. -/
structure NeverFails (out : Output σ) : Prop where
  save : ∀ p path o, ∃ answer, (out.save p path o).result = .ok answer
  display : ∀ p o, (out.display p o).result = .ok ()
  assemble : ∀ a o, ∃ answer, (out.assemble a o).result = .ok answer

/-- An output that replies as another does wherever the other has no fault. -/
structure Extends (good out : Output σ) : Prop where
  save : ∀ {p path o answer}, (out.save p path o).result = .ok answer →
    good.save p path o = out.save p path o
  display : ∀ {p o}, (out.display p o).result = .ok () → good.display p o = out.display p o
  assemble : ∀ {a o answer}, (out.assemble a o).result = .ok answer →
    good.assemble a o = out.assemble a o

/-- Journals keep an output that extends another so. -/
theorem Extends.journaled (h : good.Extends out) : good.journaled.Extends out.journaled where
  save {_ _ j _} hr := by simp only [Output.journaled, h.save (o := j.state) hr]
  display {_ j} hr := by simp only [Output.journaled, h.display (o := j.state) hr]
  assemble {_ j _} hr := by simp only [Output.journaled, h.assemble (o := j.state) hr]

/-- Journals keep an output without faults so. -/
theorem NeverFails.journaled (h : out.NeverFails) : out.journaled.NeverFails where
  save p path j := h.save p path j.state
  display p j := h.display p j.state
  assemble a j := h.assemble a j.state

end Output

namespace Gallery

/-- A gallery takes a picture and answers with its path, or it has a fault and takes nothing. -/
theorem save_ok {rules : Rules} {p : Picture} {path answer : String} {g : Gallery}
    (h : (save rules p path g).result = .ok answer) :
    answer = path ∧
      save rules p path g = ⟨.ok path, { g with stored := g.stored.push (path, p) }, []⟩ := by
  unfold save at h ⊢
  split at h
  · cases h
  · next hroom =>
    split at h
    · cases h
    · next hrule =>
      cases h
      rw [if_neg hroom, if_neg hrule]
      exact ⟨rfl, rfl⟩

/-- A gallery without rules takes everything. -/
theorem save_free (p : Picture) (path : String) (g : Gallery) :
    save {} p path g = ⟨.ok path, { g with stored := g.stored.push (path, p) }, []⟩ := rfl

/-- Galleries answer with the paths that they are given. -/
theorem faithful_output (rules : Rules) : (output rules).Faithful := fun _ _ _ _ h => (save_ok h).1

/-- A gallery without rules has no faults. -/
theorem neverFails_output : (output {}).NeverFails where
  save p path g := ⟨path, congrArg Reply.result (save_free p path g)⟩
  display _ _ := rfl
  assemble a _ := ⟨a.path, rfl⟩

/-- A gallery without rules does what one with rules does, as long as that has no fault. -/
theorem extends_output (rules : Rules) : (output {}).Extends (output rules) where
  save {p path g _} h := (save_free p path g).trans (save_ok h).2.symm
  display _ := rfl
  assemble _ := rfl

end Gallery

end SceneScript
