import Mathlib.Data.List.Basic
import SceneScript.Animation.Directives
import SceneScript.Proofs.Machine

/-!
# What the first pass reads

Of several frame counts in a list the last one decides (`Operation.LastCount`), wherever it stands.
The first pass refuses a list that varies a knob and has no frame count, and one whose frame count
is no length or is not written by the machine, and nothing else
(`Directives.ofOperations_eq_error_iff`). So a list that it takes has at least one frame
(`Directives.frames_pos`), and the machine writes their number (`Directives.writes_frames`).
-/

namespace SceneScript

section
variable {β γ : Type} {pick : β → Option γ} {make : γ → β} {xs : List β} {c : γ}

/-- Nothing is picked from a list if it has none of the elements that hold a value. -/
theorem filterMap_pick_eq_nil_iff (hpick : ∀ x c, pick x = some c ↔ x = make c) :
    xs.filterMap pick = [] ↔ ∀ c, make c ∉ xs := by
  rw [List.filterMap_eq_nil_iff]
  constructor
  · intro h c hc
    cases (h _ hc).symm.trans ((hpick _ c).2 rfl)
  · intro h x hx
    cases hx' : pick x with
    | none => rfl
    | some c =>
      obtain rfl := (hpick x c).1 hx'
      exact absurd hx (h c)

/-- The last of the values that are picked from a list is that of the last element that holds
one. -/
theorem getLast?_filterMap_eq_some_iff (hpick : ∀ x c, pick x = some c ↔ x = make c) :
    (xs.filterMap pick).getLast? = some c ↔
      ∃ before after, xs = before ++ make c :: after ∧ ∀ c, make c ∉ after := by
  rw [List.getLast?_eq_some_iff]
  constructor
  · rintro ⟨cs, h⟩
    obtain ⟨front, back, rfl, -, hback⟩ := List.filterMap_eq_append_iff.1 h
    obtain ⟨skipped, x, after, rfl, -, hx, hafter⟩ := List.filterMap_eq_cons_iff.1 hback
    obtain rfl := (hpick x c).1 hx
    refine ⟨front ++ skipped, after, by rw [List.append_assoc], ?_⟩
    exact (filterMap_pick_eq_nil_iff hpick).1 hafter
  · rintro ⟨before, after, rfl, hafter⟩
    refine ⟨before.filterMap pick, ?_⟩
    rw [List.filterMap_append, List.filterMap_cons_some ((hpick _ c).2 rfl),
      (filterMap_pick_eq_nil_iff hpick).2 hafter]

end

/-- A frame count is a length if it is an integer from one on. -/
theorem FrameCount.length?_eq_some_iff {count : FrameCount} {n : Int} :
    count.length? = some n ↔ count = .whole n ∧ 1 ≤ n := by
  cases count with
  | whole m =>
    simp only [length?, Option.ite_none_left_eq_some, Option.some.injEq, whole.injEq]
    omega
  | _ => simp [length?]

/-- A length is positive. -/
theorem FrameCount.length?_pos {count : FrameCount} {n : Int} (h : count.length? = some n) :
    0 < n :=
  (length?_eq_some_iff.1 h).2

namespace Operation

variable {α : Type} {ops : List (Operation α)} {count : FrameCount}

/-- The frame count that decides: that of the last `frames` in the list. -/
def LastCount (ops : List (Operation α)) (count : FrameCount) : Prop :=
  ∃ before after, ops = before ++ .frames count :: after ∧ ∀ c, .frames c ∉ after

/-- A frame count is given by `frames`. -/
theorem frameCount?_eq_some_iff (op : Operation α) (count : FrameCount) :
    op.frameCount? = some count ↔ op = .frames count := by
  cases op with
  | frames => simp [frameCount?]
  | _ => simp [frameCount?]

/-- The last frame count of a list is that which decides. -/
theorem getLast?_frameCount?_eq_some_iff :
    (ops.filterMap frameCount?).getLast? = some count ↔ LastCount ops count :=
  getLast?_filterMap_eq_some_iff frameCount?_eq_some_iff

/-- No frame count decides in a list without `frames`. -/
theorem getLast?_frameCount?_eq_none_iff :
    (ops.filterMap frameCount?).getLast? = none ↔ ∀ c, .frames c ∉ ops := by
  rw [List.getLast?_eq_none_iff, filterMap_pick_eq_nil_iff frameCount?_eq_some_iff]

/-- The last of several frame counts is one of them. -/
theorem LastCount.mem (h : LastCount ops count) : .frames count ∈ ops := by
  obtain ⟨before, after, rfl, -⟩ := h
  simp

/-- There is only one last frame count. -/
theorem LastCount.unique {count' : FrameCount} (h : LastCount ops count)
    (h' : LastCount ops count') : count = count' :=
  Option.some.inj
    ((getLast?_frameCount?_eq_some_iff.2 h).symm.trans (getLast?_frameCount?_eq_some_iff.2 h'))

/-- Some operation is a ramp if one varies a knob. -/
theorem any_ramp?_iff : ops.any (·.ramp?.isSome) = true ↔ ∃ r, .vary r ∈ ops := by
  rw [List.any_eq_true]
  constructor
  · rintro ⟨op, hop, hr⟩
    cases op with
    | vary r => exact ⟨r, hop⟩
    | _ => cases hr
  · rintro ⟨r, hr⟩
    exact ⟨_, hr, rfl⟩

end Operation

namespace Directives

variable {α : Type} [Machine] {ops : List (Operation α)} {d : Directives} {fault : Fault}

open Operation

/-- The directives of a list in which a frame count decides. -/
theorem read_of_lastCount {count : FrameCount} (h : LastCount ops count) :
    read ops = match count.length? with
      | none => .error (.naming count.integers (.badFrameCount count))
      | some frames => .ok ⟨frames, (ops.filterMap basename?).getLast?.getD defaultBasename,
          (ops.filterMap basename?).getLast?.isNone⟩ := by
  unfold read
  rw [getLast?_frameCount?_eq_some_iff.2 h]
  rfl

/-- The directives of a list without a frame count. -/
theorem read_of_not_mem (h : ∀ c, .frames c ∉ ops) :
    read ops = if ops.any (·.ramp?.isSome) then .error .varyWithoutFrames
      else .ok ⟨1, (ops.filterMap basename?).getLast?.getD defaultBasename,
        (ops.filterMap basename?).getLast?.isNone⟩ := by
  unfold read
  rw [getLast?_frameCount?_eq_none_iff.2 h]
  simp only [Option.isNone_none, Bool.true_and]
  rfl

/-- The first pass takes the directives that it reads if the machine writes the number of frames. -/
theorem ofOperations_eq : ofOperations (α := α) ops = match read ops with
    | .ok d => if Machine.writes d.frames then .ok d else .error .tooLong
    | .error fault => .error fault := by
  unfold ofOperations
  cases read ops with
  | error fault => rfl
  | ok d =>
    show (d.check >>= fun _ => pure d) = if Machine.writes d.frames then .ok d else .error .tooLong
    unfold check
    split <;> rfl

/-- What the first pass takes is what it reads, and the machine writes the number of frames. -/
theorem ofOperations_ok_iff_read :
    ofOperations ops = .ok d ↔ read ops = .ok d ∧ Machine.writes d.frames = true := by
  rw [ofOperations_eq]
  cases read ops with
  | error fault => simp
  | ok d' =>
    dsimp only
    split
    · next hwrites => exact ⟨fun h => by cases h; exact ⟨rfl, hwrites⟩, And.left⟩
    · next hwrites => exact ⟨nofun, fun ⟨h, hw⟩ => by cases h; exact absurd hw hwrites⟩

/-- The number of frames is written. -/
theorem writes_frames (hd : ofOperations ops = .ok d) : Machine.writes d.frames = true :=
  (ofOperations_ok_iff_read.1 hd).2

/-- The frames of a list in which a frame count decides. -/
theorem length?_of_ofOperations {count : FrameCount} (hd : ofOperations ops = .ok d)
    (h : LastCount ops count) : count.length? = some d.frames := by
  have hread := (ofOperations_ok_iff_read.1 hd).1
  rw [read_of_lastCount h] at hread
  split at hread
  · cases hread
  · next hn =>
    cases hread
    exact hn

/-- In a list that varies a knob and has passed the first pass, a frame count decides. -/
theorem exists_lastCount_of_vary {r : Ramp α} (hd : ofOperations ops = .ok d)
    (hr : .vary r ∈ ops) : ∃ count, LastCount ops count := by
  cases hlast : (ops.filterMap frameCount?).getLast? with
  | some count => exact ⟨count, getLast?_frameCount?_eq_some_iff.1 hlast⟩
  | none =>
    have hread := (ofOperations_ok_iff_read.1 hd).1
    rw [read_of_not_mem (getLast?_frameCount?_eq_none_iff.1 hlast),
      if_pos (any_ramp?_iff.2 ⟨r, hr⟩)] at hread
    cases hread

/-- What is read wrongly: a knob that is varied over no length, or else a frame count that is no
length. -/
theorem read_eq_error_iff : read ops = .error fault ↔
    ((∃ r, .vary r ∈ ops) ∧ (∀ c, .frames c ∉ ops) ∧ fault = .varyWithoutFrames) ∨
      ∃ count, LastCount ops count ∧ count.length? = none ∧
        fault = .naming count.integers (.badFrameCount count) := by
  constructor
  · intro h
    cases hlast : (ops.filterMap frameCount?).getLast? with
    | none =>
      have hnone := getLast?_frameCount?_eq_none_iff.1 hlast
      rw [read_of_not_mem hnone] at h
      split at h
      · next hany =>
        cases h
        exact .inl ⟨any_ramp?_iff.1 hany, hnone, rfl⟩
      · cases h
    | some count =>
      have hcount := getLast?_frameCount?_eq_some_iff.1 hlast
      rw [read_of_lastCount hcount] at h
      split at h
      · next hn =>
        cases h
        exact .inr ⟨count, hcount, hn, rfl⟩
      · cases h
  · rintro (⟨hany, hnone, rfl⟩ | ⟨count, hcount, hn, rfl⟩)
    · rw [read_of_not_mem hnone, if_pos (any_ramp?_iff.2 hany)]
    · rw [read_of_lastCount hcount, hn]

/-- A list that is read has at least one frame. Without a frame count it has one. -/
theorem read_eq_ok (h : read ops = .ok d) : 0 < d.frames ∧
    ((∃ count, LastCount ops count ∧ count.length? = some d.frames) ∨ d.frames = 1) := by
  cases hlast : (ops.filterMap frameCount?).getLast? with
  | some count =>
    have hcount := getLast?_frameCount?_eq_some_iff.1 hlast
    rw [read_of_lastCount hcount] at h
    split at h
    · cases h
    · next hn =>
      cases h
      exact ⟨FrameCount.length?_pos hn, .inl ⟨count, hcount, hn⟩⟩
  | none =>
    rw [read_of_not_mem (getLast?_frameCount?_eq_none_iff.1 hlast)] at h
    split at h
    · cases h
    · cases h
      exact ⟨Int.one_pos, .inr rfl⟩

/-- What the first pass finds: what is read wrongly, or else a frame count that is not written. -/
theorem ofOperations_eq_error_iff : ofOperations ops = .error fault ↔ read ops = .error fault ∨
    ∃ count n, LastCount ops count ∧ count.length? = some n ∧ Machine.writes n = false ∧
      fault = .tooLong := by
  rw [ofOperations_eq]
  constructor
  · intro h
    cases hread : read ops with
    | error fault' =>
      rw [hread] at h
      exact .inl h
    | ok d =>
      rw [hread] at h
      dsimp only at h
      split at h
      · cases h
      · next hwrites =>
        cases h
        refine .inr ?_
        rcases (read_eq_ok hread).2 with ⟨count, hcount, hn⟩ | hone
        · exact ⟨count, d.frames, hcount, hn, Bool.eq_false_iff.2 hwrites, rfl⟩
        · -- every machine writes that there is one frame
          have hone : Machine.writes d.frames = true :=
            Machine.writes_of_lt (k := 1) (by decide) (by decide) (by rw [hone]; decide)
          exact absurd hone hwrites
  · rintro (h | ⟨count, n, hcount, hn, hwrites, rfl⟩)
    · rw [h]
    · rw [read_of_lastCount hcount, hn]
      exact if_neg (Bool.eq_false_iff.1 hwrites)

/-- A list that the first pass takes has at least one frame. -/
theorem frames_pos (hd : ofOperations ops = .ok d) : 0 < d.frames :=
  (read_eq_ok (ofOperations_ok_iff_read.1 hd).1).1

end Directives

end SceneScript
