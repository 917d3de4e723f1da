import SceneScript.Animation.Timeline

/-!
# Looking up knobs

What a name is bound to after knobs are merged, and in which frames a timeline binds it. `Gives`
says what that makes of the knobs when the frames are gone through in order.
-/

namespace SceneScript

variable {α : Type}

namespace Knobs

/-- Setting names one after another binds each of them to its value, and leaves the others. -/
theorem lookup?_foldl_set {es : List (String × α)} (k : Knobs α) (name : String)
    (hn : (es.map (·.1)).Nodup) :
    (es.foldl (fun k e => k.set e.1 e.2) k).lookup? name =
      ((es.find? (·.1 = name)).map (·.2)).or (k.lookup? name) := by
  induction es generalizing k with
  | nil => simp
  | cons e es ih =>
    obtain ⟨n, v⟩ := e
    rw [List.map_cons, List.nodup_cons] at hn
    obtain ⟨hne, hn⟩ := hn
    rw [List.foldl_cons, ih _ hn, lookup?_set]
    by_cases h : n = name
    · subst h
      have hnone : es.find? (fun e => decide (e.1 = n)) = none := by
        simp only [List.find?_eq_none, decide_eq_true_eq]
        intro e he hen
        exact hne (List.mem_map.2 ⟨e, he, hen⟩)
      simp [hnone]
    · simp [h]

/-- Merged knobs have the values of the second where it has one, and else those of the first. -/
theorem lookup?_merge (k other : Knobs α) (name : String) :
    (k.merge other).lookup? name = (other.lookup? name).or (k.lookup? name) :=
  lookup?_foldl_set k name other.nodup

end Knobs

namespace Timeline

/-- The value that a timeline binds a name to in a frame, if it binds it there. -/
def bound? (t : Timeline α) (frame : Nat) (name : String) : Option α :=
  (t.slots[frame]?).bind (·.lookup? name)

/-- The value of a name after the first frames of a timeline: that of the last of these frames that
binds the name, and the initial one if none of them does. -/
inductive Gives (t : Timeline α) (initial : Knobs α) (frames : Nat) (name : String) :
    Option α → Prop
  | bound : frame < frames → t.bound? frame name = some v →
      (∀ later, frame < later → later < frames → t.bound? later name = none) →
      Gives t initial frames name (some v)
  | initial : (∀ frame < frames, t.bound? frame name = none) →
      Gives t initial frames name (initial.lookup? name)

/-- There is one such value. -/
theorem Gives.unique {t : Timeline α} {initial : Knobs α} {frames : Nat} {name : String}
    {v v' : Option α} (h : t.Gives initial frames name v) (h' : t.Gives initial frames name v') :
    v = v' := by
  cases h with
  | @bound frame _ hlt hv hlast =>
    cases h' with
    | @bound frame' _ hlt' hv' hlast' =>
      rcases Nat.lt_trichotomy frame frame' with hff | rfl | hff
      · rw [hlast _ hff hlt'] at hv'
        cases hv'
      · exact hv.symm.trans hv'
      · rw [hlast' _ hff hlt] at hv
        cases hv
    | initial hnone =>
      rw [hnone _ hlt] at hv
      cases hv
  | initial hnone =>
    cases h' with
    | bound hlt hv =>
      rw [hnone _ hlt] at hv
      cases hv
    | initial => rfl

/-- One more frame gives the names that it binds their values. -/
theorem Gives.next {t : Timeline α} {initial : Knobs α} {frames : Nat} {name : String}
    {v : Option α} (h : t.Gives initial frames name v) :
    t.Gives initial (frames + 1) name ((t.bound? frames name).or v) := by
  cases hb : t.bound? frames name with
  | some v' => exact .bound (Nat.lt_succ_self _) hb fun later hl hl' => by omega
  | none =>
    have hnot : ∀ frame, frame < frames + 1 → frame < frames ∨ frame = frames := by omega
    cases h with
    | bound hlt hv hlast =>
      refine .bound (Nat.lt_succ_of_lt hlt) hv fun later hl hl' => ?_
      rcases hnot later hl' with hl' | rfl
      · exact hlast later hl hl'
      · exact hb
    | initial hnone =>
      refine .initial fun frame hl => ?_
      rcases hnot frame hl with hl | rfl
      · exact hnone frame hl
      · exact hb

/-- A frame of a timeline has a slot. -/
theorem slot?_of_lt {t : Timeline α} {frame : Nat} (h : frame < t.slots.size) :
    t.slot? frame = .ok ⟨frame, h⟩ := by
  have hneg : ¬ (frame : Int) < 0 := by omega
  have hin : 0 ≤ (frame : Int) ∧ (frame : Int) < t.slots.size := by omega
  simp [slot?, hneg, hin]

/-- The values of a frame are there if the timeline has the frame. -/
theorem bindings_of_lt {t : Timeline α} {frame : Nat} (h : frame < t.slots.size) :
    t.bindings frame = .ok t.slots[frame] := by
  rw [bindings, slot?_of_lt h]
  rfl

/-- The values of a frame are those that the timeline binds there. -/
theorem bound?_of_lt {t : Timeline α} {frame : Nat} {name : String} (h : frame < t.slots.size) :
    t.bound? frame name = t.slots[frame].lookup? name := by
  simp [bound?, h]

/-- One more value does not change the number of frames. -/
theorem size_bind {t t' : Timeline α} {frame : Int} {knob : String} {v : α}
    (h : t.bind frame knob v = .ok t') : t'.slots.size = t.slots.size := by
  unfold bind at h
  cases hs : t.slot? frame with
  | error e => rw [hs] at h; cases h
  | ok i => rw [hs] at h; cases h; exact Array.size_modify

/-- The values of a ramp do not change the number of frames. -/
theorem size_bindAll {knob : String} {vs : List α} {frame : Int} {t t' : Timeline α}
    (h : bindAll knob frame vs t = .ok t') : t'.slots.size = t.slots.size := by
  induction vs generalizing frame t with
  | nil => cases h; rfl
  | cons v vs ih =>
    unfold bindAll at h
    cases hb : t.bind frame knob v with
    | error e => rw [hb] at h; cases h
    | ok t₁ => rw [hb] at h; exact (ih h).trans (size_bind hb)

variable [Scalar α]

/-- A ramp does not change the number of frames. -/
theorem size_addRamp {frames : Int} {r : Ramp α} {t t' : Timeline α}
    (h : addRamp frames t r = .ok t') : t'.slots.size = t.slots.size := by
  unfold addRamp at h
  cases hf : r.fault? frames with
  | some fault => rw [hf] at h; cases h
  | none =>
    rw [hf] at h
    cases hs : r.samples with
    | error e => rw [hs] at h; cases h
    | ok vs => rw [hs] at h; exact size_bindAll h

/-- The timeline of an operation list has the frames that it is made for. -/
theorem size_ofOperations {ops : List (Operation α)} {frames : Int} {t : Timeline α}
    (h : ofOperations ops frames = .ok t) : t.slots.size = frames.toNat := by
  have hfold : ∀ (rs : List (Ramp α)) (t₀ : Timeline α), rs.foldlM (addRamp frames) t₀ = .ok t →
      t.slots.size = t₀.slots.size := by
    intro rs
    induction rs with
    | nil => intro t₀ h; cases h; rfl
    | cons r rs ih =>
      intro t₀ h
      rw [List.foldlM_cons] at h
      cases hr : addRamp frames t₀ r with
      | error e => rw [hr] at h; cases h
      | ok t₁ => rw [hr] at h; exact (ih t₁ h).trans (size_addRamp hr)
  exact (hfold _ _ h).trans Array.size_replicate

end Timeline

end SceneScript
