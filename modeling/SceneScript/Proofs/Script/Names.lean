import SceneScript.Proofs.Animation.Ramps
import SceneScript.Proofs.Script.Grammar

/-!
# The names of a script

A name has a value in the first frame of a script when it is one of the initial knobs or a ramp
starts there (`Timeline.Defines`), and it keeps one in all later frames (`Timeline.Gives.isSome`).
For a script that was read from a text these are the names of its `vary` and `set` lines
(`Script.defines_iff`): a `vary` declares its knob, and nothing takes a knob away.
-/

namespace SceneScript

/-- Whether a name has a value in the first frame: it is one of the initial knobs, or the timeline
binds it there. -/
def Timeline.Defines {α : Type} (t : Timeline α) (initial : Knobs α) (name : String) : Prop :=
  (initial.lookup? name).isSome = true ∨ (t.bound? 0 name).isSome = true

namespace Timeline

variable {α : Type} {t : Timeline α} {initial : Knobs α} {frames : Nat} {name : String}
  {v : Option α}

/-- A name that has a value in the first frame has one in each frame. -/
theorem Gives.isSome (h : t.Gives initial (frames + 1) name v) (hd : t.Defines initial name) :
    v.isSome = true := by
  cases h with
  | bound => rfl
  | initial hnone =>
    rcases hd with hd | hd
    · exact hd
    · rw [hnone 0 (Nat.succ_pos frames)] at hd
      cases hd

/-- In the first frame no other name has a value. -/
theorem Gives.defines (h : t.Gives initial 1 name v) (hv : v.isSome = true) :
    t.Defines initial name := by
  cases h with
  | @bound frame v hlt hb =>
    obtain rfl : frame = 0 := by omega
    exact .inr (by rw [hb]; rfl)
  | initial => exact .inl hv

/-- What a timeline binds in a frame is the knob of a ramp that covers the frame. -/
theorem exists_ramp_of_bound? [Scalar α] {ops : List (Operation α)} {frames : Int}
    (hf : 0 ≤ frames) (ht : ofOperations ops frames = .ok t) {frame : Nat}
    (hb : (t.bound? frame name).isSome = true) : ∃ r, .vary r ∈ ops ∧ r.Covers name frame := by
  obtain ⟨n, rfl⟩ := Int.eq_ofNat_of_zero_le hf
  by_cases hfits : ∀ r ∈ ramps ops, r.fault? n = none
  · obtain ⟨t', ht', -, hbound⟩ := exists_foldlM_addRamp hfits (size_empty n)
    cases ht'.symm.trans ht
    rw [hbound, bound?_empty, isSome_overlay] at hb
    obtain ⟨r, hr, hcov⟩ | hnone := hb
    · exact ⟨r, mem_ramps.1 hr, hcov⟩
    · cases hnone
  · obtain ⟨_, -, fault, hfault, -⟩ := foldlM_addRamp_of_not_all hfits (size_empty (α := α) n)
    cases hfault.symm.trans ht

end Timeline

/-- The name that a statement makes known: that of a `vary` or of a `set`. -/
inductive Statement.Names : Statement → String → Prop
  | vary : Names (.perform (.vary r)) r.knob
  | set : Names (.set name value) name

namespace Knobs

variable {α : Type} {k : Knobs α} {name other : String}

/-- A knob has a value once it is declared, and the others keep theirs. -/
theorem isSome_lookup?_declare {value : α} :
    ((k.declare other value).lookup? name).isSome = true ↔
      other = name ∨ (k.lookup? name).isSome = true := by
  unfold declare
  split
  · next hc =>
    constructor
    · exact .inr
    · rintro (rfl | h)
      · exact hc
      · exact h
  · rw [lookup?_set]
    split
    · next h => simp [h]
    · next h => simp [h]

/-- Giving all knobs one value gives no other knob one. -/
theorem isSome_lookup?_setAll {value : α} :
    ((k.setAll value).lookup? name).isSome = (k.lookup? name).isSome := by
  simp only [lookup?, setAll, List.find?_map, Option.isSome_map, Function.comp_def]

end Knobs

namespace Statement

variable {k : Knobs Float} {name : String}

/-- The knobs behind a statement are those before and the one that it names. -/
theorem isSome_lookup?_apply {s : Statement} :
    ((s.apply k).lookup? name).isSome = true ↔
      s.Names name ∨ (k.lookup? name).isSome = true := by
  have hquiet (hs : ∀ name, ¬ s.Names name) (happly : s.apply k = k) :
      ((s.apply k).lookup? name).isSome = true ↔
        s.Names name ∨ (k.lookup? name).isSome = true := by
    rw [happly]
    exact ⟨.inr, fun h => h.resolve_left (hs name)⟩
  cases s with
  | blank => exact hquiet nofun rfl
  | setAll value =>
    rw [apply, Knobs.isSome_lookup?_setAll]
    exact ⟨.inr, fun h => h.resolve_left nofun⟩
  | set other value =>
    rw [apply, Knobs.lookup?_set]
    constructor
    · intro h
      split at h
      · next hn => exact .inl (hn ▸ .set)
      · exact .inr h
    · rintro (h | h)
      · cases h
        rw [if_pos rfl]
        rfl
      · split
        · rfl
        · exact h
  | perform op =>
    cases op with
    | vary r =>
      rw [apply, Knobs.isSome_lookup?_declare]
      constructor
      · rintro (hn | h)
        · exact .inl (hn ▸ .vary)
        · exact .inr h
      · rintro (h | h)
        · cases h
          exact .inl rfl
        · exact .inr h
    | _ => exact hquiet nofun rfl

/-- The knobs of a script are those that its statements name. -/
theorem isSome_lookup?_foldl {ss : List Statement} :
    ((ss.foldl (fun knobs s => s.apply knobs) k).lookup? name).isSome = true ↔
      (∃ s ∈ ss, s.Names name) ∨ (k.lookup? name).isSome = true := by
  induction ss generalizing k with
  | nil => simp
  | cons s ss ih =>
    rw [List.foldl_cons, ih, isSome_lookup?_apply, List.exists_mem_cons_iff, or_left_comm, or_assoc]

end Statement

/-- The names that have a value in the first frame of a script are those of its `vary` and `set`
lines. -/
theorem Script.defines_iff {text : String} {script : Script} (h : Script.ofText text = .ok script)
    {frames : Int} (hf : 0 ≤ frames) {t : Timeline Float}
    (ht : Timeline.ofOperations script.operations frames = .ok t) :
    ∃ ls ss, Text.IsLines text.toList ls ∧ List.Forall₂ Line ls ss ∧
      ∀ name, t.Defines script.knobs name ↔ ∃ s ∈ ss, s.Names name := by
  obtain ⟨ss, hss, rfl⟩ := except_map_ok.1 h
  refine ⟨_, ss, Text.lines_eq_iff.1 rfl, statementsFrom_ok.1 hss, fun name => ?_⟩
  have hknobs : ((ofStatements ss).knobs.lookup? name).isSome = true ↔
      (∃ s ∈ ss, s.Names name) ∨ ((.empty : Knobs Float).lookup? name).isSome = true :=
    Statement.isSome_lookup?_foldl
  rw [Timeline.Defines, hknobs]
  constructor
  · rintro ((h | h) | h)
    · exact h
    · cases h
    · obtain ⟨r, hr, rfl, -⟩ := Timeline.exists_ramp_of_bound? hf ht h
      obtain ⟨s, hs, hop⟩ := List.mem_filterMap.1 hr
      cases s with
      | perform op => cases hop; exact ⟨_, hs, .vary⟩
      | _ => cases hop
  · exact fun h => .inl (.inl h)

end SceneScript
