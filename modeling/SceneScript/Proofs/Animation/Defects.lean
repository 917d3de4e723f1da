import SceneScript.Proofs.Animation.Directives
import SceneScript.Proofs.Animation.Ramps

/-!
# What is wrong with directives

A list of operations cannot be animated if it varies a knob and gives no frame count, if its last
frame count is no length or is not written by the machine, or if one of its ramps does not fit the
frames (`Operation.Defect`). The first pass finds the defects of the frame count, the second one the
first ramp that does not fit (`Timeline.ofOperations_eq_error_iff`), and together they find all and
nothing else (`Operation.refused_iff_defect`).
-/

namespace SceneScript

namespace Operation

variable {α : Type} [Machine]

/-- What is wrong with the directives of a list, wherever they stand in it. -/
inductive Defect (ops : List (Operation α)) : Fault → Prop
  /-- A knob is varied, and there is no frame count. -/
  | lengthless : .vary r ∈ ops → (∀ c, .frames c ∉ ops) → Defect ops .varyWithoutFrames
  /-- The frame count is no length. -/
  | count : LastCount ops count → count.length? = none →
      Defect ops (.naming count.integers (.badFrameCount count))
  /-- The frame count is a length that the machine does not write. -/
  | tooLong : LastCount ops count → count.length? = some n → Machine.writes n = false →
      Defect ops .tooLong
  /-- A ramp does not fit the frames, and those before it do. -/
  | ramp : LastCount ops count → count.length? = some n → Machine.writes n = true →
      ops = before ++ .vary r :: after → (∀ r', .vary r' ∈ before → r'.Fits n) →
      r.fault? n = some fault → Defect ops fault

/-- What the first two passes stop at: a fault of the directives, or else one of the ramps. -/
inductive Refused [Scalar α] (ops : List (Operation α)) : Fault → Prop
  | directives : Directives.ofOperations ops = .error fault → Refused ops fault
  | ramps : Directives.ofOperations ops = .ok d →
      Timeline.ofOperations ops d.frames = .error fault → Refused ops fault

end Operation

namespace Timeline

variable {α : Type} [Machine] [Scalar α] {frames : Int} {fault : Fault}

/-- Ramps cannot be added if one is at fault, and the fault is that of the first such ramp. -/
theorem foldlM_addRamp_eq_error_iff {rs : List (Ramp α)} {t : Timeline α}
    (hs : (t.slots.size : Int) = frames) : rs.foldlM (addRamp frames) t = .error fault ↔
      ∃ before r after, rs = before ++ r :: after ∧ (∀ r' ∈ before, r'.fault? frames = none) ∧
        r.fault? frames = some fault := by
  constructor
  · intro h
    have hnot : ¬ ∀ r ∈ rs, r.fault? frames = none := by
      intro hfits
      obtain ⟨_, hfold, -⟩ := exists_foldlM_addRamp hfits hs
      cases h.symm.trans hfold
    obtain ⟨before, r, after, _, rfl, hbefore, hr⟩ := Ramp.exists_first_fault hnot
    cases h.symm.trans (foldlM_addRamp_of_fault hbefore hr hs)
    exact ⟨before, r, after, rfl, hbefore, hr⟩
  · rintro ⟨before, r, after, rfl, hbefore, hr⟩
    exact foldlM_addRamp_of_fault hbefore hr hs

/-- What the second pass finds when the machine writes the number of frames: the first ramp that does
not fit them. -/
theorem ofOperations_eq_error_iff {ops : List (Operation α)} (hframes : 0 ≤ frames)
    (hwrites : Machine.writes frames = true) :
    ofOperations ops frames = .error fault ↔ ∃ before r after, ops = before ++ .vary r :: after ∧
      (∀ r', .vary r' ∈ before → r'.Fits frames) ∧ r.fault? frames = some fault := by
  simp only [← Ramp.fault?_eq_none_iff_fits hwrites]
  obtain ⟨n, rfl⟩ := Int.eq_ofNat_of_zero_le hframes
  rw [ofOperations, foldlM_addRamp_eq_error_iff (size_empty n)]
  constructor
  · rintro ⟨before, r, after, hsplit, hbefore, hf⟩
    obtain ⟨front, back, rfl, rfl, hback⟩ := List.filterMap_eq_append_iff.1 hsplit
    obtain ⟨skipped, op, rest, rfl, hskipped, hop, -⟩ := List.filterMap_eq_cons_iff.1 hback
    obtain rfl : op = .vary r := by
      cases op with
      | vary => cases hop; rfl
      | _ => cases hop
    refine ⟨front ++ skipped, r, rest, by rw [List.append_assoc], fun r' hr' => ?_, hf⟩
    rcases List.mem_append.1 hr' with hr' | hr'
    · exact hbefore r' (mem_ramps.2 hr')
    · exact nomatch hskipped _ hr'
  · rintro ⟨before, r, after, rfl, hbefore, hf⟩
    refine ⟨ramps before, r, ramps after, ?_, fun r' hr' => hbefore r' (mem_ramps.1 hr'), hf⟩
    simp [ramps, Operation.ramp?]

end Timeline

namespace Operation

variable {α : Type} [Machine] {ops : List (Operation α)} {fault : Fault}

/-- The first pass stops at what is wrong with the frame count, and at nothing else. -/
theorem Defect.of_directives_error (h : Directives.ofOperations ops = .error fault) :
    Defect ops fault := by
  rcases Directives.ofOperations_eq_error_iff.1 h with hread | ⟨count, n, hcount, hn, hwrites, rfl⟩
  · rcases Directives.read_eq_error_iff.1 hread with ⟨⟨r, hr⟩, hnone, rfl⟩ |
      ⟨count, hcount, hn, rfl⟩
    · exact .lengthless hr hnone
    · exact .count hcount hn
  · exact .tooLong hcount hn hwrites

/-- The first two passes stop at what is wrong with the directives, and at nothing else. -/
theorem refused_iff_defect [Scalar α] : Refused ops fault ↔ Defect ops fault := by
  constructor
  · intro h
    cases h with
    | directives hd => exact .of_directives_error hd
    | @ramps d _ hd ht =>
      have hpos : 0 ≤ d.frames := (Directives.frames_pos hd).le
      have hwrites := Directives.writes_frames hd
      obtain ⟨before, r, after, hops, hbefore, hf⟩ :=
        (Timeline.ofOperations_eq_error_iff hpos hwrites).1 ht
      have hr : .vary r ∈ ops := by rw [hops]; simp
      obtain ⟨count, hcount⟩ := Directives.exists_lastCount_of_vary hd hr
      exact .ramp hcount (Directives.length?_of_ofOperations hd hcount) hwrites hops hbefore hf
  · intro h
    cases h with
    | lengthless hr hnone =>
      exact .directives (Directives.ofOperations_eq_error_iff.2
        (.inl (Directives.read_eq_error_iff.2 (.inl ⟨⟨_, hr⟩, hnone, rfl⟩))))
    | count hcount hn =>
      exact .directives (Directives.ofOperations_eq_error_iff.2
        (.inl (Directives.read_eq_error_iff.2 (.inr ⟨_, hcount, hn, rfl⟩))))
    | tooLong hcount hn hwrites =>
      exact .directives (Directives.ofOperations_eq_error_iff.2
        (.inr ⟨_, _, hcount, hn, hwrites, rfl⟩))
    | ramp hcount hn hwrites hops hbefore hf =>
      have hread := Directives.read_of_lastCount hcount
      rw [hn] at hread
      have hd := Directives.ofOperations_ok_iff_read.2 ⟨hread, hwrites⟩
      have hpos := (Directives.frames_pos hd).le
      exact .ramps hd ((Timeline.ofOperations_eq_error_iff hpos hwrites).2
        ⟨_, _, _, hops, hbefore, hf⟩)

end Operation

end SceneScript
