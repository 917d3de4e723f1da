import SceneScript.Proofs.Animation.Defects
import SceneScript.Proofs.Script.Grammar

/-!
# The integers of a script

The integers of a script are the number of its frames and the ends of its ramps. In a text they are
spelled as numbers, and a number is a double, so none of them has more than 309 digits
(`Text.natAbs_integer?_lt`). Every machine writes them (`Script.writes_integers`). So what the
first two passes find wrong with a script that is read from a text is always a fault of the script
(`Operation.Defect.isScriptFault`).
-/

namespace SceneScript

/-- A finite double has 53 binary digits, and the last of them is worth `2 ^ 971` at most. -/
theorem Binary64.ofFloat_bounds {x : Float} {negative : Bool} {significand : Nat} {exponent : Int}
    (h : ofFloat x = .finite negative significand exponent) :
    significand < 2 ^ 53 ∧ exponent ≤ 971 := by
  have hfull : fullSignificand = 2 ^ 52 := rfl
  have hfraction : x.toBits.toNat % fullSignificand < fullSignificand :=
    Nat.mod_lt _ (by rw [hfull]; exact Nat.two_pow_pos 52)
  have hscale : x.toBits.toNat >>> 52 % 2048 < 2048 := Nat.mod_lt _ (by decide)
  unfold ofFloat at h
  dsimp only at h
  split at h
  · split at h <;> cases h
  · next hfinite =>
    have hne : x.toBits.toNat >>> 52 % 2048 ≠ 2047 := fun heq => hfinite (beq_iff_eq.2 heq)
    split at h
    · cases h
      exact ⟨by omega, by decide⟩
    · cases h
      refine ⟨by omega, ?_⟩
      unfold leastExponent
      omega

/-- The integer that a double holds has at most 1024 binary digits. -/
theorem Binary64.natAbs_whole?_lt {x : Float} {n : Int} (h : (ofFloat x).whole? = some n) :
    n.natAbs < 2 ^ 1024 := by
  cases hx : ofFloat x with
  | nan | infinite => rw [hx] at h; cases h
  | finite negative significand exponent =>
    obtain ⟨hsignificand, hexponent⟩ := ofFloat_bounds hx
    rw [hx, whole?, quotient] at h
    dsimp only at h
    split at h
    · have habs : n.natAbs =
          significand <<< exponent.toNat / 1 <<< (-exponent).toNat := by
        cases negative with
        | false => cases h; rfl
        | true => cases h; exact Int.natAbs_neg _
      have hpow : 2 ^ exponent.toNat ≤ 2 ^ 971 :=
        pow_le_pow_right₀ one_le_two (Int.toNat_le.2 hexponent)
      calc n.natAbs ≤ significand <<< exponent.toNat := habs ▸ Nat.div_le_self _ _
        _ = significand * 2 ^ exponent.toNat := Nat.shiftLeft_eq _ _
        _ ≤ significand * 2 ^ 971 := Nat.mul_le_mul_left _ hpow
        _ < 2 ^ 53 * 2 ^ 971 := Nat.mul_lt_mul_of_pos_right hsignificand (pow_pos two_pos 971)
        _ = 2 ^ 1024 := by rw [← pow_add]
    · cases h

/-- The integers of a text have at most 309 digits. -/
theorem Text.natAbs_integer?_lt {word : String} {n : Int} (h : integer? word = some n) :
    n.natAbs < 10 ^ 309 := by
  obtain ⟨x, -, hx⟩ := Option.bind_eq_some_iff.1 h
  exact Nat.lt_trans (Binary64.natAbs_whole?_lt hx) (by decide +kernel)

/-- The integers of an operation. -/
def Operation.integers {α : Type} : Operation α → List Int
  | .frames count => count.integers
  | .vary r => [r.start, r.stop]
  | _ => []

/-- Every machine writes the integers in what a line says. -/
theorem Sentence.writes_integers [Machine] {command : Keyword} {args : List String}
    {op : Operation Float} (h : Sentence command args (.perform op)) :
    ∀ n ∈ op.integers, Machine.writes n = true := by
  have hwrites {word : String} {n : Int} (hn : Text.integer? word = some n) :
      Machine.writes n = true :=
    Machine.writes_of_lt (k := 309) (by decide) (by decide) (Text.natAbs_integer?_lt hn)
  cases h with
  | frames hn => exact List.forall_mem_singleton.2 (hwrites hn)
  | vary _ hstart hstop =>
    exact List.forall_mem_cons.2 ⟨hwrites hstart, List.forall_mem_singleton.2 (hwrites hstop)⟩
  | _ => exact List.forall_mem_nil _

/-- Every machine writes the integers of a script that is read from a text. -/
theorem Script.writes_integers [Machine] {text : String} {script : Script}
    (h : ofText text = .ok script) :
    ∀ op ∈ script.operations, ∀ n ∈ op.integers, Machine.writes n = true := by
  obtain ⟨ss, hss, rfl⟩ := except_map_ok.1 h
  have hadd : LinesAdd (Text.lines text.toList) (ofStatements ss).operations :=
    (linesAdd_iff (statementsFrom_ok.1 hss)).2 rfl
  generalize Text.lines text.toList = ls, (ofStatements _).operations = ops at hadd ⊢
  induction hadd with
  | nil => exact List.forall_mem_nil _
  | blank _ _ ih | set _ _ ih | setknobs _ _ ih => exact ih
  | operation hline _ ih =>
    obtain ⟨_, _, -, -, hsay⟩ := hline
    cases hsay with
    | command _ hs => exact List.forall_mem_cons.2 ⟨hs.writes_integers, ih⟩

/-- What is wrong with directives whose integers the machine writes is a fault of the script. -/
theorem Operation.Defect.isScriptFault {α : Type} [Machine] {ops : List (Operation α)}
    {fault : Fault} (hwrites : ∀ op ∈ ops, ∀ n ∈ op.integers, Machine.writes n = true)
    (h : Defect ops fault) : fault.isScriptFault = true := by
  cases h with
  | lengthless => rfl
  | count hcount _ =>
    have hcount : ∀ n ∈ FrameCount.integers _, Machine.writes n = true := hwrites _ hcount.mem
    rw [Fault.naming_of_writes hcount]
    rfl
  | tooLong hcount hn hnot =>
    obtain ⟨rfl, -⟩ := FrameCount.length?_eq_some_iff.1 hn
    cases hnot.symm.trans (hwrites _ hcount.mem _ (List.mem_singleton.2 rfl))
  | ramp hcount hn hframes hops _ hfault =>
    rcases Ramp.spec_of_fault? hfault with ⟨hkind, -⟩ | ⟨-, hnot⟩
    · rw [Fault.isScriptFault, hkind]
    · have hr := hwrites _ (by rw [hops]; exact List.mem_append_cons_self)
      have hpos := FrameCount.length?_pos hn
      exact absurd ⟨hr _ (by simp [integers]), hr _ (by simp [integers]),
        Machine.writes_mono (by omega) hframes⟩ hnot

end SceneScript
