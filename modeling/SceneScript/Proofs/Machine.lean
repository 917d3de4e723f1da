import Mathlib.Algebra.Group.Nat.Defs
import SceneScript.Fault
import SceneScript.Word

/-!
# What a machine holds and writes

The bytes that there is room for are counted by words, with words to spare (`Machine.room_lt`).

An integer that is written in decimal has no more digits than the machine allows. A machine without
a bound writes all integers (`Machine.writes_of_digits?_eq_none`), and each machine writes those of
up to 640 digits (`Machine.writes_of_lt`). With an integer it writes all that are not further from
zero (`Machine.writes_mono`), so a text with several of them needs looking at the longest alone.
-/

namespace SceneScript

/-- A smaller number has no more digits. -/
theorem Decimal.length_toDigits_mono {m n : Nat} (h : m ≤ n) :
    (Nat.toDigits 10 m).length ≤ (Nat.toDigits 10 n).length := by
  have hpos : 0 < (Nat.toDigits 10 n).length := Nat.length_toDigits_pos
  have hn : n < 10 ^ (Nat.toDigits 10 n).length :=
    (Nat.length_toDigits_le_iff (by decide) hpos).1 (Nat.le_refl _)
  exact (Nat.length_toDigits_le_iff (by decide) hpos).2 (Nat.lt_of_le_of_lt h hn)

namespace Machine

variable [Machine] {m n : Int}

/-- The bytes that there is room for are far fewer than words count. -/
theorem room_lt : (room : Int) < greatestWord - 512 := by
  have h := room_le
  have hpow : 1 <<< 53 = 9007199254740992 := by decide
  unfold greatestWord
  omega

/-- A machine writes what is not further from zero than what it writes. -/
theorem writes_mono (h : m.natAbs ≤ n.natAbs) (hn : writes n = true) : writes m = true := by
  unfold writes at hn ⊢
  split
  · next most hmost =>
    rw [hmost] at hn
    have hn : (Nat.toDigits 10 n.natAbs).length ≤ most := of_decide_eq_true hn
    exact decide_eq_true (Nat.le_trans (Decimal.length_toDigits_mono h) hn)
  · rfl

/-- Every machine writes integers of up to 640 digits. -/
theorem writes_of_lt {k : Nat} (hpos : 0 < k) (hk : k ≤ 640) (h : n.natAbs < 10 ^ k) :
    writes n = true := by
  unfold writes
  split
  · next most hmost =>
    have hlen : (Nat.toDigits 10 n.natAbs).length ≤ k :=
      (Nat.length_toDigits_le_iff (by decide) hpos).2 h
    exact decide_eq_true (Nat.le_trans hlen (Nat.le_trans hk (le_digits most hmost)))
  · rfl

end Machine

namespace Fault

variable [Machine] {ns : List Int} {f : Fault}

/-- What a machine does not write is a fault of a value. -/
@[simp] theorem kind_tooLong : tooLong.kind = .value := rfl

/-- A fault stays what it is if the machine writes the integers in its wording. -/
theorem naming_of_writes (h : ∀ n ∈ ns, Machine.writes n = true) : naming ns f = f :=
  if_pos (List.all_eq_true.2 h)

/-- A fault whose wording cannot be written is another one. -/
theorem naming_of_not_writes (h : ¬ ∀ n ∈ ns, Machine.writes n = true) : naming ns f = tooLong :=
  if_neg fun hall => h (List.all_eq_true.1 hall)

/-- A fault is of its family, or it cannot be written. -/
theorem naming_eq_or (ns : List Int) (f : Fault) :
    ((∀ n ∈ ns, Machine.writes n = true) ∧ naming ns f = f) ∨
      ((¬ ∀ n ∈ ns, Machine.writes n = true) ∧ naming ns f = tooLong) := by
  by_cases h : ∀ n ∈ ns, Machine.writes n = true
  · exact .inl ⟨h, naming_of_writes h⟩
  · exact .inr ⟨h, naming_of_not_writes h⟩

end Fault

end SceneScript
