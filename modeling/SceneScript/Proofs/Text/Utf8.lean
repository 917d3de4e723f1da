import Mathlib.Data.List.TakeWhile
import Mathlib.Tactic.SplitIfs
import SceneScript.Text.Utf8

/-!
# Which bytes are a text

Bytes are read as a text exactly if they are the text's UTF-8 (`Text.decode_ok_iff`). The bytes
behind the first one of a character follow it (`Follows`): they continue characters, and the second
one is in the range that the first one leaves to it. So a first byte with those that follow it is
one character, and a character is written so (`charAt_ok_iff`).
-/

namespace SceneScript.Text

variable {first b : UInt8} {size : Nat} {c : Char} {tail rest bytes : List UInt8}

/-- The continuation bytes. -/
theorem isContinuation_iff :
    isContinuation b = true ↔ 128 ≤ b.toNat ∧ b.toNat < 192 := by
  simp [isContinuation, UInt8.le_iff_toNat_le, UInt8.lt_iff_toNat_lt]

/-- The second bytes. -/
theorem isSecond_iff : isSecond first b = true ↔ (128 ≤ b.toNat ∧ b.toNat < 192) ∧
    (first.toNat = 0xe0 → 0xa0 ≤ b.toNat) ∧ (first.toNat = 0xed → b.toNat < 0xa0) ∧
    (first.toNat = 0xf0 → 0x90 ≤ b.toNat) ∧ (first.toNat = 0xf4 → b.toNat < 0x90) := by
  simp [isSecond, isContinuation_iff, UInt8.le_iff_toNat_le, UInt8.lt_iff_toNat_lt,
    ← UInt8.toNat_inj, or_iff_not_imp_left, and_assoc]

/-- The first bytes of characters of each size. -/
theorem sizeOf?_eq_some_iff : sizeOf? first = some size ↔
    (size = 1 ∧ first.toNat < 0x80) ∨ (size = 2 ∧ 0xc2 ≤ first.toNat ∧ first.toNat < 0xe0) ∨
    (size = 3 ∧ 0xe0 ≤ first.toNat ∧ first.toNat < 0xf0) ∨
    (size = 4 ∧ 0xf0 ≤ first.toNat ∧ first.toNat < 0xf5) := by
  simp only [sizeOf?, UInt8.lt_iff_toNat_lt, UInt8.reduceToNat]
  split_ifs <;> simp <;> omega

/-- The bytes that may stand behind the first byte of a character, up to its end or before it. -/
def Follows (first : UInt8) : List UInt8 → Prop
  | [] => True
  | b :: more => isSecond first b = true ∧ ∀ b' ∈ more, isContinuation b' = true

/-- The code point of a character with the given bytes. -/
def codePoint (first : UInt8) (tail : List UInt8) : Nat :=
  tail.foldl (fun c b => c * 64 + payload b) (leading first (tail.length + 1))

/-- Bytes fit if they follow. -/
theorem fitting_append (h : Follows first tail) :
    fitting first (tail.length + 1) (tail ++ rest) = tail.length := by
  rw [fitting, Nat.add_sub_cancel, List.take_left]
  cases tail with
  | nil => rfl
  | cons b more =>
    simp only [h.1, if_true, List.takeWhile_eq_self_iff.2 h.2, List.length_cons, Nat.add_comm]

/-- As many bytes as a character needs fit only if they follow. -/
theorem exists_follows_of_fitting (h : fitting first size rest + 1 = size) :
    ∃ tail rest', rest = tail ++ rest' ∧ tail.length + 1 = size ∧ Follows first tail := by
  refine ⟨rest.take (size - 1), rest.drop (size - 1), (List.take_append_drop ..).symm, ?_⟩
  have hlen : (rest.take (size - 1)).length ≤ size - 1 := List.length_take_le ..
  unfold fitting at h
  generalize rest.take (size - 1) = tail at h hlen
  cases tail with
  | nil => exact ⟨h, trivial⟩
  | cons b more =>
    dsimp only at h
    have hle := (List.takeWhile_prefix isContinuation (l := more)).length_le
    rw [List.length_cons] at hlen ⊢
    split at h
    · next hb =>
      have heq : more.takeWhile isContinuation = more :=
        (List.takeWhile_prefix _).eq_of_length (by omega)
      exact ⟨by omega, hb, List.takeWhile_eq_self_iff.1 heq⟩
    · omega

/-- A character at the front of bytes is a first byte with as many bytes as it needs behind it. -/
theorem charAt_ok_iff_codePoint : charAt first rest = .ok (c, size) ↔ ∃ tail rest',
    rest = tail ++ rest' ∧ size = tail.length + 1 ∧ sizeOf? first = some size ∧
    Follows first tail ∧ c = Char.ofNat (codePoint first tail) := by
  constructor
  · intro h
    unfold charAt at h
    split at h
    · cases h
    · next n hn =>
      dsimp only at h
      split_ifs at h with hfit
      obtain ⟨tail, rest', rfl, rfl, hfollows⟩ := exists_follows_of_fitting hfit
      rw [fitting_append hfollows, List.take_left] at h
      cases h
      exact ⟨tail, rest', rfl, rfl, hn, hfollows, rfl⟩
  · rintro ⟨tail, rest', rfl, rfl, hn, hfollows, rfl⟩
    unfold charAt
    rw [hn]
    dsimp only
    rw [fitting_append hfollows, if_pos rfl, List.take_left]
    rfl

/-! ## One character -/

/-- A valid code point is that of its character. -/
theorem toNat_ofNat {n : Nat} (h : n.isValidChar) : (Char.ofNat n).val.toNat = n := by
  rw [Char.ofNat, dif_pos h]
  rfl

/-- The bytes that a character is written with are those of its code point. -/
theorem codePoint_of_utf8EncodeChar (h : String.utf8EncodeChar c = first :: tail) :
    sizeOf? first = some (tail.length + 1) ∧ Follows first tail ∧
      codePoint first tail = c.val.toNat := by
  have hv : c.val.toNat.isValidChar := c.valid
  unfold Nat.isValidChar at hv
  unfold String.utf8EncodeChar at h
  dsimp only at h
  generalize c.val.toNat = v at h hv
  -- one case for each number of bytes
  split_ifs at h
  all_goals
    cases h
    simp [sizeOf?_eq_some_iff, Follows, isSecond_iff, isContinuation_iff, codePoint, leading,
      payload]
    omega

/-- A character is written with the bytes that its code point is read from. -/
theorem utf8EncodeChar_ofNat (hn : sizeOf? first = some (tail.length + 1))
    (hfollows : Follows first tail) :
    String.utf8EncodeChar (Char.ofNat (codePoint first tail)) = first :: tail := by
  rw [sizeOf?_eq_some_iff] at hn
  unfold String.utf8EncodeChar
  rcases tail with _ | ⟨b, _ | ⟨b', _ | ⟨b'', _ | ⟨b₃, more⟩⟩⟩⟩ <;>
    simp only [List.length_cons, List.length_nil] at hn
  · have hv : codePoint first [] = first.toNat := rfl
    rw [toNat_ofNat (.inl (by omega)), hv]
    dsimp only
    rw [if_pos (by omega), UInt8.ofNat_toNat]
  · have hv : codePoint first [b] = first.toNat % 32 * 64 + b.toNat % 64 := rfl
    have hb := isSecond_iff.1 hfollows.1
    rw [toNat_ofNat (.inl (by omega)), hv]
    dsimp only
    rw [if_neg (by omega), if_pos (by omega)]
    simp only [List.cons.injEq, ← UInt8.toNat_inj, UInt8.toNat_ofNat', and_true]
    omega
  · have hv : codePoint first [b, b'] =
      (first.toNat % 16 * 64 + b.toNat % 64) * 64 + b'.toNat % 64 := rfl
    have hb := isSecond_iff.1 hfollows.1
    have hb' := isContinuation_iff.1 (hfollows.2 b' (by simp))
    have hvalid : (codePoint first [b, b']).isValidChar := by
      unfold Nat.isValidChar
      omega
    rw [toNat_ofNat hvalid, hv]
    dsimp only
    rw [if_neg (by omega), if_neg (by omega), if_pos (by omega)]
    simp only [List.cons.injEq, ← UInt8.toNat_inj, UInt8.toNat_ofNat', and_true]
    omega
  · have hv : codePoint first [b, b', b''] =
      ((first.toNat % 8 * 64 + b.toNat % 64) * 64 + b'.toNat % 64) * 64 + b''.toNat % 64 := rfl
    have hb := isSecond_iff.1 hfollows.1
    have hb' := isContinuation_iff.1 (hfollows.2 b' (by simp))
    have hb'' := isContinuation_iff.1 (hfollows.2 b'' (by simp))
    have hvalid : (codePoint first [b, b', b'']).isValidChar := by
      unfold Nat.isValidChar
      omega
    rw [toNat_ofNat hvalid, hv]
    dsimp only
    rw [if_neg (by omega), if_neg (by omega), if_neg (by omega)]
    simp only [List.cons.injEq, ← UInt8.toNat_inj, UInt8.toNat_ofNat', and_true]
    omega
  · omega

/-- A character is read at the front of bytes exactly if they begin with the bytes that it is
written with. -/
theorem charAt_ok_iff : charAt first rest = .ok (c, size) ↔ ∃ tail rest', rest = tail ++ rest' ∧
    size = tail.length + 1 ∧ String.utf8EncodeChar c = first :: tail := by
  rw [charAt_ok_iff_codePoint]
  constructor
  · rintro ⟨tail, rest', rfl, rfl, hn, hfollows, rfl⟩
    exact ⟨tail, rest', rfl, rfl, utf8EncodeChar_ofNat hn hfollows⟩
  · rintro ⟨tail, rest', rfl, rfl, h⟩
    obtain ⟨hn, hfollows, hv⟩ := codePoint_of_utf8EncodeChar h
    exact ⟨tail, rest', rfl, rfl, hn, hfollows, by rw [hv]; exact (Char.ofNat_toNat c).symm⟩

/-! ## All characters -/

variable {position : Nat} {before cs : List Char} {fault : Fault}

/-- The bytes behind the first one of a character are gone past. -/
theorem decodeFrom_skip : decodeFrom position tail.length before (tail ++ rest) =
    decodeFrom (position + tail.length) 0 before rest := by
  induction tail generalizing position with
  | nil => rfl
  | cons b tail ih =>
    rw [List.length_cons, List.cons_append, decodeFrom, ih, Nat.add_assoc, Nat.add_comm 1]

/-- Reading goes on behind a character. -/
theorem decodeFrom_of_utf8EncodeChar (h : String.utf8EncodeChar c = first :: tail) :
    decodeFrom position 0 before (first :: (tail ++ rest)) =
      decodeFrom (position + 1 + tail.length) 0 (c :: before) rest := by
  have hc : charAt first (tail ++ rest) = .ok (c, tail.length + 1) :=
    charAt_ok_iff.2 ⟨tail, rest, rfl, rfl, h⟩
  rw [decodeFrom, hc]
  exact decodeFrom_skip

/-- The bytes of characters are read as the characters. -/
theorem decodeFrom_flatMap : decodeFrom position 0 before (cs.flatMap String.utf8EncodeChar) =
    .ok (before.reverse ++ cs) := by
  induction cs generalizing position before with
  | nil => simp [decodeFrom]
  | cons c cs ih =>
    obtain ⟨first, tail, h⟩ : ∃ first tail, String.utf8EncodeChar c = first :: tail := by
      apply List.exists_cons_of_length_pos
      rw [String.length_utf8EncodeChar]
      exact c.utf8Size_pos
    rw [List.flatMap_cons, h, List.cons_append, decodeFrom_of_utf8EncodeChar h, ih,
      List.reverse_cons, List.append_assoc, List.singleton_append]

/-- What is read as characters are their bytes, behind those of the character before. -/
theorem eq_flatMap_of_decodeFrom_ok {skip : Nat}
    (h : decodeFrom position skip before bytes = .ok cs) :
    ∃ cs', cs = before.reverse ++ cs' ∧ bytes.drop skip = cs'.flatMap String.utf8EncodeChar := by
  induction bytes generalizing position skip before with
  | nil =>
    cases h
    exact ⟨[], (List.append_nil _).symm, List.drop_nil⟩
  | cons b rest ih =>
    cases skip with
    | succ skip => exact ih h
    | zero =>
      rw [decodeFrom] at h
      split at h
      · next c size hc =>
        obtain ⟨tail, rest, rfl, rfl, hchar⟩ := charAt_ok_iff.1 hc
        obtain ⟨cs', rfl, hrest⟩ := ih h
        rw [Nat.add_sub_cancel, List.drop_left] at hrest
        refine ⟨c :: cs', by simp, ?_⟩
        rw [List.flatMap_cons, hchar, ← hrest]
        rfl
      · cases h

/-- What is wrong with bytes is that they cannot be decoded. -/
theorem decodeFrom_error {skip : Nat} (h : decodeFrom position skip before bytes = .error fault) :
    ∃ first start stop why, fault = .undecodable first start stop why := by
  induction bytes generalizing position skip before with
  | nil => cases h
  | cons b rest ih =>
    cases skip with
    | succ skip => exact ih h
    | zero =>
      rw [decodeFrom] at h
      split at h
      · exact ih h
      · cases h
        exact ⟨_, _, _, _, rfl⟩

/-! ## Texts -/

/-- The bytes of an array are listed from a place on behind those that have been listed. -/
theorem toList_loop (data : ByteArray) (i : Nat) (listed : List UInt8) :
    ByteArray.toList.loop data i listed = listed.reverse ++ data.data.toList.drop i := by
  rw [ByteArray.toList.loop]
  split
  · next hi =>
    have hlen : i < data.data.toList.length := hi
    rw [toList_loop, List.drop_eq_getElem_cons hlen, List.reverse_cons, List.append_assoc,
      List.singleton_append]
    congr 2
    exact getElem!_pos data.data i hi
  · next hi =>
    have hlen : data.data.toList.length ≤ i := Nat.le_of_not_lt hi
    rw [List.drop_eq_nil_of_le hlen, List.append_nil]
termination_by data.size - i

/-- An array is its list of bytes. -/
theorem toList_eq (data : ByteArray) : data.toList = data.data.toList := by
  rw [ByteArray.toList, toList_loop]
  rfl

/-- The bytes of a text are those of its characters. -/
theorem toUTF8_eq_iff {data : ByteArray} {text : String} : text.toUTF8 = data ↔
    data.data.toList = text.toList.flatMap String.utf8EncodeChar := by
  have htext : text.toUTF8 = (text.toList.flatMap String.utf8EncodeChar).toByteArray :=
    calc text.toUTF8 = (String.ofList text.toList).toByteArray := by
          rw [String.ofList_toList]
          rfl
      _ = (text.toList.flatMap String.utf8EncodeChar).toByteArray := String.toByteArray_ofList
  rw [htext]
  constructor
  · rintro rfl
    exact List.toList_data_toByteArray
  · intro h
    refine ByteArray.ext (Array.toList_inj.1 ?_)
    rw [List.toList_data_toByteArray, h]

/-- Bytes are read as a text exactly if they are the text in UTF-8. -/
theorem decode_ok_iff {data : ByteArray} {text : String} :
    decode data = .ok text ↔ text.toUTF8 = data := by
  rw [decode, toList_eq, toUTF8_eq_iff]
  constructor
  · intro h
    cases hcs : decodeFrom 0 0 [] data.data.toList with
    | error => rw [hcs] at h; cases h
    | ok cs =>
      rw [hcs] at h
      cases h
      obtain ⟨_, rfl, hbytes⟩ := eq_flatMap_of_decodeFrom_ok hcs
      simpa using hbytes
  · intro h
    rw [h, decodeFrom_flatMap]
    exact congrArg Except.ok String.ofList_toList

/-- What is wrong with bytes that are not read. -/
theorem exists_eq_undecodable {data : ByteArray} (h : decode data = .error fault) :
    ∃ first start stop why, fault = .undecodable first start stop why := by
  rw [decode] at h
  cases hcs : decodeFrom 0 0 [] data.toList with
  | ok cs => rw [hcs] at h; cases h
  | error fault' =>
    rw [hcs] at h
    cases h
    exact decodeFrom_error hcs

end SceneScript.Text
