import SceneScript.Script.Basic

/-!
# What lines and words are

The lines of a text are its pieces between line breaks (`Text.IsLines`), and the words of a line are
its pieces between blanks (`Text.IsWords`). Each text has one list of lines and each line one list
of words, those that `Text.lines` and `Text.words` compute (`lines_eq_iff`, `words_eq_iff`). A
comment begins with the first two slashes that stand together (`withoutComment_eq_iff`).
-/

namespace SceneScript

namespace Text

/-- The characters between a line and the next. -/
inductive IsBreak : List Char → Prop
  | pair : IsBreak ['\r', '\n']
  | single : isLineBreak c = true → IsBreak [c]

/-- The lines of a text. A text that ends with a break has no line behind it, and a carriage return
in front of a line feed is no break by itself. -/
inductive IsLines : List Char → List (List Char) → Prop
  | none : IsLines [] []
  | last : line ≠ [] → (∀ c ∈ line, isLineBreak c = false) → IsLines line [line]
  | next : (∀ c ∈ line, isLineBreak c = false) → IsBreak br →
      ¬ (br = ['\r'] ∧ rest.head? = some '\n') → IsLines rest ls →
      IsLines (line ++ (br ++ rest)) (line :: ls)

/-- The words of a line. -/
inductive IsWords : List Char → List String → Prop
  | none : (∀ c ∈ blanks, isBlank c = true) → IsWords blanks []
  | next : (∀ c ∈ blanks, isBlank c = true) → word ≠ [] → (∀ c ∈ word, isBlank c = false) →
      (∀ c ∈ rest.head?, isBlank c = true) → IsWords rest ws →
      IsWords (blanks ++ (word ++ rest)) (String.ofList word :: ws)

section
variable {line rest br begun : List Char}

/-! ## Lines -/

/-- Characters that end no line are added to the line. -/
theorem linesFrom_append (h : ∀ c ∈ line, isLineBreak c = false) :
    linesFrom begun (line ++ rest) = linesFrom (line.reverse ++ begun) rest := by
  induction line generalizing begun with
  | nil => rfl
  | cons c line ih =>
    obtain ⟨hc, hline⟩ := List.forall_mem_cons.1 h
    have hr : c ≠ '\r' := by
      rintro rfl
      exact absurd hc (by decide)
    have hstep : linesFrom begun (c :: (line ++ rest)) = linesFrom (c :: begun) (line ++ rest) := by
      rw [linesFrom]
      · simp [hc]
      · intro _ e
        exact absurd e hr
    rw [List.cons_append, hstep, ih hline]
    simp

/-- A break ends the line that is begun. -/
theorem linesFrom_break (h : IsBreak br) (hpair : ¬ (br = ['\r'] ∧ rest.head? = some '\n')) :
    linesFrom begun (br ++ rest) = begun.reverse :: linesFrom [] rest := by
  cases h with
  | pair => rfl
  | @single c hc =>
    rw [List.singleton_append, linesFrom]
    · simp [hc]
    · rintro rest' rfl rfl
      exact hpair ⟨rfl, rfl⟩

/-- The characters up to a break are a line. -/
theorem lines_append_break (h : ∀ c ∈ line, isLineBreak c = false) (hbr : IsBreak br)
    (hpair : ¬ (br = ['\r'] ∧ rest.head? = some '\n')) :
    lines (line ++ (br ++ rest)) = line :: lines rest := by
  rw [lines, linesFrom_append h, linesFrom_break hbr hpair]
  simp [lines]

/-- Characters without a break are one line. -/
theorem lines_of_noBreak (h : ∀ c ∈ line, isLineBreak c = false) (hne : line ≠ []) :
    lines line = [line] := by
  have : linesFrom [] (line ++ []) = linesFrom (line.reverse ++ []) [] := linesFrom_append h
  rw [List.append_nil] at this
  rw [lines, this]
  simp [linesFrom, hne]

/-- A text that continues a line is lines. -/
theorem isLines_linesFrom (hbegun : ∀ c ∈ begun, isLineBreak c = false) (text : List Char) :
    IsLines (begun.reverse ++ text) (linesFrom begun text) := by
  have hrev : ∀ {begun : List Char}, (∀ c ∈ begun, isLineBreak c = false) →
      ∀ c ∈ begun.reverse, isLineBreak c = false := by
    intro begun h c hc
    exact h c (List.mem_reverse.1 hc)
  fun_induction linesFrom begun text with
  | case1 begun h =>
    obtain rfl := List.isEmpty_iff.1 h
    exact .none
  | case2 begun h =>
    rw [List.append_nil]
    exact .last (by simpa using h) (hrev hbegun)
  | case3 begun rest ih =>
    show IsLines (begun.reverse ++ (['\r', '\n'] ++ rest)) _
    exact .next (hrev hbegun) .pair (fun ⟨h, _⟩ => by cases h) (ih fun _ h => nomatch h)
  | case4 begun c rest hpair hc ih =>
    show IsLines (begun.reverse ++ ([c] ++ rest)) _
    refine .next (hrev hbegun) (.single hc) ?_ (ih fun _ h => nomatch h)
    rintro ⟨hr, hn⟩
    cases rest with
    | nil => cases hn
    | cons c' rest =>
      cases hr
      cases hn
      exact hpair _ rfl rfl
  | case5 begun c rest hpair hc ih =>
    have := ih (List.forall_mem_cons.2 ⟨by simpa using hc, hbegun⟩)
    simpa using this

/-- The lines of a text are the pieces between its breaks. -/
theorem lines_eq_iff {text : List Char} {ls : List (List Char)} :
    lines text = ls ↔ IsLines text ls := by
  constructor
  · rintro rfl
    exact isLines_linesFrom (fun c (h : c ∈ []) => nomatch h) text
  · intro h
    induction h with
    | none => rfl
    | last hne h => exact lines_of_noBreak h hne
    | next h hbr hpair _ ih => rw [lines_append_break h hbr hpair, ih]

/-! ## Words -/

/-- Characters that are no blanks are added to the word. -/
theorem wordsFrom_append {word : List Char} (h : ∀ c ∈ word, isBlank c = false) :
    wordsFrom begun (word ++ rest) = wordsFrom (word.reverse ++ begun) rest := by
  induction word generalizing begun with
  | nil => rfl
  | cons c word ih =>
    obtain ⟨hc, hword⟩ := List.forall_mem_cons.1 h
    rw [List.cons_append, wordsFrom, hc]
    simp [ih hword]

/-- Blanks in front of a line belong to no word. -/
theorem words_blanks_append {blanks : List Char} (h : ∀ c ∈ blanks, isBlank c = true) :
    words (blanks ++ rest) = words rest := by
  induction blanks with
  | nil => rfl
  | cons c blanks ih =>
    obtain ⟨hc, hblanks⟩ := List.forall_mem_cons.1 h
    rw [← ih hblanks]
    simp [words, wordsFrom, hc]

/-- The characters up to a blank are a word. -/
theorem words_word_append {word : List Char} (hne : word ≠ []) (h : ∀ c ∈ word, isBlank c = false)
    (hrest : ∀ c ∈ rest.head?, isBlank c = true) :
    words (word ++ rest) = String.ofList word :: words rest := by
  rw [words, wordsFrom_append h]
  cases rest with
  | nil => simp [wordsFrom, hne, words]
  | cons c rest => simp [wordsFrom, hne, words, hrest c rfl]

/-- A blank in front of a line belongs to no word of it. -/
theorem IsWords.blank {c : Char} {ws : List String} (h : IsWords line ws) (hc : isBlank c = true) :
    IsWords (c :: line) ws := by
  cases h with
  | none hb => exact .none (List.forall_mem_cons.2 ⟨hc, hb⟩)
  | next hb hne hw hr hws =>
    exact IsWords.next (List.forall_mem_cons.2 ⟨hc, hb⟩) hne hw hr hws

/-- A line that continues a word is words. -/
theorem isWords_wordsFrom (hbegun : ∀ c ∈ begun, isBlank c = false) (line : List Char) :
    IsWords (begun.reverse ++ line) (wordsFrom begun line) := by
  have hrev : ∀ {begun : List Char}, (∀ c ∈ begun, isBlank c = false) →
      ∀ c ∈ begun.reverse, isBlank c = false := by
    intro begun h c hc
    exact h c (List.mem_reverse.1 hc)
  fun_induction wordsFrom begun line with
  | case1 begun h =>
    obtain rfl := List.isEmpty_iff.1 h
    exact .none fun _ h => nomatch h
  | case2 begun h =>
    exact IsWords.next (fun c (h : c ∈ []) => nomatch h) (by simpa using h) (hrev hbegun)
      (fun _ h => nomatch h) (.none fun _ h => nomatch h)
  | case3 begun c rest hc h ih =>
    obtain rfl := List.isEmpty_iff.1 h
    exact (ih fun _ h => nomatch h).blank hc
  | case4 begun c rest hc h ih =>
    exact IsWords.next (fun c (h : c ∈ []) => nomatch h) (by simpa using h) (hrev hbegun)
      (by simpa using hc) ((ih fun _ h => nomatch h).blank hc)
  | case5 begun c rest hc ih =>
    have := ih (List.forall_mem_cons.2 ⟨by simpa using hc, hbegun⟩)
    simpa using this

/-- The words of a line are the pieces between its blanks. -/
theorem words_eq_iff {ws : List String} : words line = ws ↔ IsWords line ws := by
  constructor
  · rintro rfl
    exact isWords_wordsFrom (fun c (h : c ∈ []) => nomatch h) line
  · intro h
    induction h with
    | @none blanks hb =>
      have : words (blanks ++ []) = words [] := words_blanks_append hb
      rwa [List.append_nil] at this
    | next hb hne hw hr _ ih => rw [words_blanks_append hb, words_word_append hne hw hr, ih]

end

end Text

/-! ## Comments -/

/-- What is left of a line when it is cut at the first two slashes that stand together. -/
inductive IsBeforeComment : List Char → List Char → Prop
  | bare : ¬ ['/', '/'] <:+: line → IsBeforeComment line line
  | cut : ¬ ['/', '/'] <:+: front ++ ['/'] → IsBeforeComment (front ++ '/' :: '/' :: rest) front

section
variable {line front rest : List Char}

/-- A character in front makes a pair of slashes only with a slash behind it. -/
theorem not_slashes_infix_cons {c : Char} (h : ¬ ['/', '/'] <:+: line)
    (hc : ¬ (c = '/' ∧ line.head? = some '/')) : ¬ ['/', '/'] <:+: c :: line := by
  rw [List.infix_cons_iff]
  rintro (⟨t, ht⟩ | h')
  · cases line with
    | nil => cases ht
    | cons c' line =>
      cases ht
      exact hc ⟨rfl, rfl⟩
  · exact h h'

/-- A line is left as it is up to a character that begins no comment. -/
theorem withoutComment_cons {c : Char} (hc : ¬ (c = '/' ∧ line.head? = some '/')) :
    withoutComment (c :: line) = c :: withoutComment line := by
  rw [withoutComment]
  rintro rest rfl rfl
  exact hc ⟨rfl, rfl⟩

/-- What is left of a line in front of its comment. -/
theorem isBeforeComment_withoutComment (line : List Char) :
    IsBeforeComment line (withoutComment line) := by
  fun_induction withoutComment line with
  | case1 rest =>
    show IsBeforeComment ([] ++ '/' :: '/' :: rest) []
    exact .cut (by decide)
  | case2 c rest hc ih =>
    have hc : ¬ (c = '/' ∧ rest.head? = some '/') := by
      rintro ⟨rfl, h⟩
      cases rest with
      | nil => cases h
      | cons c' rest => cases h; exact hc _ rfl rfl
    generalize withoutComment rest = kept at ih
    cases ih with
    | bare h => exact .bare (not_slashes_infix_cons h hc)
    | cut h =>
      have hcut : ¬ ['/', '/'] <:+: (c :: kept) ++ ['/'] :=
        not_slashes_infix_cons h (by cases kept <;> exact hc)
      exact .cut hcut
  | case3 => exact .bare (by decide)

/-- A line without a comment is left as it is. -/
theorem withoutComment_of_bare (h : ¬ ['/', '/'] <:+: line) : withoutComment line = line := by
  induction line with
  | nil => rfl
  | cons c line ih =>
    have hc : ¬ (c = '/' ∧ line.head? = some '/') := by
      rintro ⟨rfl, hl⟩
      cases line with
      | nil => cases hl
      | cons c' line => cases hl; exact h ⟨[], line, rfl⟩
    rw [withoutComment_cons hc, ih fun h' => h (List.infix_cons h')]

/-- A line with a comment is cut in front of it. -/
theorem withoutComment_of_cut (h : ¬ ['/', '/'] <:+: front ++ ['/']) :
    withoutComment (front ++ '/' :: '/' :: rest) = front := by
  induction front with
  | nil => rfl
  | cons c front ih =>
    have hc : ¬ (c = '/' ∧ (front ++ '/' :: '/' :: rest).head? = some '/') := by
      rintro ⟨rfl, hl⟩
      cases front with
      | nil => exact h ⟨[], [], rfl⟩
      | cons c' front => cases hl; exact h ⟨[], front ++ ['/'], rfl⟩
    rw [List.cons_append, withoutComment_cons hc, ih fun h' => h (List.infix_cons h')]

/-- A line without its comment is what stands in front of the first two slashes. -/
theorem withoutComment_eq_iff : withoutComment line = front ↔ IsBeforeComment line front := by
  constructor
  · rintro rfl
    exact isBeforeComment_withoutComment line
  · intro h
    cases h with
    | bare h => exact withoutComment_of_bare h
    | cut h => exact withoutComment_of_cut h

end

end SceneScript
