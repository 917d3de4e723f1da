import Mathlib.Data.List.Forall2
import Mathlib.Data.List.Nodup
import SceneScript.Proofs.Text.Lines

/-!
# The grammar of scripts

What may stand on a line of a script, said without the functions that read it: a `Sentence` is a
command with its arguments and what they mean, and `Line` adds the blanks, the comment and the case
of the command. Reading accepts exactly the sentences (`Statement.ofCommand_ok_iff`) and so exactly
the scripts all of whose lines are such; the first line that is none is at fault
(`Script.reads_exactly_grammar`).
-/

namespace SceneScript

open Text (isNumber number? integer?)

/-! ## Sentences -/

/-- Words that are numbers, with the doubles they stand for. -/
abbrev Numerals : List String → List Float → Prop := List.Forall₂ fun w x => number? w = some x

/-- A name that may be left out. Every word that is no number is a name. -/
inductive MayName : List String → Option String → Prop
  | absent : MayName [] none
  | present : isNumber w = false → MayName [w] (some w)

/-- The names of the axes, in either case. -/
inductive NamesAxis : String → Axis → Prop
  | x : NamesAxis "x" .x
  | capitalX : NamesAxis "X" .x
  | y : NamesAxis "y" .y
  | capitalY : NamesAxis "Y" .y
  | z : NamesAxis "z" .z
  | capitalZ : NamesAxis "Z" .z

/-- The arguments that a command takes, and what it says with them. -/
inductive Sentence : Keyword → List String → Statement → Prop
  | push : Sentence .push [] (.perform .push)
  | pop : Sentence .pop [] (.perform .pop)
  | display : Sentence .display [] (.perform .display)
  | move : Numerals ns [x, y, z] → MayName tail knob →
      Sentence .move (ns ++ tail) (.perform (.move ⟨x, y, z⟩ knob))
  | scale : Numerals ns [x, y, z] → MayName tail knob →
      Sentence .scale (ns ++ tail) (.perform (.scale ⟨x, y, z⟩ knob))
  | rotate : NamesAxis a axis → Numerals ns [degrees] → MayName tail knob →
      Sentence .rotate (a :: (ns ++ tail)) (.perform (.rotate axis degrees knob))
  | box : MayName constants c → Numerals ns [x, y, z, width, height, depth] →
      MayName system s → Sentence .box (constants ++ (ns ++ system))
        (.perform (.box ⟨x, y, z⟩ ⟨width, height, depth⟩))
  | sphere : MayName constants c → Numerals ns [x, y, z, radius] → MayName system s →
      Sentence .sphere (constants ++ (ns ++ system)) (.perform (.sphere ⟨x, y, z⟩ radius))
  | torus : MayName constants c → Numerals ns [x, y, z, tube, ring] → MayName system s →
      Sentence .torus (constants ++ (ns ++ system)) (.perform (.torus ⟨x, y, z⟩ tube ring))
  | line : MayName constants c → Numerals ns [x, y, z] → MayName system s →
      Numerals ns' [x', y', z'] → MayName system' s' →
      Sentence .line (constants ++ (ns ++ (system ++ (ns' ++ system'))))
        (.perform (.line ⟨x, y, z⟩ ⟨x', y', z'⟩))
  | save : Sentence .save [file] (.perform (.save file))
  | basename : Sentence .basename [name] (.perform (.basename name))
  | frames : integer? w = some n → Sentence .frames [w] (.perform (.frames (.whole n)))
  | vary : isNumber knob = false → integer? w = some start → integer? w' = some stop →
      Numerals ns [first, last] →
      Sentence .vary (knob :: w :: w' :: ns) (.perform (.vary ⟨knob, start, stop, first, last⟩))
  | set : isNumber knob = false → Numerals ns [value] → Sentence .set (knob :: ns) (.set knob value)
  | setknobs : Numerals ns [value] → Sentence .setknobs ns (.setAll value)

/-- What the words of a line say. The command may be written in either case. -/
inductive WordsSay : List String → Statement → Prop
  | blank : WordsSay [] .blank
  | command : Text.lower w = k.name → Sentence k args s → WordsSay (w :: args) s

/-- What a line says: it is read up to its comment, word by word. -/
def Line (line : List Char) (s : Statement) : Prop :=
  ∃ front ws, IsBeforeComment line front ∧ Text.IsWords front ws ∧ WordsSay ws s

/-- Whether a line says anything, if only nothing. -/
def WellFormedLine (line : List Char) : Prop := ∃ s, Line line s

/-- The operations of lines, one after another: a line adds the one that it says, and none if it is
blank or sets knobs. -/
inductive LinesAdd : List (List Char) → List (Operation Float) → Prop
  | nil : LinesAdd [] []
  | operation : Line line (.perform op) → LinesAdd ls ops → LinesAdd (line :: ls) (op :: ops)
  | blank : Line line .blank → LinesAdd ls ops → LinesAdd (line :: ls) ops
  | set : Line line (.set knob value) → LinesAdd ls ops → LinesAdd (line :: ls) ops
  | setknobs : Line line (.setAll value) → LinesAdd ls ops → LinesAdd (line :: ls) ops

/-! ## Reading words -/

/-- A sequence of two steps succeeds when both do. -/
theorem except_bind_ok {ε β γ : Type} {x : Except ε β} {f : β → Except ε γ} {c : γ} :
    (x >>= f) = .ok c ↔ ∃ b, x = .ok b ∧ f b = .ok c := by
  cases x with
  | error e => exact ⟨fun h => (nomatch h), fun ⟨_, h, _⟩ => (nomatch h)⟩
  | ok b => exact ⟨fun h => ⟨b, rfl, h⟩, fun ⟨_, h, h'⟩ => by cases h; exact h'⟩

/-- A result that is changed is there when it was. -/
theorem except_map_ok {ε β γ : Type} {x : Except ε β} {f : β → γ} {c : γ} :
    x.map f = .ok c ↔ ∃ b, x = .ok b ∧ f b = c := by
  cases x with
  | error e => exact ⟨fun h => (nomatch h), fun ⟨_, h, _⟩ => (nomatch h)⟩
  | ok b => exact ⟨fun h => ⟨b, rfl, by cases h; rfl⟩, fun ⟨_, h, h'⟩ => by cases h; rw [← h']; rfl⟩

/-- A fault stays when results are changed. -/
theorem except_map_error {ε β γ : Type} {x : Except ε β} {f : β → γ} {e : ε} :
    x.map f = .error e ↔ x = .error e := by
  cases x with
  | error e' => exact ⟨fun h => by cases h; rfl, fun h => by cases h; rfl⟩
  | ok b => exact ⟨fun h => (nomatch h), fun h => (nomatch h)⟩

/-- All elements of a list have values when each of them has one. -/
theorem mapM_eq_some_iff {β γ : Type} {f : β → Option γ} {as : List β} {bs : List γ} :
    as.mapM f = some bs ↔ List.Forall₂ (fun a b => f a = some b) as bs := by
  induction as generalizing bs with
  | nil => simp [eq_comm]
  | cons a as ih =>
    rw [List.mapM_cons, List.forall₂_cons_left_iff]
    simp only [Option.bind_eq_bind, Option.bind_eq_some_iff, ih, Option.pure_def, Option.some.injEq]
    constructor
    · rintro ⟨b, hb, bs, hbs, rfl⟩
      exact ⟨b, bs, hb, hbs, rfl⟩
    · rintro ⟨b, bs, hb, hbs, rfl⟩
      exact ⟨b, hb, bs, hbs, rfl⟩

namespace Statement

variable {command : Keyword} {n : Nat} {ws : List String} {s : Statement}

/-- Words are read as numbers when they are numbers, and as many as there should be. -/
theorem numbers_ok {v : Vector Float n} : numbers command n ws = .ok v ↔ Numerals ws v.toList := by
  unfold numbers Numerals
  rw [← mapM_eq_some_iff]
  cases hws : ws.mapM number? with
  | none => simp
  | some xs =>
    dsimp only
    split
    · next h =>
      rw [Except.ok.injEq, Option.some.injEq, ← Vector.toList_inj]
      rfl
    · next h =>
      constructor
      · intro e
        cases e
      · intro e
        cases e
        exact absurd v.length_toList h

/-- No number is a name. -/
theorem isNumber_of_numerals {xs : List Float} (h : Numerals ws xs) :
    ∀ w ∈ ws, isNumber w = true := by
  intro w hw
  induction h with
  | nil => cases hw
  | cons hx _ ih =>
    rcases List.mem_cons.1 hw with rfl | hw
    · simp [isNumber, hx]
    · exact ih hw

/-- A list ends with a name behind so many words. -/
theorem endsWithName_iff :
    endsWithName n ws = true ↔ ∃ front w, ws = front ++ [w] ∧ front.length = n ∧
      isNumber w = false := by
  rcases List.eq_nil_or_concat ws with rfl | ⟨front, w, rfl⟩
  · simp [endsWithName]
  · simp only [endsWithName, List.concat_eq_append, List.length_append, List.length_singleton,
      List.getLast?_append, List.getLast?_singleton, Option.or, Option.map_some, Option.getD_some,
      Bool.and_eq_true, beq_iff_eq, Nat.add_right_cancel_iff, Bool.not_eq_eq_eq_not, Bool.not_true]
    constructor
    · rintro ⟨hlen, hw⟩
      exact ⟨front, w, rfl, hlen, hw⟩
    · rintro ⟨front', w', heq, hlen, hw⟩
      obtain ⟨rfl, hw'⟩ := List.append_inj' heq rfl
      cases hw'
      exact ⟨hlen, hw⟩

/-- A list of so many numbers does not end with a name behind them. -/
theorem endsWithName_of_numerals {xs : List Float} (h : Numerals ws xs) (hlen : xs.length = n) :
    endsWithName n ws = false := by
  rw [Bool.eq_false_iff, ne_eq, endsWithName_iff]
  rintro ⟨front, w, rfl, hfront, -⟩
  have := h.length_eq
  simp [hfront, hlen] at this

/-- The numbers in front of a name behind, if there is one. -/
theorem numbers_dropName_ok {v : Vector Float n} :
    numbers command n (if endsWithName n ws then ws.dropLast else ws) = .ok v ↔
      ∃ ns tail knob, ws = ns ++ tail ∧ Numerals ns v.toList ∧ MayName tail knob := by
  constructor
  · intro h
    split at h
    · next he =>
      obtain ⟨front, w, rfl, -, hw⟩ := endsWithName_iff.1 he
      rw [List.dropLast_concat] at h
      exact ⟨front, [w], _, rfl, numbers_ok.1 h, .present hw⟩
    · exact ⟨ws, [], _, (List.append_nil _).symm, numbers_ok.1 h, .absent⟩
  · rintro ⟨ns, tail, knob, rfl, hns, htail⟩
    have hlen : ns.length = n := by
      rw [hns.length_eq]
      exact v.length_toList
    cases htail with
    | absent =>
      rw [List.append_nil, endsWithName_of_numerals hns v.length_toList]
      exact numbers_ok.2 hns
    | present hw =>
      rw [if_pos (endsWithName_iff.2 ⟨ns, _, rfl, hlen, hw⟩), List.dropLast_concat]
      exact numbers_ok.2 hns

/-- Numbers and the name of a knob behind them, which may be left out. -/
theorem numbersWithKnob_ok {v : Vector Float n} {knob : Option String} :
    numbersWithKnob command n ws = .ok (v, knob) ↔
      ∃ ns tail, ws = ns ++ tail ∧ Numerals ns v.toList ∧ MayName tail knob := by
  unfold numbersWithKnob
  constructor
  · intro h
    split at h
    · next he =>
      obtain ⟨front, w, rfl, -, hw⟩ := endsWithName_iff.1 he
      obtain ⟨v', hv, hpair⟩ := except_bind_ok.1 h
      rw [List.dropLast_concat] at hv
      cases hpair
      refine ⟨front, [w], rfl, numbers_ok.1 hv, ?_⟩
      simpa using MayName.present hw
    · obtain ⟨v', hv, hpair⟩ := except_bind_ok.1 h
      cases hpair
      exact ⟨ws, [], (List.append_nil _).symm, numbers_ok.1 hv, .absent⟩
  · rintro ⟨ns, tail, rfl, hns, htail⟩
    have hlen : ns.length = n := by
      rw [hns.length_eq]
      exact v.length_toList
    cases htail with
    | absent =>
      rw [List.append_nil, endsWithName_of_numerals hns v.length_toList]
      exact except_bind_ok.2 ⟨v, numbers_ok.2 hns, rfl⟩
    | @present w hw =>
      rw [if_pos (endsWithName_iff.2 ⟨ns, _, rfl, hlen, hw⟩), List.dropLast_concat]
      exact except_bind_ok.2 ⟨v, numbers_ok.2 hns, by simp [pure, Except.pure]⟩

/-- The words behind a name in front, if there is one. -/
theorem skipName_eq (ws : List String) :
    ∃ front name, MayName front name ∧ ws = front ++ skipName ws ∧
      ∀ w ∈ (skipName ws).head?, front = [] → isNumber w = true := by
  cases ws with
  | nil => exact ⟨[], _, .absent, rfl, by simp [skipName]⟩
  | cons w ws =>
    by_cases h : isNumber w = true
    · refine ⟨[], _, .absent, by simp [skipName, h], ?_⟩
      simp [skipName, h]
    · exact ⟨[w], _, .present (by simpa using h), by simp [skipName, h], by simp⟩

/-- A name in front of a number is skipped, and nothing else. -/
theorem skipName_append {front : List String} {name : Option String} (h : MayName front name)
    (hw : ∀ w ∈ ws.head?, isNumber w = true) : skipName (front ++ ws) = ws := by
  cases h with
  | present hn => simp [skipName, hn]
  | absent =>
    cases ws with
    | nil => rfl
    | cons w ws => simp [skipName, hw w rfl]

/-- The first word of numbers is a number. -/
theorem isNumber_head {ns : List String} {x : Float} {xs : List Float} (h : Numerals ns (x :: xs)) :
    ∀ w ∈ (ns ++ ws).head?, isNumber w = true := by
  cases h with
  | cons hx _ =>
    intro w hw
    cases hw
    simp [isNumber, hx]

/-- Numbers between two names, which may be left out. -/
theorem shapeNumbers_ok {v : Vector Float (n + 1)} :
    shapeNumbers command (n + 1) ws = .ok v ↔ ∃ constants ns system c s,
      ws = constants ++ (ns ++ system) ∧ MayName constants c ∧ Numerals ns v.toList ∧
      MayName system s := by
  unfold shapeNumbers
  dsimp only
  rw [numbers_dropName_ok]
  constructor
  · rintro ⟨ns, system, s, heq, hns, hs⟩
    obtain ⟨front, name, hfront, hws, -⟩ := skipName_eq ws
    rw [heq] at hws
    exact ⟨front, ns, system, name, s, hws, hfront, hns, hs⟩
  · rintro ⟨constants, ns, system, c, s, rfl, hc, hns, hs⟩
    obtain ⟨x, xs, hv⟩ := List.exists_cons_of_length_eq_add_one v.length_toList
    exact ⟨ns, system, s, skipName_append hc (isNumber_head (hv ▸ hns)), hns, hs⟩

/-- Of the words of a line segment the fourth and the last may be names. -/
theorem withoutSystems_eq (a b c d last : String) (mid : List String) :
    withoutSystems (a :: b :: c :: d :: (mid ++ [last])) =
      [a, b, c] ++ ([d].filter isNumber ++ (mid ++ [last].filter isNumber)) := by
  have hlen : (a :: b :: c :: d :: (mid ++ [last])).length = 4 + mid.length + 1 := by
    simp only [List.length_cons, List.length_append, List.length_nil]
    omega
  have hmid : (mid.zipIdx 4).filter (fun p => isNumber p.1 ||
      (p.2 != 3 && p.2 + 1 != 4 + mid.length + 1)) = mid.zipIdx 4 := by
    refine List.filter_eq_self.2 fun p hp => ?_
    have hle := List.le_snd_of_mem_zipIdx hp
    have hlt := List.snd_lt_add_of_mem_zipIdx hp
    have hfour : (p.2 != 3) = true := bne_iff_ne.2 (by omega)
    have hend : (p.2 + 1 != 4 + mid.length + 1) = true := bne_iff_ne.2 (by omega)
    rw [hfour, hend]
    simp
  unfold withoutSystems
  rw [hlen]
  simp only [List.zipIdx_cons, List.zipIdx_append, List.filter_cons, List.filter_append,
    List.zipIdx_nil, List.filter_nil, Nat.zero_add, Nat.reduceAdd]
  rw [hmid]
  have hsecond : 4 + mid.length ≠ 1 := by omega
  have hthird : 4 + mid.length ≠ 2 := by omega
  cases isNumber d <;> cases isNumber last <;> simp [hsecond, hthird]

/-- The numbers of a line segment: three, a name that may be left out, three, and such a name. -/
theorem numbers_withoutSystems_ok {v : Vector Float 6} :
    numbers command 6 (withoutSystems ws) = .ok v ↔ ∃ ns system ns' system' s s',
      ws = ns ++ (system ++ (ns' ++ system')) ∧ Numerals ns (v.toList.take 3) ∧ MayName system s ∧
      Numerals ns' (v.toList.drop 3) ∧ MayName system' s' := by
  rw [numbers_ok]
  constructor
  · intro h
    have hlen : 6 ≤ ws.length := by
      have hkept : (withoutSystems ws).length = 6 := h.length_eq.trans v.length_toList
      have : (withoutSystems ws).length ≤ ws.zipIdx.length := by
        rw [withoutSystems, List.length_map]
        exact List.length_filter_le _ _
      rw [List.length_zipIdx] at this
      omega
    obtain ⟨a, b, c, d, mid, last, rfl⟩ :
        ∃ a b c d mid last, ws = a :: b :: c :: d :: (mid ++ [last]) := by
      rcases ws with _ | ⟨a, _ | ⟨b, _ | ⟨c, _ | ⟨d, rest⟩⟩⟩⟩
      · simp at hlen
      · simp at hlen
      · simp at hlen
      · simp at hlen
      · rcases List.eq_nil_or_concat rest with rfl | ⟨mid, last, rfl⟩
        · simp at hlen
        · exact ⟨a, b, c, d, mid, last, by simp⟩
    rw [withoutSystems_eq] at h
    -- the numbers up to the first name and those behind it
    have hns : Numerals [a, b, c] (v.toList.take 3) := by simpa using List.forall₂_take 3 h
    have hns' : Numerals ([d].filter isNumber ++ (mid ++ [last].filter isNumber))
        (v.toList.drop 3) := by simpa using List.forall₂_drop 3 h
    have hname : ∀ w, ∃ system s, [w] = [w].filter isNumber ++ system ∧ MayName system s ∧
        [w] = system ++ [w].filter isNumber := by
      intro w
      cases hw : isNumber w with
      | true => exact ⟨[], none, by simp [hw], .absent, by simp [hw]⟩
      | false => exact ⟨[w], some w, by simp [hw], .present hw, by simp [hw]⟩
    obtain ⟨system, s, -, hs, hd⟩ := hname d
    obtain ⟨system', s', hlast, hs', -⟩ := hname last
    refine ⟨[a, b, c], system, _, system', s, s', ?_, hns, hs, hns', hs'⟩
    calc a :: b :: c :: d :: (mid ++ [last])
        = [a, b, c] ++ ([d] ++ (mid ++ [last])) := rfl
      _ = [a, b, c] ++ ((system ++ [d].filter isNumber) ++
            (mid ++ ([last].filter isNumber ++ system'))) := by rw [← hd, ← hlast]
      _ = _ := by simp only [List.append_assoc]
  · rintro ⟨ns, system, ns', system', s, s', rfl, hns, hs, hns', hs'⟩
    have hall : Numerals (ns ++ ns') v.toList := by
      rw [← List.take_append_drop 3 v.toList]
      exact List.rel_append hns hns'
    have hlen : v.toList.length = 6 := v.length_toList
    have hthree : ns.length = 3 := by simpa [hlen] using hns.length_eq
    have hthree' : ns'.length = 3 := by simpa [hlen] using hns'.length_eq
    have hnum := isNumber_of_numerals hall
    obtain ⟨a, b, c, rfl⟩ := List.length_eq_three.1 hthree
    obtain ⟨d, e, f, rfl⟩ := List.length_eq_three.1 hthree'
    have hd := hnum d (by simp)
    have hf := hnum f (by simp)
    suffices hkept : withoutSystems ([a, b, c] ++ (system ++ ([d, e, f] ++ system'))) =
        [a, b, c] ++ [d, e, f] by
      rw [hkept]
      exact hall
    cases hs with
    | absent =>
      cases hs' with
      | absent => simpa [hd, hf] using withoutSystems_eq a b c d f [e]
      | @present w' hw' => simpa [hd, hw'] using withoutSystems_eq a b c d w' [e, f]
    | @present w hw =>
      cases hs' with
      | absent => simpa [hw, hf] using withoutSystems_eq a b c w f [d, e]
      | @present w' hw' => simpa [hw, hw'] using withoutSystems_eq a b c w w' [d, e, f]

/-- A word names an axis in either case. -/
theorem axis?_eq_some_iff {w : String} {axis : Axis} : axis? w = some axis ↔ NamesAxis w axis := by
  constructor
  · intro h
    unfold axis? at h
    split at h
    · next hw =>
      cases h
      rcases hw with rfl | rfl
      · exact .x
      · exact .capitalX
    · split at h
      · next hw =>
        cases h
        rcases hw with rfl | rfl
        · exact .y
        · exact .capitalY
      · split at h
        · next hw =>
          cases h
          rcases hw with rfl | rfl
          · exact .z
          · exact .capitalZ
        · cases h
  · intro h
    cases h <;> rfl

/-- The entries of a vector, one by one. -/
theorem toList_eq_ofFn (v : Vector Float n) : v.toList = List.ofFn fun i : Fin n => v[i] := by
  refine List.ext_getElem (by simp) fun i hi hi' => ?_
  simp

/-! ## Reading commands -/

/-- A command without arguments takes none. -/
theorem bare_ok {op : Operation Float} :
    bare command op ws = .ok s ↔ ws = [] ∧ s = .perform op := by
  unfold bare
  cases ws <;> simp [eq_comm]

/-- A command with one argument takes any word. -/
theorem verbatim_ok {fault : LineFault} {op : String → Operation Float} :
    verbatim fault op ws = .ok s ↔ ∃ w, ws = [w] ∧ s = .perform (op w) := by
  unfold verbatim
  split <;> simp_all [eq_comm]

/-- An integer is a number without a fraction. -/
theorem integer_ok {w : String} {k : Int} : integer command w = .ok k ↔ integer? w = some k := by
  unfold integer
  cases integer? w <;> simp

/-- A command that moves the coordinate system takes three numbers and may take a knob. -/
theorem transform_ok {op : Vec3 Float → Option String → Operation Float} :
    transform command op ws = .ok s ↔ ∃ ns tail knob x y z, ws = ns ++ tail ∧
      Numerals ns [x, y, z] ∧ MayName tail knob ∧ s = .perform (op ⟨x, y, z⟩ knob) := by
  unfold transform
  rw [except_bind_ok]
  constructor
  · rintro ⟨⟨v, knob⟩, hv, hs⟩
    obtain ⟨ns, tail, rfl, hns, htail⟩ := numbersWithKnob_ok.1 hv
    rw [toList_eq_ofFn] at hns
    cases hs
    exact ⟨ns, tail, knob, _, _, _, rfl, hns, htail, rfl⟩
  · rintro ⟨ns, tail, knob, x, y, z, rfl, hns, htail, rfl⟩
    exact ⟨(#v[x, y, z], knob), numbersWithKnob_ok.2 ⟨ns, tail, rfl, hns, htail⟩, rfl⟩

/-- What a command says with its arguments is a sentence. -/
theorem sentence_of_ofCommand (h : ofCommand command ws = .ok s) : Sentence command ws s := by
  cases command with
  | push => obtain ⟨rfl, rfl⟩ := bare_ok.1 h; exact .push
  | pop => obtain ⟨rfl, rfl⟩ := bare_ok.1 h; exact .pop
  | display => obtain ⟨rfl, rfl⟩ := bare_ok.1 h; exact .display
  | move =>
    obtain ⟨ns, tail, knob, x, y, z, rfl, hns, htail, rfl⟩ := transform_ok.1 h
    exact .move hns htail
  | scale =>
    obtain ⟨ns, tail, knob, x, y, z, rfl, hns, htail, rfl⟩ := transform_ok.1 h
    exact .scale hns htail
  | rotate =>
    simp only [ofCommand, rotate] at h
    split at h
    · next a rest =>
      split at h
      · split at h
        · cases h
        · next axis ha =>
          obtain ⟨⟨v, knob⟩, hv, hs⟩ := except_bind_ok.1 h
          obtain ⟨ns, tail, rfl, hns, htail⟩ := numbersWithKnob_ok.1 hv
          rw [toList_eq_ofFn] at hns
          cases hs
          exact .rotate (axis?_eq_some_iff.1 ha) hns htail
      · cases h
    · cases h
  | box =>
    obtain ⟨v, hv, hs⟩ := except_bind_ok.1 h
    obtain ⟨constants, ns, system, c, s, rfl, hc, hns, hs'⟩ := shapeNumbers_ok.1 hv
    rw [toList_eq_ofFn] at hns
    cases hs
    exact .box hc hns hs'
  | sphere =>
    obtain ⟨v, hv, hs⟩ := except_bind_ok.1 h
    obtain ⟨constants, ns, system, c, s, rfl, hc, hns, hs'⟩ := shapeNumbers_ok.1 hv
    rw [toList_eq_ofFn] at hns
    cases hs
    exact .sphere hc hns hs'
  | torus =>
    obtain ⟨v, hv, hs⟩ := except_bind_ok.1 h
    obtain ⟨constants, ns, system, c, s, rfl, hc, hns, hs'⟩ := shapeNumbers_ok.1 hv
    rw [toList_eq_ofFn] at hns
    cases hs
    exact .torus hc hns hs'
  | line =>
    obtain ⟨v, hv, hs⟩ := except_bind_ok.1 h
    obtain ⟨constants, c, hc, hws, -⟩ := skipName_eq ws
    obtain ⟨ns, system, ns', system', s₁, s₂, heq, hns, h₁, hns', h₂⟩ :=
      numbers_withoutSystems_ok.1 hv
    rw [toList_eq_ofFn] at hns hns'
    rw [hws, heq]
    cases hs
    exact .line hc hns h₁ hns' h₂
  | save => obtain ⟨w, rfl, rfl⟩ := verbatim_ok.1 h; exact .save
  | basename => obtain ⟨w, rfl, rfl⟩ := verbatim_ok.1 h; exact .basename
  | frames =>
    simp only [ofCommand, frames] at h
    split at h
    · obtain ⟨k, hk, hs⟩ := except_map_ok.1 h
      cases hs
      exact .frames (integer_ok.1 hk)
    · cases h
  | vary =>
    simp only [ofCommand, vary] at h
    split at h
    · split at h
      · cases h
      · next hknob =>
        obtain ⟨start, hstart, h⟩ := except_bind_ok.1 h
        obtain ⟨stop, hstop, h⟩ := except_bind_ok.1 h
        obtain ⟨v, hv, hs⟩ := except_bind_ok.1 h
        have hns := numbers_ok.1 hv
        rw [toList_eq_ofFn] at hns
        cases hs
        exact .vary (by simpa using hknob) (integer_ok.1 hstart) (integer_ok.1 hstop) hns
    · cases h
  | set =>
    simp only [ofCommand, setKnob] at h
    split at h
    · split at h
      · cases h
      · next hknob =>
        obtain ⟨v, hv, hs⟩ := except_map_ok.1 h
        have hns := numbers_ok.1 hv
        rw [toList_eq_ofFn] at hns
        cases hs
        exact .set (by simpa using hknob) hns
    · cases h
  | setknobs =>
    obtain ⟨v, hv, hs⟩ := except_map_ok.1 h
    have hns := numbers_ok.1 hv
    rw [toList_eq_ofFn] at hns
    cases hs
    exact .setknobs hns

/-- A sentence is read as what it says. -/
theorem ofCommand_of_sentence (h : Sentence command ws s) : ofCommand command ws = .ok s := by
  cases h with
  | push | pop | display => rfl
  | move hns htail => exact transform_ok.2 ⟨_, _, _, _, _, _, rfl, hns, htail, rfl⟩
  | scale hns htail => exact transform_ok.2 ⟨_, _, _, _, _, _, rfl, hns, htail, rfl⟩
  | @rotate a axis ns degrees tail knob ha hns htail =>
    have hlen : (ns ++ tail).length = 1 ∨ (ns ++ tail).length = 2 := by
      rw [List.length_append, hns.length_eq]
      cases htail
      · exact .inl rfl
      · exact .inr rfl
    simp only [ofCommand, rotate, hlen, if_true, axis?_eq_some_iff.2 ha]
    exact except_bind_ok.2
      ⟨(#v[degrees], knob), numbersWithKnob_ok.2 ⟨ns, tail, rfl, hns, htail⟩, rfl⟩
  | @box _ _ _ x y z width height depth _ _ hc hns hs =>
    exact except_bind_ok.2 ⟨#v[x, y, z, width, height, depth],
      shapeNumbers_ok.2 ⟨_, _, _, _, _, rfl, hc, hns, hs⟩, rfl⟩
  | @sphere _ _ _ x y z radius _ _ hc hns hs =>
    exact except_bind_ok.2 ⟨#v[x, y, z, radius],
      shapeNumbers_ok.2 ⟨_, _, _, _, _, rfl, hc, hns, hs⟩, rfl⟩
  | @torus _ _ _ x y z tube ring _ _ hc hns hs =>
    exact except_bind_ok.2 ⟨#v[x, y, z, tube, ring],
      shapeNumbers_ok.2 ⟨_, _, _, _, _, rfl, hc, hns, hs⟩, rfl⟩
  | @line _ _ _ x y z _ _ _ x' y' z' _ _ hc hns h₁ hns' h₂ =>
    refine except_bind_ok.2 ⟨#v[x, y, z, x', y', z'], ?_, rfl⟩
    rw [skipName_append hc (isNumber_head hns)]
    exact numbers_withoutSystems_ok.2 ⟨_, _, _, _, _, _, rfl, hns, h₁, hns', h₂⟩
  | save | basename => rfl
  | frames hn => exact except_map_ok.2 ⟨_, integer_ok.2 hn, rfl⟩
  | @vary _ _ _ _ _ ns first last hknob hstart hstop hns =>
    obtain ⟨a, b, rfl⟩ := List.length_eq_two.1 hns.length_eq
    simp only [ofCommand, vary, hknob, Bool.false_eq_true, if_false]
    exact except_bind_ok.2 ⟨_, integer_ok.2 hstart, except_bind_ok.2 ⟨_, integer_ok.2 hstop,
      except_bind_ok.2 ⟨#v[first, last], numbers_ok.2 hns, rfl⟩⟩⟩
  | @set _ ns value hknob hns =>
    obtain ⟨a, rfl⟩ := List.length_eq_one_iff.1 hns.length_eq
    simp only [ofCommand, setKnob, hknob, Bool.false_eq_true, if_false]
    exact except_map_ok.2 ⟨#v[value], numbers_ok.2 hns, rfl⟩
  | @setknobs _ value hns => exact except_map_ok.2 ⟨#v[value], numbers_ok.2 hns, rfl⟩

/-- Reading a command accepts exactly its sentences. -/
theorem ofCommand_ok_iff : ofCommand command ws = .ok s ↔ Sentence command ws s :=
  ⟨sentence_of_ofCommand, ofCommand_of_sentence⟩

end Statement

/-- A word is a keyword when it is written like one in lower case. -/
theorem Keyword.ofWord?_eq_some_iff {w : String} {k : Keyword} :
    Keyword.ofWord? w = some k ↔ Text.lower w = k.name := by
  constructor
  · intro h
    unfold Keyword.ofWord? at h
    have hname := List.find?_some h
    exact (beq_iff_eq.1 hname).symm
  · intro h
    unfold Keyword.ofWord?
    rw [h]
    cases k <;> rfl

/-- Reading words accepts exactly what they may say. -/
theorem Statement.ofWords_ok_iff {ws : List String} {s : Statement} :
    Statement.ofWords ws = .ok s ↔ WordsSay ws s := by
  constructor
  · intro h
    unfold Statement.ofWords at h
    split at h
    · cases h
      exact .blank
    · split at h
      · next hk => exact .command (Keyword.ofWord?_eq_some_iff.1 hk) (ofCommand_ok_iff.1 h)
      · cases h
  · intro h
    cases h with
    | blank => rfl
    | command hk hs =>
      simp only [Statement.ofWords, Keyword.ofWord?_eq_some_iff.2 hk]
      exact ofCommand_ok_iff.2 hs

/-- Reading a line accepts exactly what it may say. -/
theorem Statement.ofLine_ok_iff {line : List Char} {s : Statement} :
    Statement.ofLine line = .ok s ↔ Line line s := by
  rw [Statement.ofLine, Statement.ofWords_ok_iff]
  constructor
  · intro h
    exact ⟨_, _, withoutComment_eq_iff.1 rfl, Text.words_eq_iff.1 rfl, h⟩
  · rintro ⟨front, ws, hfront, hws, h⟩
    rwa [withoutComment_eq_iff.2 hfront, Text.words_eq_iff.2 hws]

/-- A line says one thing. -/
theorem Line.unique {line : List Char} {s s' : Statement} (h : Line line s) (h' : Line line s') :
    s = s' := by
  cases (Statement.ofLine_ok_iff.2 h).symm.trans (Statement.ofLine_ok_iff.2 h')
  rfl

/-! ## Reading scripts -/

/-- The operations of lines are those of the statements that they say. -/
theorem linesAdd_iff {ls : List (List Char)} {ss : List Statement} (h : List.Forall₂ Line ls ss)
    {ops : List (Operation Float)} : LinesAdd ls ops ↔ ss.filterMap Statement.operation? = ops := by
  constructor
  · intro hops
    induction hops generalizing ss with
    | nil =>
      cases h
      rfl
    | operation hline _ ih | blank hline _ ih | set hline _ ih | setknobs hline _ ih =>
      cases h with
      | cons hs hss =>
        obtain rfl := hline.unique hs
        rw [← ih hss]
        rfl
  · rintro rfl
    induction h with
    | nil => exact .nil
    | @cons line s ls ss hs _ ih =>
      cases s with
      | blank => exact .blank hs ih
      | perform => exact .operation hs ih
      | set => exact .set hs ih
      | setAll => exact .setknobs hs ih

/-- Lines are read as statements when each of them is. -/
theorem statementsFrom_ok {n : Nat} {ls : List (List Char)} {ss : List Statement} :
    statementsFrom n ls = .ok ss ↔ List.Forall₂ Line ls ss := by
  induction ls generalizing n ss with
  | nil => simp [statementsFrom, eq_comm]
  | cons line ls ih =>
    rw [List.forall₂_cons_left_iff, statementsFrom]
    cases hl : Statement.ofLine line with
    | error why =>
      refine ⟨fun h => (nomatch h), ?_⟩
      rintro ⟨s, _, hs, -⟩
      cases hl.symm.trans (Statement.ofLine_ok_iff.2 hs)
    | ok s =>
      dsimp only
      rw [except_map_ok]
      constructor
      · rintro ⟨ss, hss, rfl⟩
        exact ⟨s, ss, Statement.ofLine_ok_iff.1 hl, ih.1 hss, rfl⟩
      · rintro ⟨s', ss, hs', hss, rfl⟩
        cases hl.symm.trans (Statement.ofLine_ok_iff.2 hs')
        exact ⟨ss, ih.2 hss, rfl⟩

/-- Lines that are all well formed say statements. -/
theorem forall_wellFormedLine_iff {ls : List (List Char)} :
    (∀ line ∈ ls, WellFormedLine line) ↔ ∃ ss, List.Forall₂ Line ls ss := by
  induction ls with
  | nil => simp
  | cons line ls ih =>
    rw [List.forall_mem_cons, ih]
    constructor
    · rintro ⟨⟨s, hs⟩, ss, hss⟩
      exact ⟨s :: ss, .cons hs hss⟩
    · rintro ⟨_, h⟩
      cases h with
      | cons hs hss => exact ⟨⟨_, hs⟩, _, hss⟩

/-- Lines are at fault in the first one that says nothing, with what is wrong with this line. -/
theorem statementsFrom_error_iff {n : Nat} {ls : List (List Char)} {fault : Fault} :
    statementsFrom n ls = .error fault ↔
      ∃ before line after why, ls = before ++ line :: after ∧ (∀ l ∈ before, WellFormedLine l) ∧
        Statement.ofLine line = .error why ∧ fault = .badLine (n + before.length) why := by
  constructor
  · intro h
    induction ls generalizing n with
    | nil => cases h
    | cons line ls ih =>
      rw [statementsFrom] at h
      cases hl : Statement.ofLine line with
      | error why =>
        rw [hl] at h
        cases h
        exact ⟨[], line, ls, why, rfl, List.forall_mem_nil _, hl, rfl⟩
      | ok s =>
        rw [hl] at h
        obtain ⟨before, bad, after, why, rfl, hbefore, hbad, rfl⟩ := ih (except_map_error.1 h)
        refine ⟨line :: before, bad, after, why, rfl, ?_, hbad, ?_⟩
        · exact List.forall_mem_cons.2 ⟨⟨s, Statement.ofLine_ok_iff.1 hl⟩, hbefore⟩
        · rw [List.length_cons, Nat.add_right_comm, Nat.add_assoc]
  · rintro ⟨before, line, after, why, rfl, hbefore, hline, rfl⟩
    induction before generalizing n with
    | nil => rw [List.nil_append, statementsFrom, hline]; rfl
    | cons l before ih =>
      obtain ⟨⟨s, hs⟩, hbefore⟩ := List.forall_mem_cons.1 hbefore
      rw [List.cons_append, statementsFrom, Statement.ofLine_ok_iff.2 hs]
      refine except_map_error.2 ((ih hbefore).trans ?_)
      rw [List.length_cons, Nat.add_right_comm, Nat.add_assoc]

/-- A text is no script when one of its lines says nothing. The first such line is at fault. -/
theorem Script.ofText_error_iff {text : String} {fault : Fault} :
    ofText text = .error fault ↔
      ∃ before line after why, Text.lines text.toList = before ++ line :: after ∧
        (∀ l ∈ before, WellFormedLine l) ∧ Statement.ofLine line = .error why ∧
        fault = .badLine (1 + before.length) why := by
  rw [ofText, except_map_error, statementsFrom_error_iff]

/-- Lines of which one is not well formed are at fault in the first such line. -/
theorem statementsFrom_error {n : Nat} {ls : List (List Char)}
    (h : ¬ ∀ line ∈ ls, WellFormedLine line) :
    ∃ before line after why, ls = before ++ line :: after ∧ (∀ l ∈ before, WellFormedLine l) ∧
      ¬ WellFormedLine line ∧ statementsFrom n ls = .error (.badLine (n + before.length) why) := by
  cases hs : statementsFrom n ls with
  | ok ss => exact absurd (forall_wellFormedLine_iff.2 ⟨ss, statementsFrom_ok.1 hs⟩) h
  | error fault =>
    obtain ⟨before, line, after, why, hls, hbefore, hline, rfl⟩ := statementsFrom_error_iff.1 hs
    refine ⟨before, line, after, why, hls, hbefore, ?_, rfl⟩
    rintro ⟨s, hsay⟩
    cases hline.symm.trans (Statement.ofLine_ok_iff.2 hsay)

/-- Reading accepts exactly the scripts of the grammar. A text is a script when each of its lines is
well formed. Its operations are those that its lines say, in the order of the lines, one for each
line that is neither blank nor sets knobs, and its knobs are what the statements of the lines make of
none. Else the first line that is not well formed is at fault. -/
theorem Script.reads_exactly_grammar (text : String) :
    ∃ ls, (∀ ls', Text.IsLines text.toList ls' ↔ ls' = ls) ∧
    ((∃ script, Script.ofText text = .ok script) ↔ ∀ line ∈ ls, WellFormedLine line) ∧
    (∀ script, Script.ofText text = .ok script ↔ LinesAdd ls script.operations ∧
      ∃ ss, List.Forall₂ Line ls ss ∧
        script.knobs = ss.foldl (fun knobs s => s.apply knobs) .empty) ∧
    ∀ fault, Script.ofText text = .error fault → ∃ before line after why,
      ls = before ++ line :: after ∧ (∀ l ∈ before, WellFormedLine l) ∧ ¬ WellFormedLine line ∧
        fault = .badLine (before.length + 1) why := by
  have hok : ∀ script, Script.ofText text = .ok script ↔
      ∃ ss, List.Forall₂ Line (Text.lines text.toList) ss ∧ Script.ofStatements ss = script := by
    intro script
    simp only [Script.ofText, except_map_ok, statementsFrom_ok]
  have hread : (∃ script, Script.ofText text = .ok script) ↔
      ∀ line ∈ Text.lines text.toList, WellFormedLine line := by
    rw [forall_wellFormedLine_iff]
    constructor
    · rintro ⟨script, hs⟩
      obtain ⟨ss, hss, -⟩ := (hok script).1 hs
      exact ⟨ss, hss⟩
    · rintro ⟨ss, hss⟩
      exact ⟨_, (hok _).2 ⟨ss, hss, rfl⟩⟩
  refine ⟨Text.lines text.toList, fun ls' => ?_, hread, fun script => ?_, fun fault hf => ?_⟩
  · rw [← Text.lines_eq_iff, eq_comm]
  · rw [hok]
    constructor
    · rintro ⟨ss, hss, rfl⟩
      exact ⟨(linesAdd_iff hss).2 rfl, ss, hss, rfl⟩
    · rintro ⟨hops, ss, hss, hknobs⟩
      have hops := (linesAdd_iff hss).1 hops
      refine ⟨ss, hss, ?_⟩
      cases script
      cases hops
      cases hknobs
      rfl
  · have hno : ¬ ∀ line ∈ Text.lines text.toList, WellFormedLine line := by
      rw [← hread]
      rintro ⟨script, hs⟩
      cases hf.symm.trans hs
    obtain ⟨before, line, after, why, hls, hbefore, hline, hs⟩ := statementsFrom_error (n := 1) hno
    refine ⟨before, line, after, why, hls, hbefore, hline, ?_⟩
    rw [Script.ofText, hs] at hf
    cases hf
    rw [Nat.add_comm]

end SceneScript
