import SceneScript.Proofs.Script.Names

/-!
# The knobs of a script

Three kinds of lines give knobs their initial values: a `vary` declares its knob, a `set` assigns
one, and a `setknobs` assigns all that lines before it have named. What comes of any mixture of them
is said here by places in the script alone: the knobs stand in the order of the first lines that
name them (`Script.FirstNames`), and the value of each is that of the last line that assigns it
(`Script.Initial`). Reading a script makes exactly these knobs (`Script.knobs_of_text`).

What a statement makes of the value of a knob depends on nothing but that value
(`Statement.assign`), so the values are found by one induction for each knob.
-/

namespace SceneScript

namespace Script

/-- Whether the statement at a place is the first that names a knob. -/
def FirstNames (ss : List Statement) (i : Nat) (name : String) : Prop :=
  (∃ s, ss[i]? = some s ∧ s.Names name) ∧ ∀ j < i, ∀ s, ss[j]? = some s → ¬ s.Names name

/-- The value that the statement at a place assigns to a knob: it is a `set` of the knob, or a
`setknobs` behind a statement that names the knob. -/
inductive Assigns (ss : List Statement) (i : Nat) (name : String) (value : Float) : Prop
  | set : ss[i]? = some (.set name value) → Assigns ss i name value
  | setAll : ss[i]? = some (.setAll value) → j < i → ss[j]? = some s → s.Names name →
      Assigns ss i name value

/-- The initial value of a knob: that of the last statement that assigns it, and zero if there is
none. -/
inductive Initial (ss : List Statement) (name : String) : Float → Prop
  | last : Assigns ss i name value → (∀ later > i, ∀ v, ¬ Assigns ss later name v) →
      Initial ss name value
  | zero : (∀ i v, ¬ Assigns ss i name v) → Initial ss name 0

variable {ss : List Statement} {s : Statement} {i : Nat} {name : String} {v v' : Float}

/-- A statement assigns a knob one value. -/
theorem Assigns.unique (h : Assigns ss i name v) (h' : Assigns ss i name v') : v = v' := by
  cases h with
  | set hs =>
    cases h' with
    | set hs' => cases hs.symm.trans hs'; rfl
    | setAll hs' => cases hs.symm.trans hs'
  | setAll hs =>
    cases h' with
    | set hs' => cases hs.symm.trans hs'
    | setAll hs' => cases hs.symm.trans hs'; rfl

/-- A knob has one initial value. -/
theorem Initial.unique (h : Initial ss name v) (h' : Initial ss name v') : v = v' := by
  cases h with
  | @last i _ ha hlast =>
    cases h' with
    | @last i' _ ha' hlast' =>
      rcases Nat.lt_trichotomy i i' with hlt | rfl | hlt
      · exact absurd ha' (hlast i' hlt v')
      · exact ha.unique ha'
      · exact absurd ha (hlast' i hlt v)
    | zero hnone => exact absurd ha (hnone i v)
  | zero hnone =>
    cases h' with
    | last ha' => exact absurd ha' (hnone _ v')
    | zero => rfl

/-- A statement that assigns is one of the script. -/
theorem Assigns.lt_length (h : Assigns ss i name v) : i < ss.length := by
  cases h with
  | set hs => exact (List.getElem?_eq_some_iff.1 hs).1
  | setAll hs => exact (List.getElem?_eq_some_iff.1 hs).1

/-- A knob that is assigned is named. -/
theorem Assigns.exists_names (h : Assigns ss i name v) : ∃ s ∈ ss, s.Names name := by
  cases h with
  | set hs => exact ⟨_, List.mem_of_getElem? hs, .set⟩
  | setAll _ _ hs hn => exact ⟨_, List.mem_of_getElem? hs, hn⟩

/-- What comes later does not change what the statements before assign. -/
theorem assigns_snoc_of_lt (hi : i < ss.length) :
    Assigns (ss ++ [s]) i name v ↔ Assigns ss i name v := by
  have hat {j : Nat} (hj : j ≤ i) : (ss ++ [s])[j]? = ss[j]? :=
    List.getElem?_append_left (by omega)
  constructor
  · intro h
    cases h with
    | set hs => exact .set (hat (Nat.le_refl i) ▸ hs)
    | setAll hs hj hs' hn => exact .setAll (hat (Nat.le_refl i) ▸ hs) hj (hat hj.le ▸ hs') hn
  · intro h
    cases h with
    | set hs => exact .set ((hat (Nat.le_refl i)).trans hs)
    | setAll hs hj hs' hn =>
      exact .setAll ((hat (Nat.le_refl i)).trans hs) hj ((hat hj.le).trans hs') hn

/-- What the last statement assigns is the initial value. -/
theorem Initial.of_last (h : Assigns (ss ++ [s]) ss.length name v) :
    Initial (ss ++ [s]) name v := by
  refine .last h fun later hlater v' h' => ?_
  have hlt := h'.lt_length
  rw [List.length_append, List.length_singleton] at hlt
  omega

/-- A statement that does not assign a knob leaves its initial value. -/
theorem Initial.snoc (h : Initial ss name v)
    (hs : ∀ v, ¬ Assigns (ss ++ [s]) ss.length name v) : Initial (ss ++ [s]) name v := by
  have hback {i : Nat} {v : Float} (h : Assigns (ss ++ [s]) i name v) : Assigns ss i name v := by
    rcases Nat.lt_trichotomy i ss.length with hlt | rfl | hlt
    · exact (assigns_snoc_of_lt hlt).1 h
    · exact absurd h (hs v)
    · have hle := h.lt_length
      rw [List.length_append, List.length_singleton] at hle
      omega
  cases h with
  | last ha hlast =>
    exact .last ((assigns_snoc_of_lt ha.lt_length).2 ha) fun later hlater v' h' =>
      hlast later hlater v' (hback h')
  | zero hnone => exact .zero fun i v h => hnone i v (hback h)

/-- What comes later does not change which statement is the first that names a knob. -/
theorem FirstNames.snoc (h : FirstNames ss i name) : FirstNames (ss ++ [s]) i name := by
  obtain ⟨⟨s', hs', hn⟩, hfirst⟩ := h
  have hi : i < ss.length := (List.getElem?_eq_some_iff.1 hs').1
  refine ⟨⟨s', (List.getElem?_append_left hi).trans hs', hn⟩, fun j hj s'' hs'' => ?_⟩
  rw [List.getElem?_append_left (hj.trans hi)] at hs''
  exact hfirst j hj s'' hs''

/-- A place at which a knob is first named is one of the script. -/
theorem FirstNames.lt_length (h : FirstNames ss i name) : i < ss.length := by
  obtain ⟨⟨s, hs, -⟩, -⟩ := h
  exact (List.getElem?_eq_some_iff.1 hs).1

end Script

/-! ## One statement -/

namespace Knobs

variable {α : Type} {k : Knobs α} {name : String} {value : α}

/-- The names of knobs are those that have a value. -/
theorem mem_names_iff : name ∈ k.names ↔ (k.lookup? name).isSome = true := by
  simp [names, lookup?]

/-- A new name comes last. -/
theorem names_set :
    (k.set name value).names = if name ∈ k.names then k.names else k.names ++ [name] :=
  map_fst_put name value k.entries

/-- A name that is declared comes last if it is new. -/
theorem names_declare :
    (k.declare name value).names = if name ∈ k.names then k.names else k.names ++ [name] := by
  unfold declare
  split
  · next h => rw [if_pos (mem_names_iff.2 h)]
  · exact names_set

/-- Giving all knobs one value leaves their names. -/
theorem names_setAll : (k.setAll value).names = k.names := by
  simp [names, setAll, Function.comp_def]

/-- Giving all knobs one value gives it to each that has one. -/
theorem lookup?_setAll : (k.setAll value).lookup? name = (k.lookup? name).map fun _ => value := by
  simp only [lookup?, setAll, List.find?_map, Option.map_map, Function.comp_def]

/-- A name that is declared keeps its value, and the others keep theirs. -/
theorem lookup?_declare {other : String} : (k.declare name value).lookup? other =
    if name = other then some ((k.lookup? other).getD value) else k.lookup? other := by
  unfold declare contains
  by_cases h : name = other
  · subst h
    cases hv : k.lookup? name with
    | none => simp [lookup?_set]
    | some v => simp [hv]
  · rw [if_neg h]
    split
    · rfl
    · rw [lookup?_set, if_neg h]

end Knobs

namespace Statement

variable {k : Knobs Float} {name : String}

/-- What a statement makes of the value of one knob. -/
def assign (name : String) : Statement → Option Float → Option Float
  | .set knob value, old => if knob = name then some value else old
  | .setAll value, old => old.map fun _ => value
  | .perform (.vary r), old => if r.knob = name then some (old.getD 0) else old
  | _, old => old

/-- The value of a knob behind a statement depends on its value before alone. -/
theorem lookup?_apply {s : Statement} :
    (s.apply k).lookup? name = s.assign name (k.lookup? name) := by
  cases s with
  | blank => rfl
  | set => exact Knobs.lookup?_set ..
  | setAll => exact Knobs.lookup?_setAll
  | perform op =>
    cases op with
    | vary => exact Knobs.lookup?_declare
    | _ => rfl

/-- Where the value of a knob behind a statement comes from: it is assigned there or it is the value
before, or zero for a knob that is new. -/
theorem assign_cases {s : Statement} {old : Option Float} {v : Float}
    (h : s.assign name old = some v) :
    s = .set name v ∨ (s = .setAll v ∧ old.isSome = true) ∨
      (∀ w, s ≠ .set name w ∧ s ≠ .setAll w) ∧ (old = some v ∨ old = none ∧ v = 0) := by
  have hquiet (hs : ∀ w, s ≠ .set name w ∧ s ≠ .setAll w) (h : old = some v) :
      s = .set name v ∨ (s = .setAll v ∧ old.isSome = true) ∨
        (∀ w, s ≠ .set name w ∧ s ≠ .setAll w) ∧ (old = some v ∨ old = none ∧ v = 0) :=
    .inr (.inr ⟨hs, .inl h⟩)
  cases s with
  | blank => exact hquiet (fun _ => ⟨nofun, nofun⟩) h
  | set knob value =>
    rw [assign] at h
    split at h
    · next hn => cases hn; cases h; exact .inl rfl
    · next hn => exact hquiet (fun w => ⟨fun e => by cases e; exact hn rfl, nofun⟩) h
  | setAll value =>
    obtain ⟨w, rfl, rfl⟩ := Option.map_eq_some_iff.1 h
    exact .inr (.inl ⟨rfl, rfl⟩)
  | perform op =>
    cases op with
    | vary r =>
      rw [assign] at h
      split at h
      · refine .inr (.inr ⟨fun _ => ⟨nofun, nofun⟩, ?_⟩)
        cases old with
        | none => exact .inr ⟨rfl, (Option.some.inj h).symm⟩
        | some w => exact .inl h
      · exact hquiet (fun _ => ⟨nofun, nofun⟩) h
    | _ => exact hquiet (fun _ => ⟨nofun, nofun⟩) h

/-- A statement names a new knob, which comes last, or leaves the names. -/
theorem names_apply {s : Statement} :
    (∃ name, s.Names name ∧ name ∉ k.names ∧ (s.apply k).names = k.names ++ [name]) ∨
      (s.apply k).names = k.names := by
  have hnew {name : String} (hs : s.Names name) (happly : (s.apply k).names =
      if name ∈ k.names then k.names else k.names ++ [name]) :
      (∃ name, s.Names name ∧ name ∉ k.names ∧ (s.apply k).names = k.names ++ [name]) ∨
        (s.apply k).names = k.names := by
    by_cases h : name ∈ k.names
    · exact .inr (by rw [happly, if_pos h])
    · exact .inl ⟨name, hs, h, by rw [happly, if_neg h]⟩
  cases s with
  | blank => exact .inr rfl
  | set => exact hnew .set Knobs.names_set
  | setAll => exact .inr Knobs.names_setAll
  | perform op =>
    cases op with
    | vary => exact hnew .vary Knobs.names_declare
    | _ => exact .inr rfl

/-- A ramp of a knob that has a value changes nothing. -/
theorem apply_vary {r : Ramp Float} (h : (k.lookup? r.knob).isSome = true) :
    (perform (.vary r)).apply k = k :=
  if_pos h

/-- An operation that is no ramp changes no knob. -/
theorem apply_perform {op : Operation Float} (h : op.ramp? = none) : (perform op).apply k = k := by
  cases op with
  | vary => cases h
  | _ => rfl

end Statement

/-! ## Scripts -/

namespace Script

section
variable {ss before after : List Statement} {s : Statement} {name : String} {v : Float}

/-- The knobs of a script that goes on are made of those before. -/
theorem knobs_append : (ofStatements (before ++ after)).knobs =
    after.foldl (fun knobs s => s.apply knobs) (ofStatements before).knobs :=
  List.foldl_append

/-- The knobs of a script that goes on by a statement. -/
theorem knobs_snoc : (ofStatements (ss ++ [s])).knobs = s.apply (ofStatements ss).knobs :=
  knobs_append

/-- The knobs of a script are those that its statements name. -/
theorem isSome_lookup?_knobs :
    ((ofStatements ss).knobs.lookup? name).isSome = true ↔ ∃ s ∈ ss, s.Names name :=
  Statement.isSome_lookup?_foldl.trans (or_iff_left nofun)

/-- The names of a script stand in the order of the first statements that name them. -/
theorem exists_places : ∃ places : List Nat, places.Pairwise (· < ·) ∧
    List.Forall₂ (FirstNames ss) places (ofStatements ss).knobs.names := by
  induction ss using List.reverseRecOn with
  | nil => exact ⟨[], .nil, .nil⟩
  | append_singleton ss s ih =>
    obtain ⟨places, hsorted, hfirst⟩ := ih
    have hlt : ∀ i ∈ places, i < ss.length := by
      intro i hi
      obtain ⟨n, hn, rfl⟩ := List.getElem_of_mem hi
      exact (hfirst.get hn (hfirst.length_eq ▸ hn)).lt_length
    have hfirst' : List.Forall₂ (FirstNames (ss ++ [s])) places (ofStatements ss).knobs.names :=
      hfirst.imp fun _ _ h => h.snoc
    rw [knobs_snoc]
    rcases Statement.names_apply (k := (ofStatements ss).knobs) (s := s) with
      ⟨name, hs, hnew, hnames⟩ | hnames
    · refine ⟨places ++ [ss.length], ?_, ?_⟩
      · refine List.pairwise_append.2 ⟨hsorted, List.pairwise_singleton .., fun i hi j hj => ?_⟩
        rw [List.mem_singleton.1 hj]
        exact hlt i hi
      · rw [hnames]
        refine List.rel_append hfirst' (.cons ⟨⟨s, List.getElem?_concat_length, hs⟩, ?_⟩ .nil)
        intro j hj s' hs' hn
        rw [List.getElem?_append_left hj] at hs'
        exact hnew (Knobs.mem_names_iff.2
          (isSome_lookup?_knobs.2 ⟨s', List.mem_of_getElem? hs', hn⟩))
    · exact ⟨places, hsorted, by rwa [hnames]⟩

/-- The value of a knob of a script is its initial one. -/
theorem initial_of_lookup? (h : (ofStatements ss).knobs.lookup? name = some v) :
    Initial ss name v := by
  induction ss using List.reverseRecOn generalizing v with
  | nil => cases h
  | append_singleton ss s ih =>
    have hat : (ss ++ [s])[ss.length]? = some s := List.getElem?_concat_length
    rw [knobs_snoc, Statement.lookup?_apply] at h
    rcases Statement.assign_cases h with rfl | ⟨rfl, hknown⟩ | ⟨hquiet, hold⟩
    · exact .of_last (.set hat)
    · obtain ⟨s', hs', hn⟩ := isSome_lookup?_knobs.1 hknown
      obtain ⟨j, hj, rfl⟩ := List.getElem_of_mem hs'
      refine .of_last (.setAll hat hj ?_ hn)
      rw [List.getElem?_append_left hj, List.getElem?_eq_getElem hj]
    · refine Initial.snoc ?_ fun w ha => ?_
      · rcases hold with hold | ⟨hnone, rfl⟩
        · exact ih hold
        · -- a knob that has no value has not been assigned one
          refine .zero fun i w ha => ?_
          have hknown := isSome_lookup?_knobs.2 ha.exists_names
          rw [hnone] at hknown
          cases hknown
      · cases ha with
        | set hs => exact (hquiet w).1 (Option.some.inj (hat.symm.trans hs))
        | setAll hs => exact (hquiet w).2 (Option.some.inj (hat.symm.trans hs))

/-- The value of a knob of a script, from the places in the script alone. -/
theorem lookup?_knobs_eq_some_iff : (ofStatements ss).knobs.lookup? name = some v ↔
    (∃ s ∈ ss, s.Names name) ∧ Initial ss name v := by
  constructor
  · exact fun h => ⟨isSome_lookup?_knobs.1 (Option.isSome_of_eq_some h), initial_of_lookup? h⟩
  · rintro ⟨hnames, hinitial⟩
    obtain ⟨w, hw⟩ := Option.isSome_iff_exists.1 (isSome_lookup?_knobs.2 hnames)
    rw [hw, (initial_of_lookup? hw).unique hinitial]

/-- Statements that make no difference where they stand make none to the knobs of the script. -/
theorem knobs_delete (h : s.apply (ofStatements before).knobs = (ofStatements before).knobs) :
    (ofStatements (before ++ s :: after)).knobs = (ofStatements (before ++ after)).knobs := by
  rw [knobs_append, knobs_append, List.foldl_cons, h]

/-- The value of a knob behind statements depends on its value before them alone. -/
theorem lookup?_foldl_congr {k k' : Knobs Float} (h : k.lookup? name = k'.lookup? name) :
    (ss.foldl (fun knobs s => s.apply knobs) k).lookup? name =
      (ss.foldl (fun knobs s => s.apply knobs) k').lookup? name := by
  induction ss generalizing k k' with
  | nil => exact h
  | cons s ss ih =>
    refine ih ?_
    rw [Statement.lookup?_apply, Statement.lookup?_apply, h]

end

/-- The knobs of a script that is read from a text. They are those that its `vary` and `set` lines
name, each once, in the order of the first of these lines for each knob. The value of a knob is the
number on the last line that assigns it: a `set` of the knob, or a `setknobs` behind its first line;
and zero if there is none. A `vary` of a knob that has been named, and any operation that is no
`vary`, could be left out without a change to the knobs; so could a `setknobs` without a change to
the knobs that are not named before it. -/
theorem knobs_of_text {text : String} {script : Script} (h : ofText text = .ok script) :
    ∃ ls ss, Text.IsLines text.toList ls ∧ List.Forall₂ Line ls ss ∧
      (∀ name, name ∈ script.knobs.names ↔ ∃ s ∈ ss, s.Names name) ∧
      script.knobs.names.Nodup ∧
      (∃ places : List Nat, places.Pairwise (· < ·) ∧
        List.Forall₂ (FirstNames ss) places script.knobs.names) ∧
      (∀ name v, script.knobs.lookup? name = some v ↔
        (∃ s ∈ ss, s.Names name) ∧ Initial ss name v) ∧
      ∀ before s after, ss = before ++ s :: after →
        (∀ r, s = .perform (.vary r) → (∃ s' ∈ before, s'.Names r.knob) →
          script.knobs = (ofStatements (before ++ after)).knobs) ∧
        (∀ op, s = .perform op → op.ramp? = none →
          script.knobs = (ofStatements (before ++ after)).knobs) ∧
        ∀ v name, s = .setAll v → (∀ s' ∈ before, ¬ s'.Names name) →
          script.knobs.lookup? name = (ofStatements (before ++ after)).knobs.lookup? name := by
  obtain ⟨ss, hss, rfl⟩ := except_map_ok.1 h
  refine ⟨_, ss, Text.lines_eq_iff.1 rfl, statementsFrom_ok.1 hss,
    fun name => Knobs.mem_names_iff.trans isSome_lookup?_knobs, (ofStatements ss).knobs.nodup,
    exists_places, fun name v => lookup?_knobs_eq_some_iff, ?_⟩
  rintro before s after rfl
  refine ⟨?_, ?_, ?_⟩
  · rintro r rfl hnamed
    exact knobs_delete (Statement.apply_vary (isSome_lookup?_knobs.2 hnamed))
  · rintro op rfl hop
    exact knobs_delete (Statement.apply_perform hop)
  · rintro v name rfl hnew
    have hnone : (ofStatements before).knobs.lookup? name = none := by
      cases hv : (ofStatements before).knobs.lookup? name with
      | none => rfl
      | some w =>
        obtain ⟨s', hs', hn⟩ := isSome_lookup?_knobs.1 (Option.isSome_of_eq_some hv)
        exact absurd hn (hnew s' hs')
    rw [knobs_append, knobs_append, List.foldl_cons]
    refine lookup?_foldl_congr ?_
    rw [Statement.lookup?_apply, hnone]
    rfl

/-- Two knobs that a `setknobs` finds, one of which is varied behind it, and one that is later. -/
def mixedKnobs : String :=
  "vary a 0 1 2 3\nset b 1\nsetknobs 5\nmove 1 0 0 d\nset c 2\nvary b 0 1 0 1"

/-- The first two knobs have the value of the `setknobs`, the third has its own. -/
theorem knobs_of_text_mixedKnobs : ∃ script ss, ofText mixedKnobs = .ok script ∧
    (∃ places : List Nat, places.Pairwise (· < ·) ∧
      List.Forall₂ (FirstNames ss) places ["a", "b", "c"]) ∧
    Initial ss "a" 5 ∧ Initial ss "b" 5 ∧ Initial ss "c" 2 ∧ ¬ ∃ s ∈ ss, s.Names "d" := by
  have h : ∃ script, ofText mixedKnobs = .ok script ∧ script.knobs.names = ["a", "b", "c"] ∧
      script.knobs.lookup? "a" = some 5 ∧ script.knobs.lookup? "b" = some 5 ∧
      script.knobs.lookup? "c" = some 2 := ⟨_, rfl, rfl, rfl, rfl, rfl⟩
  obtain ⟨script, h, hnames, ha, hb, hc⟩ := h
  obtain ⟨_, ss, -, -, hmem, -, hplaces, hvalue, -⟩ := knobs_of_text h
  rw [hnames] at hplaces
  refine ⟨script, ss, h, hplaces, ((hvalue _ _).1 ha).2, ((hvalue _ _).1 hb).2,
    ((hvalue _ _).1 hc).2, fun hd => ?_⟩
  have hd := (hmem "d").2 hd
  rw [hnames] at hd
  simp at hd

end Script

end SceneScript
