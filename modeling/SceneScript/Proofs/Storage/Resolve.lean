import Mathlib.Data.List.Infix
import SceneScript.Proofs.Storage.Path

/-!
# What a path leads to

A path that is resolved enters its components one after another (`Path.enter`), so one path behind
another leads from where the first one leads (`Path.resolve_join`). A path ends in its last
component, and the components before it are the directories that it goes through. If these lead to
somewhere in a directory, or back to it, the path lies inside it (`Path.inside_join_iff`). Whatever
the directory is, they do so exactly if the path is not absolute and never leaves more directories
than it has entered (`Path.staysBelow_iff`).
-/

namespace SceneScript.Path

/-- Where a component leads from somewhere. -/
def enter (here : List String) (c : String) : List String :=
  if c = "" ∨ c = "." then here else if c = ".." then here.dropLast else here ++ [c]

/-- Whether a component is a name, which leads one directory down. -/
def isName (c : String) : Bool := c != "" && c != "." && c != ".."

/-- The directories that a path goes through. -/
def lead (path : String) : List String := (components path).dropLast

/-- Where the directories that a path goes through lead from somewhere. -/
def descend (here : List String) (path : String) : List String :=
  (lead path).foldl enter (if isAbsolute path then [] else here)

/-- Whether a path leads to something in a directory or in one below, both seen from `start`. -/
def Inside (start : List String) (directory path : String) : Prop :=
  ∃ below, below ≠ [] ∧ resolve start path = resolve start directory ++ below

/-- A path leads into a directory if it leads further than the directory itself. -/
theorem inside_iff {start : List String} {directory path : String} :
    Inside start directory path ↔
      resolve start directory <+: resolve start path ∧
        resolve start path ≠ resolve start directory := by
  constructor
  · rintro ⟨below, hbelow, h⟩
    refine ⟨⟨below, h.symm⟩, fun heq => hbelow ?_⟩
    exact List.append_right_eq_self.1 (h.symm.trans heq)
  · rintro ⟨⟨below, h⟩, hne⟩
    refine ⟨below, ?_, h.symm⟩
    rintro rfl
    exact hne (h.symm.trans (List.append_nil _))

instance (start : List String) (directory path : String) :
    Decidable (Inside start directory path) := decidable_of_iff _ inside_iff.symm

/-- A path that is not absolute and never leaves more directories than it has entered. -/
structure StaysBelow (path : String) : Prop where
  relative : isAbsolute path = false
  climbs : ∀ front, front <+: lead path → front.count ".." ≤ front.countP isName

/-- Whether a path stays below can be read off the places between its directories. -/
instance (path : String) : Decidable (StaysBelow path) :=
  decidable_of_iff (isAbsolute path = false ∧
      ∀ front ∈ (lead path).inits, front.count ".." ≤ front.countP isName)
    ⟨fun h => ⟨h.1, fun front hfront => h.2 front ((List.mem_inits ..).2 hfront)⟩,
      fun h => ⟨h.relative, fun front hfront => h.climbs front ((List.mem_inits ..).1 hfront)⟩⟩

section
variable {here start : List String} {first second path tail : String}

/-- A path that is resolved enters its components. -/
theorem resolve_eq : resolve start path =
    (components path).foldl enter (if isAbsolute path then [] else start) := rfl

/-- A name leads down. -/
theorem enter_of_isName {c : String} (h : isName c = true) : enter here c = here ++ [c] := by
  simp only [isName, Bool.and_eq_true, bne_iff_ne] at h
  rw [enter, if_neg (not_or.2 h.1), if_neg h.2]

/-- Two dots lead up. -/
theorem enter_dots : enter here ".." = here.dropLast := rfl

/-- A component leads up, or nowhere, or down. -/
theorem enter_cases (c : String) : c = ".." ∨
    (c ≠ ".." ∧ isName c = false ∧ ∀ here, enter here c = here) ∨
    (c ≠ ".." ∧ isName c = true ∧ ∀ here, enter here c = here ++ [c]) := by
  by_cases hdots : c = ".."
  · exact .inl hdots
  by_cases hnone : c = "" ∨ c = "."
  · refine .inr (.inl ⟨hdots, ?_, fun here => if_pos hnone⟩)
    rcases hnone with rfl | rfl <;> rfl
  · have hname : isName c = true := by
      obtain ⟨hempty, hdot⟩ := not_or.1 hnone
      simp [isName, hempty, hdot, hdots]
    exact .inr (.inr ⟨hdots, hname, fun here => enter_of_isName hname⟩)

/-! ## Components -/

/-- A text has a component. -/
theorem splitSlashes_ne_nil (cs : List Char) : splitSlashes cs ≠ [] := by
  cases cs with
  | nil => exact List.cons_ne_nil _ _
  | cons c cs =>
    rw [splitSlashes]
    split
    · exact List.cons_ne_nil _ _
    · split <;> exact List.cons_ne_nil _ _

/-- A slash separates components. -/
theorem splitSlashes_append_slash (cs ds : List Char) :
    splitSlashes (cs ++ '/' :: ds) = splitSlashes cs ++ splitSlashes ds := by
  induction cs with
  | nil => rfl
  | cons c cs ih =>
    rw [List.cons_append, splitSlashes, splitSlashes, ih]
    split
    · rfl
    · cases h : splitSlashes cs with
      | nil => exact absurd h (splitSlashes_ne_nil cs)
      | cons part parts => rfl

/-- A text without slashes is one component. -/
theorem splitSlashes_of_notMem {cs : List Char} (h : '/' ∉ cs) : splitSlashes cs = [cs] := by
  induction cs with
  | nil => rfl
  | cons c cs ih =>
    obtain ⟨hc, hcs⟩ := not_or.1 (mt List.mem_cons.2 h)
    rw [splitSlashes, if_neg (Ne.symm hc), ih hcs]

/-- A text without slashes lengthens the last component. -/
theorem exists_splitSlashes_append (cs : List Char) : ∃ front last,
    splitSlashes cs = front ++ [last] ∧
      ∀ ds, '/' ∉ ds → splitSlashes (cs ++ ds) = front ++ [last ++ ds] := by
  induction cs with
  | nil => exact ⟨[], [], rfl, fun ds => splitSlashes_of_notMem⟩
  | cons c cs ih =>
    obtain ⟨front, last, hcs, hds⟩ := ih
    by_cases hc : c = '/'
    · refine ⟨[] :: front, last, by rw [splitSlashes, if_pos hc, hcs]; rfl, fun ds h => ?_⟩
      rw [List.cons_append, splitSlashes, if_pos hc, hds ds h]
      rfl
    · cases front with
      | nil =>
        refine ⟨[], c :: last, by rw [splitSlashes, if_neg hc, hcs]; rfl, fun ds h => ?_⟩
        rw [List.cons_append, splitSlashes, if_neg hc, hds ds h]
        rfl
      | cons part parts =>
        refine ⟨(c :: part) :: parts, last, ?_, fun ds h => ?_⟩
        · rw [splitSlashes, if_neg hc, hcs]
          rfl
        · rw [List.cons_append, splitSlashes, if_neg hc, hds ds h]
          rfl

/-- A component is no longer than its text. -/
theorem length_le_of_mem_splitSlashes {cs part : List Char} (h : part ∈ splitSlashes cs) :
    part.length ≤ cs.length := by
  induction cs generalizing part with
  | nil =>
    obtain rfl := List.mem_singleton.1 h
    exact Nat.le_refl _
  | cons c cs ih =>
    rw [List.length_cons]
    rw [splitSlashes] at h
    split at h
    · rcases List.mem_cons.1 h with rfl | h
      · exact Nat.zero_le _
      · exact Nat.le_succ_of_le (ih h)
    · split at h
      · next hnil => exact absurd hnil (splitSlashes_ne_nil cs)
      · next first parts hcons =>
        rcases List.mem_cons.1 h with rfl | h
        · exact Nat.succ_le_succ (ih (hcons ▸ List.mem_cons_self))
        · exact Nat.le_succ_of_le (ih (hcons ▸ List.mem_cons_of_mem _ h))

/-- A slash between two texts separates their components. -/
theorem components_append_slash (first second : String) :
    components (first ++ "/" ++ second) = components first ++ components second := by
  rw [components, components, components, ← List.map_append, ← splitSlashes_append_slash,
    String.append_assoc, String.toList_append, String.toList_append]
  rfl

/-- A path without slashes behind another one lengthens its last component. -/
theorem exists_components_append (path : String) : ∃ last : String, ∀ tail : String,
    '/' ∉ tail.toList → components (path ++ tail) = lead path ++ [last ++ tail] := by
  obtain ⟨front, last, hpath, htail⟩ := exists_splitSlashes_append path.toList
  refine ⟨String.ofList last, fun tail h => ?_⟩
  have hlead : lead path = front.map String.ofList := by
    rw [lead, components, hpath, List.map_append]
    exact List.dropLast_concat
  rw [components, String.toList_append, htail _ h, hlead, List.map_append]
  simp [String.ofList_append]

/-- What follows a text does not make it absolute. -/
theorem isAbsolute_append (h : first ≠ "") : isAbsolute (first ++ second) = isAbsolute first := by
  rw [isAbsolute, isAbsolute, String.toList_append, List.head?_append_of_ne_nil]
  simpa using h

/-- What follows a text without a slash does not make it absolute. -/
theorem isAbsolute_append_of_notMem (h : '/' ∉ tail.toList) :
    isAbsolute (path ++ tail) = isAbsolute path := by
  by_cases hpath : path = ""
  · subst hpath
    rw [String.empty_append, isAbsolute, beq_eq_false_iff_ne.2]
    · rfl
    · exact fun hhead => h (List.mem_of_mem_head? hhead)
  · exact isAbsolute_append hpath

/-! ## One path behind another -/

/-- A path behind another leads from where that leads. -/
theorem resolve_join : resolve start (join first second) =
    resolve (resolve start first) second := by
  unfold join
  split
  · next habs => rw [resolve_eq, resolve_eq, if_pos habs, if_pos habs]
  · next hrel =>
    have hsecond : resolve (resolve start first) second =
        (components second).foldl enter (resolve start first) := by
      rw [resolve_eq, if_neg hrel]
    rw [hsecond]
    split
    · next hslash =>
      rcases hslash with hempty | hlast
      · obtain rfl := String.isEmpty_iff.1 hempty
        rw [String.empty_append, resolve_eq, if_neg hrel]
        rfl
      · obtain ⟨front, rfl⟩ : ∃ front, first = front ++ "/" := by
          obtain ⟨cs, hcs⟩ := List.getLast?_eq_some_iff.1 hlast
          exact ⟨String.ofList cs, by rw [← String.toList_inj]; simpa using hcs⟩
        have hne : front ++ "/" ≠ "" := by simp
        have hfront : components (front ++ "/") = components front ++ [""] := by
          have h := components_append_slash front ""
          rwa [String.append_empty] at h
        rw [resolve_eq, resolve_eq, isAbsolute_append hne, components_append_slash, hfront,
          List.foldl_append, List.foldl_append]
        rfl
    · next hslash =>
      have hne : first ≠ "" := fun h => hslash (.inl (String.isEmpty_iff.2 h))
      rw [resolve_eq, resolve_eq, String.append_assoc, isAbsolute_append hne,
        ← String.append_assoc, components_append_slash, List.foldl_append]

/-- A path ends in a name when a text is put behind it that is too long to be dots. -/
theorem exists_resolve_append (hslash : '/' ∉ tail.toList) (hlen : 2 < tail.length) :
    ∃ name, resolve here (path ++ tail) = descend here path ++ [name] := by
  obtain ⟨last, hlast⟩ := exists_components_append path
  have hname : isName (last ++ tail) = true := by
    have hlong : 2 < (last ++ tail).length := by
      rw [String.length_append]
      omega
    simp only [isName, Bool.and_eq_true, bne_iff_ne]
    refine ⟨⟨?_, ?_⟩, ?_⟩ <;> intro h <;> rw [h] at hlong <;> exact absurd hlong (by decide)
  refine ⟨last ++ tail, ?_⟩
  rw [resolve_eq, hlast tail hslash, List.foldl_concat, isAbsolute_append_of_notMem hslash,
    enter_of_isName hname, descend]

/-- A path that ends in a name lies inside the directory that it is put into exactly if its
directories lead to somewhere in that directory or back to it. -/
theorem inside_join_iff (hslash : '/' ∉ tail.toList) (hlen : 2 < tail.length) :
    Inside start first (join first (path ++ tail)) ↔
      resolve start first <+: descend (resolve start first) path := by
  obtain ⟨name, hname⟩ : ∃ name, resolve (resolve start first) (path ++ tail) =
      descend (resolve start first) path ++ [name] := exists_resolve_append hslash hlen
  rw [Inside, resolve_join, hname]
  constructor
  · rintro ⟨below, hbelow, h⟩
    obtain ⟨front, last, rfl⟩ := (List.eq_nil_or_concat' below).resolve_left hbelow
    rw [← List.append_assoc] at h
    exact ⟨front, (List.append_inj_left' h rfl).symm⟩
  · rintro ⟨below, h⟩
    exact ⟨below ++ [name], List.append_ne_nil_of_right_ne_nil _ (List.cons_ne_nil _ _), by
      rw [← h, List.append_assoc]⟩

end

/-! ## Staying below a directory -/

section
variable {base below cs : List String} {fresh path : String}

/-- Components that never leave more directories than they and those before have entered stay below
where they started. -/
theorem prefix_foldl_enter
    (h : ∀ front, front <+: cs → front.count ".." ≤ below.length + front.countP isName) :
    base <+: cs.foldl enter (base ++ below) := by
  induction cs generalizing below with
  | nil => exact List.prefix_append ..
  | cons c cs ih =>
    rw [List.foldl_cons]
    have hrest : ∀ front, front <+: cs →
        (c :: front).count ".." ≤ below.length + (c :: front).countP isName :=
      fun front hfront => h _ ((List.prefix_cons_inj c).2 hfront)
    obtain rfl | ⟨hdots, hname, henter⟩ | ⟨hdots, hname, henter⟩ := enter_cases c
    · -- going up leaves a directory of `below`, never one of `base`
      have hne : below ≠ [] := List.ne_nil_of_length_pos (hrest [] List.nil_prefix)
      rw [enter_dots, List.dropLast_append_of_ne_nil hne]
      refine ih fun front hfront => ?_
      have hup := hrest front hfront
      rw [List.count_cons_self, List.countP_cons_of_neg (by decide)] at hup
      rw [List.length_dropLast]
      omega
    · rw [henter]
      refine ih fun front hfront => ?_
      have hsame := hrest front hfront
      rwa [List.count_cons_of_ne hdots, List.countP_cons_of_neg (by simp [hname])] at hsame
    · rw [henter, List.append_assoc]
      refine ih fun front hfront => ?_
      have hdown := hrest front hfront
      rw [List.count_cons_of_ne hdots, List.countP_cons_of_pos hname] at hdown
      rw [List.length_append, List.length_singleton]
      omega

/-- Components lead only to where one is already, or to their own names. -/
theorem not_mem_foldl_enter (hcs : fresh ∉ cs) (h : fresh ∉ base) :
    fresh ∉ cs.foldl enter base := by
  induction cs generalizing base with
  | nil => exact h
  | cons c cs ih =>
    obtain ⟨hc, hcs⟩ := not_or.1 (mt List.mem_cons.2 hcs)
    rw [List.foldl_cons]
    refine ih hcs ?_
    obtain rfl | ⟨-, -, henter⟩ | ⟨-, -, henter⟩ := enter_cases c
    · exact fun hmem => h (List.dropLast_subset _ hmem)
    · rwa [henter]
    · rw [henter, List.mem_append, List.mem_singleton]
      exact not_or.2 ⟨h, hc⟩

/-- Components that at some place have left more directories than they and those before have entered
do not come back to a directory whose name is none of theirs. -/
theorem not_mem_foldl_enter_of_climbs (hcs : fresh ∉ cs) (hbelow : fresh ∉ below)
    (h : ∃ front, front <+: cs ∧ below.length + front.countP isName < front.count "..") :
    fresh ∉ cs.foldl enter (fresh :: below) := by
  obtain ⟨front, hfront, hclimbs⟩ := h
  induction cs generalizing below front with
  | nil =>
    obtain rfl := List.prefix_nil.1 hfront
    exact absurd hclimbs (Nat.not_lt_zero _)
  | cons c cs ih =>
    obtain ⟨hc, hcs'⟩ := not_or.1 (mt List.mem_cons.2 hcs)
    rw [List.foldl_cons]
    obtain rfl | ⟨rest, rfl, hrest⟩ := List.prefix_cons_iff.1 hfront
    · exact absurd hclimbs (Nat.not_lt_zero _)
    obtain rfl | ⟨hdots, hname, henter⟩ | ⟨hdots, hname, henter⟩ := enter_cases c
    · rw [List.count_cons_self, List.countP_cons_of_neg (by decide)] at hclimbs
      rw [enter_dots]
      -- the directory itself is left once nothing is below it any more
      obtain rfl | ⟨front, last, rfl⟩ := List.eq_nil_or_concat' below
      · exact not_mem_foldl_enter hcs' List.not_mem_nil
      · rw [← List.cons_append, List.dropLast_concat]
        rw [List.length_append, List.length_singleton] at hclimbs
        exact ih hcs' (fun hmem => hbelow (List.mem_append_left _ hmem)) rest hrest (by omega)
    · rw [List.count_cons_of_ne hdots, List.countP_cons_of_neg (by simp [hname])] at hclimbs
      rw [henter]
      exact ih hcs' hbelow rest hrest hclimbs
    · rw [List.count_cons_of_ne hdots, List.countP_cons_of_pos hname] at hclimbs
      rw [henter, List.cons_append]
      refine ih hcs' ?_ rest hrest ?_
      · rw [List.mem_append, List.mem_singleton]
        exact not_or.2 ⟨hbelow, hc⟩
      · rw [List.length_append, List.length_singleton]
        omega

/-- A path that stays below leads into whatever directory it starts from. -/
theorem StaysBelow.descend (h : StaysBelow path) : base <+: descend base path := by
  rw [Path.descend, h.relative]
  have hbase : base <+: (lead path).foldl enter (base ++ []) := by
    refine prefix_foldl_enter fun front hfront => ?_
    rw [List.length_nil, Nat.zero_add]
    exact h.climbs front hfront
  rwa [List.append_nil] at hbase

/-- There is a name that a path does not go through. -/
theorem exists_fresh (path : String) : ∃ fresh, fresh ∉ lead path ∧ isName fresh = true ∧
    '/' ∉ fresh.toList := by
  refine ⟨String.ofList ('x' :: List.replicate path.length 'x'), fun hmem => ?_, ?_, ?_⟩
  · obtain ⟨part, hpart, heq⟩ := List.mem_map.1 (List.dropLast_subset _ hmem)
    have hlen := length_le_of_mem_splitSlashes hpart
    rw [String.ofList_injective heq, List.length_cons, List.length_replicate,
      String.length_toList] at hlen
    exact Nat.not_succ_le_self _ hlen
  · simp only [isName, Bool.and_eq_true, bne_iff_ne]
    refine ⟨⟨?_, ?_⟩, ?_⟩ <;> intro h <;> have := congrArg String.toList h <;> simp at this
  · simp

/-- A name behind a slash leads to the directory of that name. -/
theorem resolve_slash_append {start : List String} {name : String} (hname : isName name = true)
    (hslash : '/' ∉ name.toList) : resolve start ("/" ++ name) = [name] := by
  have hcomponents : components ("/" ++ name) = ["", name] := by
    have h := components_append_slash "" name
    rw [String.empty_append] at h
    rw [h, components, components, splitSlashes_of_notMem hslash]
    simp [splitSlashes]
  have habs : isAbsolute ("/" ++ name) = true := isAbsolute_append (by decide)
  rw [resolve_eq, habs, hcomponents]
  exact enter_of_isName hname

/-- A path stays below exactly if it leads into every directory that it is put into. -/
theorem staysBelow_iff : StaysBelow path ↔
    ∀ (start : List String) (directory : String),
      resolve start directory <+: descend (resolve start directory) path := by
  refine ⟨fun h start directory => h.descend, fun h => ?_⟩
  -- a directory whose name does not occur in the path cannot be come back to
  obtain ⟨fresh, hlead, hname, hslash⟩ := exists_fresh path
  have hmem : fresh ∈ descend [fresh] path := by
    have hprefix := h [] ("/" ++ fresh)
    rw [resolve_slash_append hname hslash] at hprefix
    exact hprefix.subset (List.mem_singleton_self fresh)
  refine ⟨?_, fun front hfront => ?_⟩
  · by_contra habs
    rw [descend, if_pos (Bool.of_not_eq_false habs)] at hmem
    exact not_mem_foldl_enter hlead List.not_mem_nil hmem
  · by_contra hclimbs
    unfold descend at hmem
    split at hmem
    · exact not_mem_foldl_enter hlead List.not_mem_nil hmem
    · refine not_mem_foldl_enter_of_climbs hlead List.not_mem_nil ⟨front, hfront, ?_⟩ hmem
      rw [List.length_nil, Nat.zero_add]
      exact Nat.lt_of_not_le hclimbs

end

/-- A name may go up as far as it has gone down. -/
example : StaysBelow "near/../far/dot" ∧ ¬ StaysBelow "near/../../dot" := by decide

end SceneScript.Path
