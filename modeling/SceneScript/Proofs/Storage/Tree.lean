import SceneScript.Proofs.Storage.Steps

/-!
# What stands where a path leads

A file system is a tree if whatever stands somewhere stands in a directory (`FileSystem.Rooted`).
There a path leads to the place that its steps come to (`Path.resolve`), provided that every place
on its way but the last is a directory (`FileSystem.Reaches`), and it is broken otherwise
(`FileSystem.leadsTo_locate`). So what a request does is said by the places on the way alone:
`FileSystem.isDirectory_iff`, `FileSystem.write_ok`.
-/

namespace SceneScript

/-- A location, whether or not the path ends with a slash. -/
def Location.bare : Location → Location
  | .file place content _ => .file place content false
  | .absent place _ => .absent place false
  | other => other

namespace FileSystem

/-- What stands at a place, as the location that a path without a slash at its end leads to. -/
def found (fs : FileSystem) (place : List String) : Location :=
  match fs.entry? place with
  | some .directory => .directory place
  | some (.file content) => .file place content false
  | none => .absent place false

/-- Where a path starts. -/
def origin (fs : FileSystem) (path : String) : List String :=
  if Path.isAbsolute path then [] else fs.here

/-- The places on the way of a path, from where it starts to where it leads. -/
def way (fs : FileSystem) (path : String) : List (List String) :=
  (Path.steps path).scanl Path.enter (fs.origin path)

/-- A path that the file system takes: a text that is not empty, without the character that no path
may hold, and not too long, nor are its names. -/
structure Usable (path : String) : Prop where
  nonempty : path ≠ ""
  noNul : hasNul path = false
  short : path.utf8ByteSize < 4096
  names : ∀ c ∈ Path.steps path, c.utf8ByteSize ≤ 255

/-- The tree is one: the working directory is there, and so is the directory of whatever stands
somewhere. -/
structure Rooted (fs : FileSystem) : Prop where
  here : fs.entry? fs.here = some .directory
  above : ∀ place e, fs.entry? place = some e → fs.entry? place.dropLast = some .directory

/-- A path can be followed to its last step: all places on its way but the last are directories. -/
structure Reaches (fs : FileSystem) (path : String) : Prop where
  usable : Usable path
  through : ∀ place ∈ (fs.way path).dropLast, fs.entry? place = some .directory

/-- Steps from a directory that can be followed to the last one. -/
structure Passes (fs : FileSystem) (here cs : List String) : Prop where
  names : ∀ c ∈ cs, c.utf8ByteSize ≤ 255
  through : ∀ place ∈ (cs.scanl Path.enter here).dropLast, fs.entry? place = some .directory

/-- What was a directory stays one. -/
structure Keeps (fs fs' : FileSystem) : Prop where
  here : fs'.here = fs.here
  directory : ∀ place, fs.entry? place = some .directory → fs'.entry? place = some .directory

section
variable {fs fs' : FileSystem} {here place cs more : List String} {e : Entry}
  {c path front rest : String}

/-! ## Entries -/

/-- The top directory is always there. -/
@[simp]
theorem entry?_nil : fs.entry? [] = some .directory := rfl

/-- What stands at another place is among the entries. -/
theorem entry?_of_ne (h : place ≠ []) :
    fs.entry? place = (fs.entries.find? (·.1 == place)).map (·.2) :=
  if_neg (by simpa using h)

/-- What is put at a place is there, and all else is as it was. -/
theorem entry?_put (h : place ≠ []) (other : List String) :
    entry? (fs.put place e) other = if other = place then some e else fs.entry? other := by
  by_cases hnil : other = []
  · subst hnil
    rw [if_neg (Ne.symm h)]
    rfl
  rw [entry?_of_ne hnil, entry?_of_ne hnil, put, List.find?_append]
  split
  · next heq =>
    subst heq
    have hnone : (fs.entries.filter (·.1 != other)).find? (·.1 == other) = none := by
      refine List.find?_eq_none.2 fun entry hentry => ?_
      simpa using (List.mem_filter.1 hentry).2
    rw [hnone, Option.none_or, List.find?_singleton, if_pos (beq_self_eq_true other)]
    rfl
  · next hne =>
    have hsame : (fs.entries.filter (·.1 != place)).find? (·.1 == other) =
        fs.entries.find? (·.1 == other) := by
      rw [List.find?_filter]
      congr 1
      funext entry
      by_cases heq : entry.1 = other
      · simp [heq, hne]
      · simp [heq]
    have hother : ¬ (place == other) = true := by simpa using Ne.symm hne
    rw [hsame, List.find?_singleton, if_neg hother, Option.or_none]

/-- A new entry, or another content of a file, keeps the directories. -/
theorem keeps_put (hne : place ≠ []) (h : fs.entry? place ≠ some .directory) :
    fs.Keeps (fs.put place e) := by
  refine ⟨rfl, fun other hother => ?_⟩
  rw [entry?_put hne, if_neg]
  · exact hother
  · rintro rfl
    exact h hother

/-- A tree stays one when something is put into a directory, where no directory stood. -/
theorem Rooted.put (hfs : fs.Rooted) (hne : place ≠ [])
    (habove : fs.entry? place.dropLast = some .directory)
    (h : fs.entry? place ≠ some .directory) : (fs.put place e).Rooted := by
  have hkeeps : fs.Keeps (fs.put place e) := keeps_put hne h
  refine ⟨hkeeps.directory _ hfs.here, fun other e' hother => hkeeps.directory _ ?_⟩
  rw [entry?_put hne] at hother
  split at hother
  · next heq => rwa [heq]
  · exact hfs.above other e' hother

/-- What is kept twice is kept. -/
theorem Keeps.trans {fs'' : FileSystem} (h : fs.Keeps fs') (h' : fs'.Keeps fs'') :
    fs.Keeps fs'' :=
  ⟨h'.here.trans h.here, fun place hplace => h'.directory place (h.directory place hplace)⟩

/-! ## Following steps -/

/-- A step leads from a directory of a tree to a directory, or to a name in it. -/
theorem Rooted.enter (hfs : fs.Rooted) (hhere : fs.entry? here = some .directory)
    (h : Path.isName c = false) : fs.entry? (Path.enter here c) = some .directory := by
  obtain rfl | ⟨-, -, henter⟩ | ⟨-, hname, -⟩ := Path.enter_cases c
  · exact hfs.above here _ hhere
  · rwa [henter]
  · exact absurd h (by simp [hname])

/-- A step that is not a name is short. -/
theorem size_of_not_isName (h : Path.isName c = false) : c.utf8ByteSize ≤ 255 := by
  have hcases : ¬ c = "" → ¬ c = "." → c = ".." := by simpa [Path.isName] using h
  by_cases hempty : c = ""
  · subst hempty
    decide
  by_cases hdot : c = "."
  · subst hdot
    decide
  obtain rfl := hcases hempty hdot
  decide

/-- A step that is not a name is taken wherever one is. -/
theorem walk_of_not_isName (h : Path.isName c = false) :
    fs.walk here (c :: cs) = fs.walk (Path.enter here c) cs := by
  obtain rfl | ⟨hdots, -, henter⟩ | ⟨-, hname, -⟩ := Path.enter_cases c
  · rfl
  · by_cases hnone : c = "" ∨ c = "."
    · rw [walk, if_pos hnone, henter]
    · exact absurd h (by simp [Path.isName, not_or.1 hnone, hdots])
  · exact absurd h (by simp [hname])

/-- A name is looked up in a directory. -/
theorem walk_name (h : Path.isName c = true) : fs.walk here (c :: cs) =
    if 255 < c.utf8ByteSize then .broken .nameTooLong
    else
      match fs.entry? (here ++ [c]) with
      | some .directory => fs.walk (here ++ [c]) cs
      | some (.file content) =>
        if cs.all (· == "") then .file (here ++ [c]) content (!cs.isEmpty)
        else .broken .notDirectory
      | none =>
        if cs.all (· == "") then .absent (here ++ [c]) (!cs.isEmpty) else .broken .missing := by
  simp only [Path.isName, Bool.and_eq_true, bne_iff_ne] at h
  rw [walk, if_neg (not_or.2 h.1)]
  exact if_neg h.2

/-- A last name leads to what stands there. -/
theorem walk_last (h : Path.isName c = true) (hsize : c.utf8ByteSize ≤ 255) :
    fs.walk here [c] = fs.found (here ++ [c]) := by
  rw [walk_name h, if_neg (Nat.not_lt.2 hsize), found]
  cases fs.entry? (here ++ [c]) with
  | none => rfl
  | some e => cases e <;> rfl

/-- A name that is no directory leads no further. -/
theorem walk_blocked (h : Path.isName c = true) (hentry : fs.entry? (here ++ [c]) ≠ some .directory)
    {d : String} (hd : d ≠ "") : ∃ why, fs.walk here (c :: d :: cs) = .broken why := by
  have hall : ¬ ((d :: cs).all (· == "")) = true := by simp [hd]
  rw [walk_name h]
  by_cases hsize : 255 < c.utf8ByteSize
  · exact ⟨_, if_pos hsize⟩
  rw [if_neg hsize]
  cases he : fs.entry? (here ++ [c]) with
  | none => exact ⟨_, if_neg hall⟩
  | some e =>
    cases e with
    | directory => exact absurd he hentry
    | file content => exact ⟨_, if_neg hall⟩

/-- Steps are followed one after the other, each from a directory. -/
theorem passes_cons : fs.Passes here (c :: cs) ↔
    c.utf8ByteSize ≤ 255 ∧ fs.entry? here = some .directory ∧
      fs.Passes (Path.enter here c) cs := by
  have hplaces : ((c :: cs).scanl Path.enter here).dropLast =
      here :: (cs.scanl Path.enter (Path.enter here c)).dropLast := by
    rw [List.scanl_cons, List.dropLast_cons_of_ne_nil List.scanl_ne_nil]
  constructor
  · rintro ⟨hnames, hthrough⟩
    rw [hplaces] at hthrough
    exact ⟨hnames c List.mem_cons_self, hthrough here List.mem_cons_self,
      fun d hd => hnames d (List.mem_cons_of_mem _ hd),
      fun place hplace => hthrough place (List.mem_cons_of_mem _ hplace)⟩
  · rintro ⟨hc, hhere, hnames, hthrough⟩
    refine ⟨List.forall_mem_cons.2 ⟨hc, hnames⟩, ?_⟩
    rw [hplaces]
    exact List.forall_mem_cons.2 ⟨hhere, hthrough⟩

/-- Steps that are not empty, from a directory, lead to what stands where they come to, if they can
be followed to the last one, and nowhere otherwise. -/
theorem walk_cases (hfs : fs.Rooted) (hhere : fs.entry? here = some .directory)
    (hcs : ∀ c ∈ cs, c ≠ "") :
    fs.Passes here cs ∧ fs.walk here cs = fs.found (cs.foldl Path.enter here) ∨
      ¬ fs.Passes here cs ∧ ∃ why, fs.walk here cs = .broken why := by
  induction cs generalizing here with
  | nil =>
    refine .inl ⟨⟨by simp, by simp⟩, ?_⟩
    rw [List.foldl_nil, found, hhere]
    rfl
  | cons c cs ih =>
    obtain ⟨-, hrest⟩ := List.forall_mem_cons.1 hcs
    rw [passes_cons, List.foldl_cons]
    cases hname : Path.isName c with
    | false =>
      have hsize : c.utf8ByteSize ≤ 255 := size_of_not_isName hname
      rw [walk_of_not_isName hname]
      simpa only [hsize, hhere, true_and] using ih (hfs.enter hhere hname) hrest
    | true =>
      rw [Path.enter_of_isName hname]
      by_cases hsize : c.utf8ByteSize ≤ 255
      swap
      · refine .inr ⟨fun h => hsize h.1, .nameTooLong, ?_⟩
        rw [walk_name hname, if_pos (Nat.lt_of_not_le hsize)]
      simp only [hsize, hhere, true_and]
      by_cases hentry : fs.entry? (here ++ [c]) = some .directory
      · have hwalk : fs.walk here (c :: cs) = fs.walk (here ++ [c]) cs := by
          rw [walk_name hname, if_neg (Nat.not_lt.2 hsize), hentry]
        rw [hwalk]
        exact ih hentry hrest
      · -- only the last step may lead to something that is no directory
        cases cs with
        | nil => exact .inl ⟨⟨by simp, by simp⟩, walk_last hname hsize⟩
        | cons d cs =>
          obtain ⟨hd, -⟩ := List.forall_mem_cons.1 hrest
          exact .inr ⟨fun h => hentry (passes_cons.1 h).2.1, walk_blocked hname hentry hd⟩

/-- Empty steps between others change nothing but whether the path ends with a slash. -/
theorem bare_walk_filter :
    (fs.walk here (cs.filter (· != ""))).bare = (fs.walk here cs).bare := by
  induction cs generalizing here with
  | nil => rfl
  | cons c cs ih =>
    by_cases hempty : c = ""
    · subst hempty
      exact ih
    rw [List.filter_cons_of_pos (by simpa using hempty)]
    cases hname : Path.isName c with
    | false => rw [walk_of_not_isName hname, walk_of_not_isName hname, ih]
    | true =>
      have hall : (cs.filter (· != "")).all (· == "") = cs.all (· == "") := by
        rw [List.all_filter]
        congr 1
        funext d
        by_cases hd : d = "" <;> simp [hd]
      rw [walk_name hname, walk_name hname, hall]
      split
      · rfl
      cases fs.entry? (here ++ [c]) with
      | none => cases cs.all (· == "") <;> rfl
      | some e =>
        cases e with
        | directory => exact ih
        | file content => cases cs.all (· == "") <;> rfl

/-! ## Following a path -/

/-- A path of a tree starts from a directory. -/
theorem Rooted.origin (hfs : fs.Rooted) (path : String) :
    fs.entry? (fs.origin path) = some .directory := by
  rw [FileSystem.origin]
  split
  · rfl
  · exact hfs.here

/-- The steps of a path come to the place that it resolves to. -/
theorem foldl_steps (fs : FileSystem) (path : String) :
    (Path.steps path).foldl Path.enter (fs.origin path) = Path.resolve fs.here path := by
  rw [Path.resolve_eq, Path.steps, origin]
  generalize (if Path.isAbsolute path then [] else fs.here) = here
  induction Path.components path generalizing here with
  | nil => rfl
  | cons c cs ih =>
    by_cases hempty : c = ""
    · subst hempty
      exact ih here
    · rw [List.filter_cons_of_pos (by simpa using hempty)]
      exact ih _

/-- The way of a path ends where it resolves to. -/
theorem way_eq (fs : FileSystem) (path : String) :
    fs.way path = (fs.way path).dropLast ++ [Path.resolve fs.here path] := by
  have hne : fs.way path ≠ [] := List.scanl_ne_nil
  have hlast : (fs.way path).getLast hne = Path.resolve fs.here path :=
    (List.getLast_scanl _).trans (foldl_steps fs path)
  conv_lhs => rw [← List.dropLast_append_getLast hne, hlast]

/-- What a path leads to: what stands at the place that it resolves to, if that is reached. -/
inductive LeadsTo (fs : FileSystem) (path : String) : Location → Prop
  | directory : fs.Reaches path → fs.entry? (Path.resolve fs.here path) = some .directory →
      LeadsTo fs path (.directory (Path.resolve fs.here path))
  | file {content : Content} {slash : Bool} : fs.Reaches path →
      fs.entry? (Path.resolve fs.here path) = some (.file content) →
      LeadsTo fs path (.file (Path.resolve fs.here path) content slash)
  | absent {slash : Bool} : fs.Reaches path → fs.entry? (Path.resolve fs.here path) = none →
      LeadsTo fs path (.absent (Path.resolve fs.here path) slash)
  | broken {why : FileFault} : ¬ fs.Reaches path → LeadsTo fs path (.broken why)

/-- A path leads to what stands where it resolves to, if its way is one of directories. -/
theorem leadsTo_locate (hfs : fs.Rooted) (hnul : hasNul path = false) :
    fs.LeadsTo path (fs.locate path) := by
  rw [locate]
  split
  · next hempty => exact .broken fun h => h.usable.nonempty (String.isEmpty_iff.1 hempty)
  split
  · next hlong => exact .broken fun h => Nat.not_le.2 h.usable.short hlong
  next hnonempty hshort =>
  have hbare : (fs.walk (fs.origin path) (Path.components path)).bare =
      (fs.walk (fs.origin path) (Path.steps path)).bare := bare_walk_filter.symm
  obtain ⟨hpasses, hwalk⟩ | ⟨hpasses, why, hwalk⟩ :=
    walk_cases hfs (hfs.origin path) fun c hc => Path.ne_empty_of_mem_steps hc
  · have hreaches : fs.Reaches path :=
      ⟨⟨fun h => hnonempty (String.isEmpty_iff.2 h), hnul, Nat.lt_of_not_le hshort,
        hpasses.names⟩, hpasses.through⟩
    rw [hwalk, foldl_steps, found] at hbare
    rw [origin] at hbare
    generalize fs.walk _ (Path.components path) = found at hbare ⊢
    split at hbare
    · next hentry =>
      cases found <;> cases hbare
      exact .directory hreaches hentry
    · next hentry =>
      cases found <;> cases hbare
      exact .file hreaches hentry
    · next hentry =>
      cases found <;> cases hbare
      exact .absent hreaches hentry
  · have hreaches : ¬ fs.Reaches path := fun h => hpasses ⟨h.usable.names, h.through⟩
    rw [hwalk, origin] at hbare
    generalize fs.walk _ (Path.components path) = found at hbare ⊢
    cases found <;> cases hbare
    exact .broken hreaches

/-! ## What requests say -/

/-- A path leads to a directory if it is reached and one stands there. -/
theorem isDirectory_iff_reaches (hfs : fs.Rooted) : fs.isDirectory path = true ↔
    fs.Reaches path ∧ fs.entry? (Path.resolve fs.here path) = some .directory := by
  cases hnul : hasNul path with
  | true =>
    rw [isDirectory, hnul]
    exact ⟨fun h => (by cases h), fun h => (by cases hnul.symm.trans h.1.usable.noNul)⟩
  | false =>
    have hlead := leadsTo_locate hfs hnul
    rw [isDirectory, hnul]
    generalize fs.locate path = l at hlead
    cases hlead with
    | directory hreaches hentry => exact ⟨fun _ => ⟨hreaches, hentry⟩, fun _ => rfl⟩
    | file hreaches hentry | absent hreaches hentry =>
      exact ⟨fun h => (by cases h), fun h => (by cases hentry.symm.trans h.2)⟩
    | broken hreaches => exact ⟨fun h => (by cases h), fun h => absurd h.1 hreaches⟩

/-- A path leads to a directory if the file system takes it and all places on its way are
directories. -/
theorem isDirectory_iff (hfs : fs.Rooted) : fs.isDirectory path = true ↔
    Usable path ∧ ∀ place ∈ fs.way path, fs.entry? place = some .directory := by
  rw [isDirectory_iff_reaches hfs, way_eq, List.forall_mem_append, List.forall_mem_singleton,
    ← and_assoc]
  exact and_congr_left' ⟨fun h => ⟨h.usable, h.through⟩, fun h => ⟨h.1, h.2⟩⟩

/-- A path that leads to something is reached. -/
theorem reaches_of_exists? (hfs : fs.Rooted) (h : fs.exists? path = true) :
    fs.Reaches path ∧ fs.entry? (Path.resolve fs.here path) ≠ none := by
  cases hnul : hasNul path with
  | true =>
    rw [exists?, hnul] at h
    cases h
  | false =>
    have hlead := leadsTo_locate hfs hnul
    rw [exists?, hnul] at h
    generalize fs.locate path = l at h hlead
    cases hlead with
    | directory hreaches hentry | file hreaches hentry => exact ⟨hreaches, by simp [hentry]⟩
    | absent | broken => cases h

/-- A directory is something. -/
theorem exists?_of_isDirectory (h : fs.isDirectory path = true) : fs.exists? path = true := by
  rw [isDirectory, Bool.and_eq_true] at h
  rw [exists?, h.1]
  generalize fs.locate path = l at h
  cases l with
  | directory => rfl
  | file | absent | broken => cases h.2

/-- A file that is written is put where its path leads, and no directory stood there. -/
theorem write_ok (hfs : fs.Rooted) {content : Content} (h : fs.write path content = .ok fs') :
    fs.Reaches path ∧ fs.entry? (Path.resolve fs.here path) ≠ some .directory ∧
      fs' = fs.put (Path.resolve fs.here path) (.file content) := by
  cases hnul : hasNul path with
  | true =>
    rw [write, hnul] at h
    cases h
  | false =>
    have hlead := leadsTo_locate hfs hnul
    rw [write, hnul, if_neg Bool.false_ne_true] at h
    generalize fs.locate path = l at h hlead
    cases hlead with
    | @file _ slash hreaches hentry | @absent slash hreaches hentry =>
      cases slash <;> cases h
      exact ⟨hreaches, by simp [hentry], rfl⟩
    | directory | broken => cases h

/-- What a path begins with is taken if the path is, unless there is nothing. -/
theorem Usable.of_append (h : Usable path) (hpath : path = front ++ rest) (hne : front ≠ "")
    (hsteps : Path.steps front ⊆ Path.steps path) : Usable front := by
  refine ⟨hne, ?_, ?_, fun c hc => h.names c (hsteps hc)⟩
  · have hnul := h.noNul
    rw [hasNul, List.contains_eq_mem, decide_eq_false_iff_not] at hnul ⊢
    refine fun hmem => hnul ?_
    rw [hpath, String.toList_append]
    exact List.mem_append_left _ hmem
  · have hshort := h.short
    rw [hpath, String.utf8ByteSize_append] at hshort
    exact Nat.lt_of_le_of_lt (Nat.le_add_right ..) hshort

/-- What a path that is reached begins with leads to a directory, if steps are left. -/
theorem Reaches.isDirectory (hfs : fs.Rooted) (h : fs.Reaches path) (hpath : path = front ++ rest)
    (hne : front ≠ "") (habs : Path.isAbsolute front = Path.isAbsolute path)
    (hsteps : Path.steps path = Path.steps front ++ more) (hmore : more ≠ []) :
    fs.isDirectory front = true := by
  have hsubset : Path.steps front ⊆ Path.steps path := by
    rw [hsteps]
    exact List.subset_append_left ..
  refine (isDirectory_iff hfs).2 ⟨h.usable.of_append hpath hne hsubset, fun place hplace => ?_⟩
  refine h.through place ?_
  have hmem : place ∈ (Path.steps front).scanl Path.enter (fs.origin path) := by
    rwa [way, origin, habs] at hplace
  have htail : ((more.scanl Path.enter
      ((Path.steps front).foldl Path.enter (fs.origin path))).tail) ≠ [] := by
    cases more with
    | nil => exact absurd rfl hmore
    | cons c cs =>
      rw [List.scanl_cons, List.tail_cons]
      exact List.scanl_ne_nil
  rw [way, hsteps, List.scanl_append, List.dropLast_append_of_ne_nil htail]
  exact List.mem_append_left _ hmem

/-- The places on the way of a path but the last are those on the way of its steps but the last. -/
theorem dropLast_way (h : Path.steps path = cs ++ [c]) :
    (fs.way path).dropLast = cs.scanl Path.enter (fs.origin path) := by
  rw [way, h, List.scanl_append, List.scanl_cons, List.tail_cons, List.scanl_nil,
    List.dropLast_concat]

/-- Where a path leads to no directory, it leads to a name in one. -/
theorem Reaches.above (hfs : fs.Rooted) (h : fs.Reaches path)
    (hentry : fs.entry? (Path.resolve fs.here path) ≠ some .directory) :
    Path.resolve fs.here path ≠ [] ∧
      fs.entry? (Path.resolve fs.here path).dropLast = some .directory := by
  refine ⟨fun hnil => hentry (hnil ▸ entry?_nil), ?_⟩
  have hresolve := foldl_steps fs path
  obtain hnil | ⟨cs, c, hcs⟩ := List.eq_nil_or_concat' (Path.steps path)
  · rw [hnil, List.foldl_nil] at hresolve
    exact absurd (hresolve ▸ hfs.origin path) hentry
  · rw [hcs, List.foldl_concat] at hresolve
    have hmem : cs.foldl Path.enter (fs.origin path) ∈ (fs.way path).dropLast := by
      rw [dropLast_way hcs]
      exact List.mem_of_getLast? (List.getLast?_scanl)
    have habove := h.through _ hmem
    cases hname : Path.isName c with
    | false => exact absurd (hresolve ▸ hfs.enter habove hname) hentry
    | true => rwa [← hresolve, Path.enter_of_isName hname, List.dropLast_concat]

/-! ## What is kept -/

/-- A path that is reached stays so as long as directories are kept. -/
theorem Reaches.keep (h : fs.Reaches path) (hkeeps : fs.Keeps fs') : fs'.Reaches path := by
  refine ⟨h.usable, fun place hplace => hkeeps.directory place (h.through place ?_)⟩
  rwa [way, origin, hkeeps.here] at hplace

/-- A file that is written leaves a tree, with the directories that there were. -/
theorem keeps_of_write_ok (hfs : fs.Rooted) {content : Content}
    (h : fs.write path content = .ok fs') : fs'.Rooted ∧ fs.Keeps fs' := by
  obtain ⟨hreaches, hentry, rfl⟩ := write_ok hfs h
  obtain ⟨hne, habove⟩ := hreaches.above hfs hentry
  exact ⟨hfs.put hne habove hentry, keeps_put hne hentry⟩

/-- A tree can be told by looking at its entries. -/
theorem rooted_iff : fs.Rooted ↔ fs.entry? fs.here = some .directory ∧
    ∀ entry ∈ fs.entries, fs.entry? entry.1.dropLast = some .directory := by
  constructor
  · intro h
    refine ⟨h.here, fun entry hmem => ?_⟩
    by_cases hnil : entry.1 = []
    · rw [hnil]
      rfl
    cases hentry : fs.entry? entry.1 with
    | some e => exact h.above _ e hentry
    | none =>
      rw [entry?_of_ne hnil, Option.map_eq_none_iff, List.find?_eq_none] at hentry
      exact absurd (beq_self_eq_true entry.1) (hentry entry hmem)
  · rintro ⟨hhere, habove⟩
    refine ⟨hhere, fun place e hentry => ?_⟩
    by_cases hnil : place = []
    · rw [hnil]
      rfl
    rw [entry?_of_ne hnil] at hentry
    obtain ⟨entry, hfind, -⟩ := Option.map_eq_some_iff.1 hentry
    have hplace : entry.1 = place := by simpa using List.find?_some hfind
    exact hplace ▸ habove entry (List.mem_of_find?_eq_some hfind)

end

end FileSystem

end SceneScript
