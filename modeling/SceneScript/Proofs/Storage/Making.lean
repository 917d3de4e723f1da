import SceneScript.Proofs.Storage.Tree

/-!
# Making directories

Whatever becomes of a request for directories, it adds directories and changes nothing else
(`FileSystem.makeDirectories_gains`). A directory is there afterwards exactly if the file system
takes its path and no file stands on the way (`FileSystem.isDirectory_makeDirectories_iff`). Then
the request succeeds, and otherwise it fails (`FileSystem.makeDirectories_ok_iff`) unless the path
ends in a dot: that is not looked up, and a file that comes into reach only as the directories above
it are made passes for a directory.
-/

namespace SceneScript.FileSystem

/-- No file stands on the way of a path. -/
def Clear (fs : FileSystem) (path : String) : Prop :=
  ∀ place ∈ fs.way path, ∀ content, fs.entry? place ≠ some (.file content)

/-- Directories were added, and nothing else has changed. -/
structure Gains (fs fs' : FileSystem) : Prop where
  here : fs'.here = fs.here
  entry : ∀ place, fs'.entry? place = fs.entry? place ∨
    fs.entry? place = none ∧ fs'.entry? place = some .directory

section
variable {fs fs' fs'' : FileSystem} {place : List String} {path : String} {fault : Fault}

/-! ## What is gained -/

theorem Gains.refl (fs : FileSystem) : fs.Gains fs := ⟨rfl, fun _ => .inl rfl⟩

theorem Gains.trans (h : fs.Gains fs') (h' : fs'.Gains fs'') : fs.Gains fs'' := by
  refine ⟨h'.here.trans h.here, fun place => ?_⟩
  obtain hsame' | ⟨hnone', hnew'⟩ := h'.entry place
  · rw [hsame']
    exact h.entry place
  · obtain hsame | ⟨-, hnew⟩ := h.entry place
    · exact .inr ⟨hsame ▸ hnone', hnew'⟩
    · cases hnone'.symm.trans hnew

/-- What gains directories keeps those that there were. -/
theorem Gains.keeps (h : fs.Gains fs') : fs.Keeps fs' := by
  refine ⟨h.here, fun place hplace => ?_⟩
  obtain hsame | ⟨-, hnew⟩ := h.entry place
  · rwa [hsame]
  · exact hnew

/-- A directory where nothing stood is gained. -/
theorem gains_put (hne : place ≠ []) (h : fs.entry? place = none) :
    fs.Gains (fs.put place .directory) := by
  refine ⟨rfl, fun other => ?_⟩
  rw [entry?_put hne]
  split
  · next heq => exact .inr ⟨heq ▸ h, rfl⟩
  · exact .inl rfl

/-- Directories that are gained have the same places on their ways. -/
theorem Gains.way_eq (h : fs.Gains fs') (path : String) : fs'.way path = fs.way path := by
  rw [way, way, origin, origin, h.here]

/-- A way stays clear when directories are gained. -/
theorem Clear.gains (hclear : fs.Clear path) (h : fs.Gains fs') : fs'.Clear path := by
  intro place hplace content hcontent
  rw [h.way_eq] at hplace
  obtain hsame | ⟨-, hnew⟩ := h.entry place
  · exact hclear place hplace content (hsame ▸ hcontent)
  · cases hnew.symm.trans hcontent

/-- A way is clear, and its path one that is taken, if it leads to a directory when some have been
gained. -/
theorem clear_of_isDirectory (h : fs.Gains fs') (hfs' : fs'.Rooted)
    (hdir : fs'.isDirectory path = true) : Usable path ∧ fs.Clear path := by
  obtain ⟨husable, hway⟩ := (isDirectory_iff hfs').1 hdir
  refine ⟨husable, fun place hplace content hcontent => ?_⟩
  rw [← h.way_eq] at hplace
  obtain hsame | ⟨hnone, -⟩ := h.entry place
  · cases (hway place hplace).symm.trans (hsame.trans hcontent)
  · cases hnone.symm.trans hcontent

/-! ## One directory -/

/-- A directory is made where a path leads to nothing. -/
theorem makeDirectory_ok_iff (hfs : fs.Rooted) : fs.makeDirectory path = .ok fs' ↔
    fs.Reaches path ∧ fs.entry? (Path.resolve fs.here path) = none ∧
      fs' = fs.put (Path.resolve fs.here path) .directory := by
  cases hnul : hasNul path with
  | true =>
    rw [makeDirectory, hnul, if_pos rfl]
    exact ⟨fun h => (by cases h), fun h => (by cases hnul.symm.trans h.1.usable.noNul)⟩
  | false =>
    have hlead := leadsTo_locate hfs hnul
    rw [makeDirectory, hnul, if_neg Bool.false_ne_true]
    generalize fs.locate path = l at hlead
    cases hlead with
    | absent hreaches hentry =>
      exact ⟨fun h => ⟨hreaches, hentry, (by cases h; rfl)⟩, fun h => (by rw [h.2.2]; rfl)⟩
    | directory hreaches hentry | file hreaches hentry =>
      exact ⟨fun h => (by cases h), fun h => (by cases hentry.symm.trans h.2.1)⟩
    | broken hreaches => exact ⟨fun h => (by cases h), fun h => absurd h.1 hreaches⟩

/-- A directory that is made is gained, and is there. -/
theorem makeDirectory_ok (hfs : fs.Rooted) (h : fs.makeDirectory path = .ok fs') :
    fs.Gains fs' ∧ fs'.Rooted ∧ fs'.isDirectory path = true := by
  obtain ⟨hreaches, hnone, rfl⟩ := (makeDirectory_ok_iff hfs).1 h
  have hentry : fs.entry? (Path.resolve fs.here path) ≠ some .directory := by simp [hnone]
  obtain ⟨hne, habove⟩ := hreaches.above hfs hentry
  have hrooted : (fs.put (Path.resolve fs.here path) .directory).Rooted :=
    hfs.put hne habove hentry
  refine ⟨gains_put hne hnone, hrooted, (isDirectory_iff_reaches hrooted).2 ⟨?_, ?_⟩⟩
  · exact hreaches.keep (keeps_put hne hentry)
  · rw [entry?_put hne]
    exact if_pos rfl

/-- A last directory that is made is gained, and is there if the request succeeds. -/
theorem makeLast_spec (hfs : fs.Rooted) (path : String) :
    fs.Gains (fs.makeLast path).2 ∧ (fs.makeLast path).2.Rooted ∧
      ((fs.makeLast path).1 = .ok () → (fs.makeLast path).2.isDirectory path = true) := by
  rw [makeLast]
  split
  · next made hmade =>
    obtain ⟨hgains, hrooted, hdir⟩ := makeDirectory_ok hfs hmade
    exact ⟨hgains, hrooted, fun _ => hdir⟩
  · split
    · next hdir => exact ⟨.refl fs, hfs, fun _ => hdir⟩
    · exact ⟨.refl fs, hfs, fun h => (by cases h)⟩

/-- A directory that is there is as good as made. -/
theorem makeLast_of_isDirectory (hfs : fs.Rooted) (h : fs.isDirectory path = true) :
    fs.makeLast path = (.ok (), fs) := by
  rw [makeLast]
  split
  · next made hmade =>
    obtain ⟨-, hnone, -⟩ := (makeDirectory_ok_iff hfs).1 hmade
    cases hnone.symm.trans ((isDirectory_iff_reaches hfs).1 h).2
  · rw [if_pos h]

/-- A last directory is made where a path leads to no file. -/
theorem makeLast_ok (hfs : fs.Rooted) (h : fs.Reaches path)
    (hfile : ∀ content, fs.entry? (Path.resolve fs.here path) ≠ some (.file content)) :
    (fs.makeLast path).1 = .ok () := by
  cases hentry : fs.entry? (Path.resolve fs.here path) with
  | none =>
    have hmade := (makeDirectory_ok_iff hfs).2 ⟨h, hentry, rfl⟩
    rw [makeLast, hmade]
  | some e =>
    cases e with
    | file content => exact absurd hentry (hfile content)
    | directory =>
      rw [makeLast_of_isDirectory hfs ((isDirectory_iff_reaches hfs).2 ⟨h, hentry⟩)]

/-! ## A directory and those above it -/

/-- The last directory is made by itself if none is above it or that is there, and after the one
above it otherwise. -/
theorem makeWithin_succ (n : Nat) (fs : FileSystem) (path : String) : fs.makeWithin (n + 1) path =
    if (parent path).1.isEmpty || (parent path).2.isEmpty || fs.exists? (parent path).1 then
      fs.makeLast path
    else
      match (fs.makeWithin n (parent path).1).1 with
      | .error (.file .alreadyThere _) | .ok () =>
        if (parent path).2 = "." then (.ok (), (fs.makeWithin n (parent path).1).2)
        else (fs.makeWithin n (parent path).1).2.makeLast path
      | .error fault => (.error fault, (fs.makeWithin n (parent path).1).2) := by
  refine (makeWithin.eq_2 ..).trans ?_
  generalize parent path = named
  obtain ⟨above, last⟩ := named
  rfl

/-- A request ends by making the last directory, at a dot, or with the fault of one above. -/
theorem makeWithin_cases (n : Nat) (fs : FileSystem) (path : String) :
    fs.makeWithin (n + 1) path = fs.makeLast path ∨
    fs.makeWithin (n + 1) path = (fs.makeWithin n (parent path).1).2.makeLast path ∨
    ((parent path).2 = "." ∧
      fs.makeWithin (n + 1) path = (.ok (), (fs.makeWithin n (parent path).1).2)) ∨
    ∃ fault, fs.makeWithin (n + 1) path = (.error fault, (fs.makeWithin n (parent path).1).2) := by
  have hlast : ∀ made : FileSystem,
      (if (parent path).2 = "." then (.ok (), made) else made.makeLast path) =
        made.makeLast path ∨ ((parent path).2 = "." ∧
      (if (parent path).2 = "." then (.ok (), made) else made.makeLast path) = (.ok (), made)) := by
    intro made
    by_cases hdot : (parent path).2 = "."
    · exact .inr ⟨hdot, if_pos hdot⟩
    · exact .inl (if_neg hdot)
  rw [makeWithin_succ]
  split
  · exact .inl rfl
  refine .inr ?_
  split
  · exact (hlast _).imp_right .inl
  · exact (hlast _).imp_right .inl
  · exact .inr (.inr ⟨_, rfl⟩)

/-- Whatever becomes of a request for directories, it gains directories. -/
theorem makeWithin_gains (n : Nat) (hfs : fs.Rooted) (path : String) :
    fs.Gains (fs.makeWithin n path).2 ∧ (fs.makeWithin n path).2.Rooted := by
  induction n generalizing path with
  | zero =>
    obtain ⟨hgains, hrooted, -⟩ := makeLast_spec hfs path
    exact ⟨hgains, hrooted⟩
  | succ n ih =>
    obtain ⟨habove, hrooted⟩ := ih (parent path).1
    obtain h | h | ⟨-, h⟩ | ⟨fault, h⟩ := makeWithin_cases n fs path <;> rw [h]
    · obtain ⟨hgains, hrooted, -⟩ := makeLast_spec hfs path
      exact ⟨hgains, hrooted⟩
    · obtain ⟨hgains, hrooted, -⟩ := makeLast_spec hrooted path
      exact ⟨habove.trans hgains, hrooted⟩
    · exact ⟨habove, hrooted⟩
    · exact ⟨habove, hrooted⟩

/-- A request for directories that succeeds has made the directory, if its last step is looked
up. -/
theorem isDirectory_of_makeWithin_ok {n : Nat} (hfs : fs.Rooted) (hdot : (parent path).2 ≠ ".")
    (hok : (fs.makeWithin n path).1 = .ok ()) :
    (fs.makeWithin n path).2.isDirectory path = true := by
  cases n with
  | zero => exact (makeLast_spec hfs path).2.2 hok
  | succ n =>
    obtain ⟨-, hrooted⟩ := makeWithin_gains n hfs (parent path).1
    obtain h | h | ⟨hdot', -⟩ | ⟨fault, h⟩ := makeWithin_cases n fs path
    · rw [h] at hok ⊢
      exact (makeLast_spec hfs path).2.2 hok
    · rw [h] at hok ⊢
      exact (makeLast_spec hrooted path).2.2 hok
    · exact absurd hdot' hdot
    · rw [h] at hok
      cases hok

/-- The way of a path is that of its parent and where the last step leads from there. -/
theorem way_parent (fs : FileSystem) (h : (parent path).2 ≠ "") : fs.way path =
    fs.way (parent path).1 ++
      [Path.enter (Path.resolve fs.here (parent path).1) (parent path).2] := by
  rw [way, Path.steps_parent, Path.steps_parent_name h, List.scanl_append, ← foldl_steps, way,
    origin, origin, Path.isAbsolute_parent]
  rfl

/-- The parent of a path that is taken is taken, unless there is none. -/
theorem Usable.parent (h : Usable path) (hne : (parent path).1 ≠ "") :
    Usable (parent path).1 := by
  obtain ⟨rest, hrest, -⟩ := Path.exists_eq_parent_append path
  refine h.of_append hrest hne ?_
  rw [Path.steps_parent path]
  exact List.subset_append_left ..

/-- The way of the parent is clear if that of the path is. -/
theorem Clear.parent (h : fs.Clear path) (hlast : (parent path).2 ≠ "") :
    fs.Clear (parent path).1 := by
  intro place hplace
  refine h place ?_
  rw [way_parent fs hlast]
  exact List.mem_append_left _ hplace

/-- What is there at the end of a clear way is a directory. -/
theorem Clear.isDirectory_of_exists? (hclear : fs.Clear path) (hfs : fs.Rooted)
    (h : fs.exists? path = true) : fs.isDirectory path = true := by
  obtain ⟨hreaches, hsome⟩ := reaches_of_exists? hfs h
  have hlast : Path.resolve fs.here path ∈ fs.way path := by
    rw [way_eq]
    exact List.mem_append_right _ (List.mem_singleton_self _)
  refine (isDirectory_iff_reaches hfs).2 ⟨hreaches, ?_⟩
  cases hentry : fs.entry? (Path.resolve fs.here path) with
  | none => exact absurd hentry hsome
  | some e =>
    cases e with
    | directory => rfl
    | file content => exact absurd hentry (hclear _ hlast content)

/-- A path without a last step leads to the directory that it starts from. -/
theorem isDirectory_of_parent_name (hfs : fs.Rooted) (husable : Usable path)
    (h : (parent path).2 = "") : fs.isDirectory path = true := by
  refine (isDirectory_iff hfs).2 ⟨husable, ?_⟩
  rw [way, Path.steps_of_parent_name h, List.scanl_nil, List.forall_mem_singleton]
  exact hfs.origin path

/-- A dot leads to the directory above it. -/
theorem isDirectory_of_parent_dot (hfs : fs.Rooted) (husable : Usable path)
    (hdot : (parent path).2 = ".") (h : fs.isDirectory (parent path).1 = true) :
    fs.isDirectory path = true := by
  have hlast : (parent path).2 ≠ "" := by
    rw [hdot]
    decide
  refine (isDirectory_iff hfs).2 ⟨husable, ?_⟩
  rw [way_parent fs hlast, List.forall_mem_append, List.forall_mem_singleton, hdot]
  exact ⟨((isDirectory_iff hfs).1 h).2, ((isDirectory_iff_reaches hfs).1 h).2⟩

/-- A last directory is made in one that is there, unless a file stands there. -/
theorem makeLast_of_clear (hfs : fs.Rooted) (husable : Usable path) (hclear : fs.Clear path)
    (hlast : (parent path).2 ≠ "")
    (habove : ∀ place ∈ fs.way (parent path).1, fs.entry? place = some .directory) :
    (fs.makeLast path).1 = .ok () ∧ (fs.makeLast path).2.isDirectory path = true := by
  have hreaches : fs.Reaches path := by
    refine ⟨husable, ?_⟩
    rwa [way_parent fs hlast, List.dropLast_concat]
  have hok : (fs.makeLast path).1 = .ok () := by
    refine makeLast_ok hfs hreaches (hclear _ ?_)
    rw [way_eq]
    exact List.mem_append_right _ (List.mem_singleton_self _)
  exact ⟨hok, (makeLast_spec hfs path).2.2 hok⟩

/-- A directory and those above it are made when no file stands on the way. -/
theorem makeWithin_of_clear {n : Nat} (hlen : path.length ≤ n) (hfs : fs.Rooted)
    (husable : Usable path) (hclear : fs.Clear path) :
    (fs.makeWithin n path).1 = .ok () ∧ (fs.makeWithin n path).2.isDirectory path = true := by
  induction n generalizing path with
  | zero => exact absurd (String.length_eq_zero_iff.1 (Nat.le_zero.1 hlen)) husable.nonempty
  | succ n ih =>
    rw [makeWithin_succ]
    by_cases hlast : (parent path).2 = ""
    · have hdir := isDirectory_of_parent_name hfs husable hlast
      rw [if_pos (by simp [hlast]), makeLast_of_isDirectory hfs hdir]
      exact ⟨rfl, hdir⟩
    by_cases habove : (parent path).1 = ""
    · rw [if_pos (by simp [habove])]
      refine makeLast_of_clear hfs husable hclear hlast ?_
      rw [habove, way, Path.steps_empty, List.scanl_nil, List.forall_mem_singleton]
      exact hfs.origin ""
    by_cases hexists : fs.exists? (parent path).1 = true
    · -- a file there would stand on the way
      rw [if_pos (by simp [hexists])]
      have hdir := (hclear.parent hlast).isDirectory_of_exists? hfs hexists
      exact makeLast_of_clear hfs husable hclear hlast ((isDirectory_iff hfs).1 hdir).2
    · rw [if_neg (by simp [hlast, habove, hexists])]
      have hshorter : (parent path).1.length ≤ n :=
        Nat.le_of_lt_succ ((Path.length_parent_lt hlast).trans_le hlen)
      obtain ⟨hok, hdir⟩ := ih hshorter (husable.parent habove) (hclear.parent hlast)
      obtain ⟨hgains, hrooted⟩ := makeWithin_gains n hfs (parent path).1
      rw [hok]
      dsimp only
      -- the way stays clear, since only directories were made above
      split
      · next hdot => exact ⟨rfl, isDirectory_of_parent_dot hrooted husable hdot hdir⟩
      · exact makeLast_of_clear hrooted husable (hclear.gains hgains) hlast
          ((isDirectory_iff hrooted).1 hdir).2

/-- Nothing is made where there is a directory. -/
theorem makeWithin_of_isDirectory (n : Nat) (hfs : fs.Rooted) (h : fs.isDirectory path = true) :
    fs.makeWithin n path = (.ok (), fs) := by
  have hlast := makeLast_of_isDirectory hfs h
  cases n with
  | zero => exact hlast
  | succ n =>
    rw [makeWithin_succ, if_pos]
    · exact hlast
    obtain ⟨husable, hway⟩ := (isDirectory_iff hfs).1 h
    by_cases hname : (parent path).2 = ""
    · simp [hname]
    by_cases habove : (parent path).1 = ""
    · simp [habove]
    have hdir : fs.isDirectory (parent path).1 = true := by
      refine (isDirectory_iff hfs).2 ⟨husable.parent habove, fun place hplace => hway place ?_⟩
      rw [way_parent fs hname]
      exact List.mem_append_left _ hplace
    simp [exists?_of_isDirectory hdir]

/-! ## The request -/

/-- Whatever becomes of a request for directories, it gains directories. -/
theorem makeDirectories_gains (hfs : fs.Rooted) (path : String) :
    fs.Gains (fs.makeDirectories path).2 ∧ (fs.makeDirectories path).2.Rooted :=
  makeWithin_gains _ hfs path

/-- A directory and those above it are made when no file stands on the way. -/
theorem makeDirectories_of_clear (hfs : fs.Rooted) (husable : Usable path)
    (hclear : fs.Clear path) :
    (fs.makeDirectories path).1 = .ok () ∧ (fs.makeDirectories path).2.isDirectory path = true :=
  makeWithin_of_clear (Nat.le_refl _) hfs husable hclear

/-- Nothing is made where there is a directory. -/
theorem makeDirectories_of_isDirectory (hfs : fs.Rooted) (h : fs.isDirectory path = true) :
    fs.makeDirectories path = (.ok (), fs) :=
  makeWithin_of_isDirectory _ hfs h

/-- The empty directory cannot be made. -/
theorem makeDirectories_empty (fs : FileSystem) :
    fs.makeDirectories "" = (.error (.file .missing ""), fs) := rfl

/-- A directory is there after it was asked for exactly if no file stands on the way. -/
theorem isDirectory_makeDirectories_iff (hfs : fs.Rooted) :
    (fs.makeDirectories path).2.isDirectory path = true ↔ Usable path ∧ fs.Clear path := by
  obtain ⟨hgains, hrooted⟩ := makeDirectories_gains hfs path
  exact ⟨clear_of_isDirectory hgains hrooted, fun h => (makeDirectories_of_clear hfs h.1 h.2).2⟩

/-- A request for directories succeeds exactly if no file stands on the way, unless its last step is
a dot, which is not looked up. -/
theorem makeDirectories_ok_iff (hfs : fs.Rooted) (hdot : (parent path).2 ≠ ".") :
    (fs.makeDirectories path).1 = .ok () ↔ Usable path ∧ fs.Clear path := by
  refine ⟨fun h => ?_, fun h => (makeDirectories_of_clear hfs h.1 h.2).1⟩
  exact (isDirectory_makeDirectories_iff hfs).1 (isDirectory_of_makeWithin_ok hfs hdot h)

end

end SceneScript.FileSystem
