import SceneScript.Proofs.Animation.FrameOrder
import SceneScript.Proofs.Storage.Making
import SceneScript.Storage.Disk

/-!
# Frames and their animation on a disk

A picture that is saved leaves a path that is reached (`Disk.save_ok`), and so do the frames of an
animation, saved one after the other (`Disk.Saves.reaches`). The animation is put where they are, so
its path is reached, too. But saving a frame makes the directory that its path names, if it names
one, and assembling makes the directory that is given. These are the same unless the given directory
is empty, which is then asked for, or the name of the animation is absolute, which does not need it
(`Disk.assembly_finds_directory`).
-/

namespace SceneScript

namespace FileSystem

variable {fs fs' : FileSystem} {path tail tail' : String}

/-- A file that is filled is written. -/
theorem fill_ok [Guard] {content : Except (Fault × ByteArray) Content}
    (h : fs.fill path content = (.ok (), fs')) : ∃ content, fs.write path content = .ok fs' := by
  unfold fill at h
  cases hopen : fs.write path (.bytes .empty) with
  | error fault => rw [hopen] at h; cases h
  | ok opened =>
    rw [hopen] at h
    cases content with
    | error why => cases h
    | ok content =>
      cases hwrite : fs.write path content with
      | error fault => simp only [hwrite, Prod.mk.injEq, reduceCtorEq, false_and] at h
      | ok filled =>
        simp only [hwrite, Prod.mk.injEq, true_and] at h
        exact ⟨content, h ▸ hwrite⟩

/-- A path that is reached stays so with another text behind it that is no longer. -/
theorem Reaches.of_append (h : fs.Reaches (path ++ tail)) (hslash : '/' ∉ tail.toList)
    (hne : tail ≠ "") (hslash' : '/' ∉ tail'.toList) (hne' : tail' ≠ "")
    (hnul : '\x00' ∉ tail'.toList) (hsize : tail'.utf8ByteSize ≤ tail.utf8ByteSize) :
    fs.Reaches (path ++ tail') := by
  have hsteps := Path.steps_append_of_notMem path hslash hne
  have hsteps' := Path.steps_append_of_notMem path hslash' hne'
  refine ⟨⟨Path.append_ne_empty hne', ?_, ?_, ?_⟩, ?_⟩
  · have hpath := h.usable.noNul
    simp only [hasNul, List.contains_eq_mem, decide_eq_false_iff_not, String.toList_append,
      List.mem_append, not_or] at hpath ⊢
    exact ⟨hpath.1, hnul⟩
  · have hshort := h.usable.short
    rw [String.utf8ByteSize_append] at hshort ⊢
    omega
  · have hnames := h.usable.names
    rw [hsteps, List.forall_mem_append, List.forall_mem_singleton,
      String.utf8ByteSize_append] at hnames
    rw [hsteps', List.forall_mem_append, List.forall_mem_singleton, String.utf8ByteSize_append]
    exact ⟨hnames.1, by omega⟩
  · have hthrough := h.through
    rw [dropLast_way hsteps, origin, Path.isAbsolute_append_of_notMem hslash] at hthrough
    rwa [dropLast_way hsteps', origin, Path.isAbsolute_append_of_notMem hslash']

/-- The directory of a path that is reached is there, if the path names one. -/
theorem Reaches.isDirectory_directory (hfs : fs.Rooted) (h : fs.Reaches path)
    (hdir : Path.directory path ≠ "") (hname : Path.name path ≠ "") :
    fs.isDirectory (Path.directory path) = true := by
  obtain ⟨rest, hrest, -⟩ := Path.exists_eq_directory_append path
  refine h.isDirectory hfs hrest hdir (Path.isAbsolute_directory path) (Path.steps_split path) ?_
  rw [Path.steps_of_notMem (Path.slash_notMem_name path) hname]
  exact List.cons_ne_nil _ _

end FileSystem

/-! ## The paths of an animation -/

/-- The paths of all frames of an animation, in order. -/
def Directives.framePaths (d : Directives) (directory : String) : List String :=
  (List.range d.frames.toNat).map (d.framePath directory)

section
variable {d : Directives} {directory : String}

/-- The path of a frame is that of the animation's name with a text behind it. -/
theorem Directives.framePath_eq (d : Directives) (directory : String) (i : Nat) :
    d.framePath directory i =
      Path.join directory d.basename ++ (Decimal.digits d.columns i ++ ".png") := by
  rw [framePath, frameFile_eq, String.append_assoc, Path.join_append (d.slash_notMem_index i)]

/-- The path of an animation is that of its name with its extension behind it. -/
theorem Assembly.path_eq (a : Assembly) :
    a.path = Path.join a.directory a.basename ++ ".gif" :=
  Path.join_append (by decide)

/-- The path of an animation has a name. -/
theorem Assembly.name_path_ne_empty (a : Assembly) : Path.name a.path ≠ "" := by
  rw [Assembly.path_eq, Path.name, Path.split_append (by decide)]
  exact Path.append_ne_empty (by decide)

/-- The first frame of an animation is one of its frames. -/
theorem Directives.framePath_zero_mem (hd : 1 < d.frames) :
    d.framePath directory 0 ∈ d.framePaths directory := by
  refine List.mem_map.2 ⟨0, List.mem_range.2 ?_, rfl⟩
  omega

end

namespace Disk

/-- Pictures are saved under paths, one after the other, and nothing else is done. -/
inductive Saves : List String → FileSystem → FileSystem → Prop
  | nil {fs : FileSystem} : Saves [] fs fs
  | cons {p : Picture} {path : String} {paths : List String} {fs fs' : FileSystem} :
      (save p path fs).result = .ok path → Saves paths (save p path fs).state fs' →
      Saves (path :: paths) fs fs'

variable {fs fs' : FileSystem} {p : Picture} {path answer : String}

/-- A picture that is written is in a file. -/
theorem writePicture_ok (h : writePicture fs p path = (.ok (), fs')) :
    ∃ content, fs.write path content = .ok fs' := by
  unfold writePicture at h
  split at h
  · cases h
  split at h
  · cases h
  · exact FileSystem.fill_ok h
  · exact FileSystem.fill_ok h

/-- A picture that is saved leaves a tree with the directories that there were, and its path is
reached. -/
theorem save_ok (hfs : fs.Rooted) (h : (save p path fs).result = .ok answer) :
    (save p path fs).state.Rooted ∧ fs.Keeps (save p path fs).state ∧
      (save p path fs).state.Reaches path := by
  rw [save] at h ⊢
  generalize hasked : (if (Path.directory path).isEmpty then (Except.ok (), fs)
    else fs.makeDirectories (Path.directory path)) = asked at h ⊢
  have hmade : fs.Gains asked.2 ∧ asked.2.Rooted := by
    rw [← hasked]
    split
    · exact ⟨.refl fs, hfs⟩
    · exact FileSystem.makeDirectories_gains hfs (Path.directory path)
  obtain ⟨hgains, hrooted⟩ := hmade
  obtain ⟨result, made⟩ := asked
  cases result with
  | error fault => cases h
  | ok =>
    dsimp only at h ⊢ hgains hrooted
    generalize hwritten : writePicture made p path = written at h ⊢
    obtain ⟨result, fs'⟩ := written
    cases result with
    | error fault => cases h
    | ok =>
      obtain ⟨content, hwrite⟩ := writePicture_ok hwritten
      obtain ⟨hrooted', hkeeps⟩ := FileSystem.keeps_of_write_ok hrooted hwrite
      exact ⟨hrooted', hgains.keeps.trans hkeeps,
        (FileSystem.write_ok hrooted hwrite).1.keep hkeeps⟩

/-- Pictures that are saved leave a tree, and their paths are reached. -/
theorem Saves.reaches {paths : List String} (hfs : fs.Rooted) (h : Saves paths fs fs') :
    fs'.Rooted ∧ fs.Keeps fs' ∧ ∀ path ∈ paths, fs'.Reaches path := by
  induction h with
  | nil => exact ⟨hfs, ⟨rfl, fun _ => id⟩, fun _ hmem => absurd hmem List.not_mem_nil⟩
  | cons hsave _ ih =>
    obtain ⟨hrooted, hkeeps, hreaches⟩ := save_ok hfs hsave
    obtain ⟨hrooted', hkeeps', hreaches'⟩ := ih hrooted
    exact ⟨hrooted', hkeeps.trans hkeeps',
      List.forall_mem_cons.2 ⟨hreaches.keep hkeeps', hreaches'⟩⟩

/-! ## Assembling -/

/-- Assembling fails like the directory that is given. -/
theorem assemble_of_error {a : Assembly} {fault : Fault} (hframes : a.frames ≠ [])
    (h : fs.makeDirectories a.directory = (.error fault, fs')) :
    assemble a fs = ⟨.error fault, fs', []⟩ := by
  rw [assemble, if_neg (by simpa using hframes), h]

/-- Assembling comes to what writing the animation comes to, once its directory is made. -/
theorem result_assemble_of_ok {a : Assembly} (hframes : a.frames ≠ [])
    (h : fs.makeDirectories a.directory = (.ok (), fs')) :
    (assemble a fs).result = (writeAnimation fs' a).1.map fun _ => a.path := by
  rw [assemble, if_neg (by simpa using hframes), h]
  dsimp only
  generalize writeAnimation fs' a = written
  obtain ⟨result, fs''⟩ := written
  cases result <;> rfl

section
variable {d : Directives} {directory : String}

/-- The path of an animation is reached when the frames have been saved. -/
theorem Saves.reaches_path (hfs : fs.Rooted) (hd : 1 < d.frames)
    (h : Saves (d.framePaths directory) fs fs') (duration : Int) :
    fs'.Reaches (Assembly.path ⟨d.basename, d.framePaths directory, directory, duration⟩) := by
  obtain ⟨-, -, hreaches⟩ := h.reaches hfs
  have hframe := hreaches _ (Directives.framePath_zero_mem hd)
  rw [Directives.framePath_eq] at hframe
  rw [Assembly.path_eq]
  refine hframe.of_append (d.slash_notMem_index 0) (Path.append_ne_empty (by decide)) (by decide)
    (by decide) (by decide) ?_
  rw [String.utf8ByteSize_append]
  exact Nat.le_add_left _ _

/-- The directory that is given is there when the frames have been saved in it. -/
theorem Saves.isDirectory (hfs : fs.Rooted) (hd : 1 < d.frames)
    (h : Saves (d.framePaths directory) fs fs') (hne : directory ≠ "")
    (hrel : Path.isAbsolute d.basename = false) : fs'.isDirectory directory = true := by
  obtain ⟨hrooted, -, hreaches⟩ := h.reaches hfs
  have hframe := hreaches _ (Directives.framePath_zero_mem hd)
  have hslash := d.slash_notMem_index 0
  have hrel' : Path.isAbsolute (d.basename ++ (Decimal.digits d.columns 0 ++ ".png")) = false := by
    rw [Path.isAbsolute_append_of_notMem hslash, hrel]
  rw [Directives.framePath, Directives.frameFile_eq, String.append_assoc] at hframe
  obtain ⟨rest, hrest⟩ := Path.exists_join_eq_append directory hrel'
  refine hframe.isDirectory hrooted hrest hne (Path.isAbsolute_join hrel').symm
    (Path.steps_join hrel') ?_
  rw [Path.steps_append_of_notMem _ hslash (Path.append_ne_empty (by decide))]
  exact List.append_ne_nil_of_right_ne_nil _ (List.cons_ne_nil _ _)

/-- Where the frames of an animation could be saved, the animation finds its directory. Its path is
reached, and the directory of that is there, whatever becomes of the directory that is given. The
empty directory, in which frames are saved, is never made: assembling them fails. Another one is
there already, and assembling comes to what writing the animation comes to, unless the name of the
animation is absolute. Then the frames say nothing about the directory, and it is made if no file
stands on the way. -/
theorem assembly_finds_directory (hfs : fs.Rooted) (hd : 1 < d.frames)
    (hsaves : Saves (d.framePaths directory) fs fs') (duration : Int) :
    let a : Assembly := ⟨d.basename, d.framePaths directory, directory, duration⟩
    fs'.Reaches a.path ∧
    (directory ≠ "" ∨ Path.directory a.path ≠ "" →
      (fs'.makeDirectories directory).2.isDirectory (Path.directory a.path) = true) ∧
    (directory = "" → assemble a fs' = ⟨.error (.file .missing ""), fs', []⟩) ∧
    (directory ≠ "" → Path.isAbsolute d.basename = false →
      fs'.makeDirectories directory = (.ok (), fs') ∧
      (assemble a fs').result = (writeAnimation fs' a).1.map fun _ => a.path) ∧
    (Path.isAbsolute d.basename = true →
      (FileSystem.Usable directory ∧ fs'.Clear directory →
        (fs'.makeDirectories directory).1 = .ok ()) ∧
      ((fs'.makeDirectories directory).1 = .ok () → (FileSystem.parent directory).2 ≠ "." →
        FileSystem.Usable directory ∧ fs'.Clear directory)) := by
  intro a
  obtain ⟨hrooted, -, -⟩ := hsaves.reaches hfs
  have hpath : fs'.Reaches a.path := hsaves.reaches_path hfs hd duration
  have hframes : a.frames ≠ [] := List.ne_nil_of_mem (Directives.framePath_zero_mem hd)
  refine ⟨hpath, fun hnamed => ?_, ?_, fun hne hrel => ?_, fun _ => ⟨fun h => ?_, fun h hdot => ?_⟩⟩
  · -- making a directory keeps those that there are, so the path stays reached
    obtain ⟨hgains, hmade⟩ := FileSystem.makeDirectories_gains hrooted directory
    refine (hpath.keep hgains.keeps).isDirectory_directory hmade ?_ a.name_path_ne_empty
    exact hnamed.elim (fun hne => Path.directory_ne_empty (Path.slash_mem_join hne)) id
  · rintro rfl
    exact assemble_of_error hframes (FileSystem.makeDirectories_empty fs')
  · -- the first frame lies in the directory, so that is there
    have hmade : fs'.makeDirectories directory = (.ok (), fs') :=
      FileSystem.makeDirectories_of_isDirectory hrooted (hsaves.isDirectory hfs hd hne hrel)
    exact ⟨hmade, result_assemble_of_ok hframes hmade⟩
  · exact (FileSystem.makeDirectories_of_clear hrooted h.1 h.2).1
  · exact (FileSystem.makeDirectories_ok_iff hrooted hdot).1 h

end

/-! ## Two frames -/

/-- A working directory with a script in it. -/
def workshop : FileSystem :=
  ⟨["work"], [(["work"], .directory), (["work", "dot.mdl"], .file (.bytes .empty))]⟩

/-- A picture of one black pixel. -/
def dot : Picture := ⟨1, 1, ⟨#[0, 0, 0]⟩⟩

/-- Two frames with a name. -/
def twoFrames (basename : String) : Directives := ⟨2, basename, false⟩

/-- The working directory with two pictures saved in it. -/
def twoSaved (first second : String) : FileSystem :=
  (save dot second (save dot first workshop).state).state

/-- The working directory and what stands in it are a tree. -/
theorem workshop_rooted : workshop.Rooted := by
  refine FileSystem.rooted_iff.2 ⟨rfl, fun entry hmem => ?_⟩
  obtain rfl | rfl : entry = _ ∨ entry = _ := by simpa [workshop] using hmem
  · rfl
  · rfl

/-- Two pictures are saved if an answer comes back for each. -/
theorem saves_two {first second : String}
    (hfirst : (save dot first workshop).result.toOption = some first)
    (hsecond : (save dot second (save dot first workshop).state).result.toOption = some second) :
    Saves [first, second] workshop (twoSaved first second) := by
  have hok : ∀ {r : Except Fault String} {path}, r.toOption = some path → r = .ok path := by
    intro r path h
    cases r with
    | ok => exact congrArg Except.ok (Option.some.inj h)
    | error => cases h
  exact .cons (hok hfirst) (.cons (hok hsecond) .nil)

/-- Two frames are saved in a directory by a longer way, and their animation finds it. -/
theorem assembly_finds_directory_nested :
    workshop.Rooted ∧ 1 < (twoFrames "near/../dot").frames ∧
    Saves ((twoFrames "near/../dot").framePaths "out//frames/") workshop
      (twoSaved "out//frames/near/../dot000.png" "out//frames/near/../dot001.png") ∧
    (twoSaved "out//frames/near/../dot000.png" "out//frames/near/../dot001.png").makeDirectories
      "out//frames/" = (.ok (),
        twoSaved "out//frames/near/../dot000.png" "out//frames/near/../dot001.png") ∧
    (twoSaved "out//frames/near/../dot000.png" "out//frames/near/../dot001.png").isDirectory
      "out//frames/near/.." = true := by
  have hpaths : (twoFrames "near/../dot").framePaths "out//frames/" =
      ["out//frames/near/../dot000.png", "out//frames/near/../dot001.png"] := by decide +kernel
  have hsaves : Saves ((twoFrames "near/../dot").framePaths "out//frames/") workshop
      (twoSaved "out//frames/near/../dot000.png" "out//frames/near/../dot001.png") := by
    rw [hpaths]
    exact saves_two (by decide +kernel) (by decide +kernel)
  obtain ⟨-, hdir, -, hmade, -⟩ :=
    assembly_finds_directory workshop_rooted (by decide) hsaves 20
  obtain ⟨hok, -⟩ := hmade (by decide) (by decide)
  have hdirectory : Path.directory (Assembly.path ⟨(twoFrames "near/../dot").basename,
      (twoFrames "near/../dot").framePaths "out//frames/", "out//frames/", 20⟩) =
      "out//frames/near/.." := by decide +kernel
  have hthere := hdir (.inl (by decide))
  rw [hok, hdirectory] at hthere
  dsimp only at hthere
  exact ⟨workshop_rooted, by decide, hsaves, hok, hthere⟩

/-- Animations whose frames are saved and whose directory cannot be made: it is empty, or a file
stands there and the frames are elsewhere. -/
theorem exists_unassembled :
    (workshop.Rooted ∧ 1 < (twoFrames "dot").frames ∧
      Saves ((twoFrames "dot").framePaths "") workshop (twoSaved "dot000.png" "dot001.png") ∧
      assemble ⟨"dot", (twoFrames "dot").framePaths "", "", 20⟩
        (twoSaved "dot000.png" "dot001.png") =
          ⟨.error (.file .missing ""), twoSaved "dot000.png" "dot001.png", []⟩) ∧
    workshop.Rooted ∧ 1 < (twoFrames "/work/dot").frames ∧
      Saves ((twoFrames "/work/dot").framePaths "dot.mdl") workshop
        (twoSaved "/work/dot000.png" "/work/dot001.png") ∧
      (assemble ⟨"/work/dot", (twoFrames "/work/dot").framePaths "dot.mdl", "dot.mdl", 20⟩
        (twoSaved "/work/dot000.png" "/work/dot001.png")).result.mapError Fault.kind =
          .error .alreadyThere := by
  have hempty : (twoFrames "dot").framePaths "" = ["dot000.png", "dot001.png"] := by
    decide +kernel
  have habsolute : (twoFrames "/work/dot").framePaths "dot.mdl" =
      ["/work/dot000.png", "/work/dot001.png"] := by decide +kernel
  rw [hempty, habsolute]
  refine ⟨⟨workshop_rooted, by decide, saves_two (by decide +kernel) (by decide +kernel), ?_⟩,
    workshop_rooted, by decide, saves_two (by decide +kernel) (by decide +kernel), ?_⟩
  · exact assemble_of_error (List.cons_ne_nil _ _) (FileSystem.makeDirectories_empty _)
  · decide +kernel

end Disk

end SceneScript
