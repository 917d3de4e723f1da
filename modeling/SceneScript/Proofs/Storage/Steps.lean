import Mathlib.Data.List.DropRight
import SceneScript.Proofs.Storage.Resolve

/-!
# The steps of a path

A path is followed in steps: its components, but for the empty ones that more slashes make
(`Path.steps`). Whatever takes a path apart or puts two together keeps the steps: a path behind
another has the steps of both (`Path.steps_join`), and the directory and the name of a path have its
steps between them (`Path.steps_split`), also where slashes at the end do not count
(`Path.steps_parent`).
-/

namespace SceneScript.Path

/-- The steps of a path: its components that are not empty. -/
def steps (path : String) : List String := (components path).filter (· != "")

section
variable {path first second tail : String} {cs : List Char}

/-- The empty path has no steps. -/
@[simp]
theorem steps_empty : steps "" = [] := rfl

/-- A text that something stands behind is not empty. -/
theorem append_ne_empty (h : second ≠ "") : first ++ second ≠ "" := fun hempty =>
  h (String.append_eq_empty_iff.1 hempty).2

/-- A step is not empty. -/
theorem ne_empty_of_mem_steps {c : String} (h : c ∈ steps path) : c ≠ "" :=
  bne_iff_ne.1 (List.mem_filter.1 h).2

/-- A text without slashes is one step. -/
theorem steps_of_notMem (hslash : '/' ∉ path.toList) (hne : path ≠ "") : steps path = [path] := by
  rw [steps, components, splitSlashes_of_notMem hslash]
  simp [hne]

/-- The steps of two texts with a slash between them. -/
theorem steps_append_slash (first second : String) :
    steps (first ++ "/" ++ second) = steps first ++ steps second := by
  rw [steps, components_append_slash, List.filter_append]
  rfl

/-- The steps of a text behind one that is empty or ends with a slash. -/
theorem steps_append (h : first = "" ∨ ∃ front, first = front ++ "/") :
    steps (first ++ second) = steps first ++ steps second := by
  obtain rfl | ⟨front, rfl⟩ := h
  · rw [String.empty_append, steps_empty, List.nil_append]
  · have hfront := steps_append_slash front ""
    rw [String.append_empty, steps_empty, List.append_nil] at hfront
    rw [steps_append_slash, hfront]

/-- Slashes at the end add no step. -/
theorem steps_append_slashes (h : ∀ c ∈ cs, c = '/') :
    steps (path ++ String.ofList cs) = steps path := by
  induction cs generalizing path with
  | nil => rw [String.ofList_nil, String.append_empty]
  | cons c cs ih =>
    obtain ⟨rfl, hcs⟩ := List.forall_mem_cons.1 h
    have hslash : String.ofList ('/' :: cs) = "/" ++ String.ofList cs := by
      rw [← List.singleton_append, String.ofList_append]
    have hrest : steps (String.ofList cs) = [] := by
      rw [← String.empty_append (s := String.ofList cs), ih hcs, steps_empty]
    rw [hslash, ← String.append_assoc, steps_append_slash, hrest, List.append_nil]

/-! ## One path behind another -/

/-- A text is empty, ends with a slash, or is given one when a path is put behind it. -/
theorem join_eq (first : String) (h : isAbsolute second = false) :
    ∃ front, (front = "" ∨ ∃ rest, front = rest ++ "/") ∧ join first second = front ++ second ∧
      steps front = steps first ∧ isAbsolute front = isAbsolute first ∧
      ∃ slash, front = first ++ slash := by
  rw [join, h, if_neg Bool.false_ne_true]
  split
  · next hend =>
    refine ⟨first, ?_, rfl, rfl, rfl, "", (String.append_empty).symm⟩
    refine hend.imp String.isEmpty_iff.1 fun hlast => ?_
    obtain ⟨cs, hcs⟩ := List.getLast?_eq_some_iff.1 hlast
    exact ⟨String.ofList cs, by rw [← String.toList_inj]; simpa using hcs⟩
  · next hend =>
    have hne : first ≠ "" := fun h => hend (.inl (String.isEmpty_iff.2 h))
    have hsteps := steps_append_slash first ""
    rw [String.append_empty, steps_empty, List.append_nil] at hsteps
    exact ⟨first ++ "/", .inr ⟨first, rfl⟩, rfl, hsteps, isAbsolute_append hne, "/", rfl⟩

/-- A path behind another has the steps of both, unless it is absolute. -/
theorem steps_join (h : isAbsolute second = false) :
    steps (join first second) = steps first ++ steps second := by
  obtain ⟨front, hend, hjoin, hsteps, -⟩ := join_eq first h
  rw [hjoin, steps_append hend, hsteps]

/-- A path behind another starts where that does, unless it is absolute. -/
theorem isAbsolute_join (h : isAbsolute second = false) :
    isAbsolute (join first second) = isAbsolute first := by
  obtain ⟨front, -, hjoin, -, habs, -⟩ := join_eq first h
  rw [hjoin]
  by_cases hfront : front = ""
  · subst hfront
    rw [String.empty_append, h, ← habs]
    rfl
  · rw [isAbsolute_append hfront, habs]

/-- A path behind another begins with it, unless it is absolute. -/
theorem exists_join_eq_append (first : String) (h : isAbsolute second = false) :
    ∃ rest, join first second = first ++ rest := by
  obtain ⟨front, -, hjoin, -, -, slash, hslash⟩ := join_eq first h
  exact ⟨slash ++ second, by rw [hjoin, hslash, String.append_assoc]⟩

/-- A path behind another that is not empty holds a slash. -/
theorem slash_mem_join (hne : first ≠ "") : '/' ∈ (join first second).toList := by
  cases h : isAbsolute second with
  | true =>
    rw [join, if_pos h]
    exact List.mem_of_mem_head? (beq_iff_eq.1 h)
  | false =>
    obtain ⟨front, hend, hjoin, -, -, slash, hslash⟩ := join_eq first h
    obtain hempty | ⟨rest, hrest⟩ := hend
    · rw [hempty] at hslash
      exact absurd (String.append_eq_empty_iff.1 hslash.symm).1 hne
    · rw [hjoin, hrest, String.toList_append, String.toList_append]
      exact List.mem_append_left _ (List.mem_append_right _ (List.mem_singleton_self _))

/-- A text without slashes may be put behind a path before or after that is put behind another. -/
theorem join_append (h : '/' ∉ tail.toList) :
    join first (second ++ tail) = join first second ++ tail := by
  rw [join, join, isAbsolute_append_of_notMem h]
  split
  · rfl
  · split <;> simp only [String.append_assoc]

/-! ## The directory and the name of a path -/

/-- Only slashes are dropped at the end of a text, and all of them unless there is nothing else. -/
theorem exists_dropEndSlashes (cs : List Char) : ∃ slashes, (∀ c ∈ slashes, c = '/') ∧
    cs = dropEndSlashes cs ++ slashes ∧ (dropEndSlashes cs = [] → cs = []) ∧
    ((dropEndSlashes cs).getLast? = some '/' → ∀ c ∈ cs, c = '/') := by
  have hkept : dropEndSlashes cs = if (cs.rdropWhile (· == '/')).isEmpty then cs
      else cs.rdropWhile (· == '/') := rfl
  rw [hkept]
  split
  · next hempty =>
    have hall := List.rdropWhile_eq_nil_iff.1 (List.isEmpty_iff.1 hempty)
    exact ⟨[], by simp, by simp, id, fun _ c hc => beq_iff_eq.1 (hall c hc)⟩
  · next hempty =>
    have hne : cs.rdropWhile (· == '/') ≠ [] := fun h => hempty (List.isEmpty_iff.2 h)
    refine ⟨cs.rtakeWhile (· == '/'), fun c hc => ?_, List.rdropWhile_append_rtakeWhile.symm,
      fun h => absurd h hne, fun hlast => ?_⟩
    · simpa using List.mem_rtakeWhile_imp hc
    · rw [List.getLast?_eq_some_getLast hne, Option.some_inj] at hlast
      exact absurd (beq_iff_eq.2 hlast) (List.rdropWhile_last_not _ _ hne)

/-- A path is its directory, slashes, and its name. What stands in front of the name ends with a
slash if there is anything. -/
theorem exists_slashes (path : String) : ∃ slashes, (∀ c ∈ slashes, c = '/') ∧
    path = directory path ++ String.ofList slashes ++ name path ∧
    (directory path ++ String.ofList slashes = "" ∨
      ∃ rest, directory path ++ String.ofList slashes = rest ++ "/") ∧
    (directory path = "" → slashes = []) ∧
    ((directory path).toList.getLast? = some '/' → ∀ c ∈ (directory path).toList, c = '/') := by
  obtain ⟨slashes, hslashes, hfront, hempty, hall⟩ :=
    exists_dropEndSlashes (path.toList.rdropWhile (· != '/'))
  have hdir : directory path =
      String.ofList (dropEndSlashes (path.toList.rdropWhile (· != '/'))) := rfl
  have hname : name path = String.ofList (path.toList.rtakeWhile (· != '/')) := rfl
  have happend : directory path ++ String.ofList slashes =
      String.ofList (path.toList.rdropWhile (· != '/')) := by
    rw [hdir, ← String.ofList_append, ← hfront]
  refine ⟨slashes, hslashes, ?_, ?_, fun h => ?_, fun h c hc => ?_⟩
  · rw [happend, hname, ← String.ofList_append, List.rdropWhile_append_rtakeWhile,
      String.ofList_toList]
  · rw [happend]
    by_cases hnone : path.toList.rdropWhile (· != '/') = []
    · exact .inl (by rw [hnone, String.ofList_nil])
    · have hlast : (path.toList.rdropWhile (· != '/')).getLast hnone = '/' := by
        simpa using List.rdropWhile_last_not _ _ hnone
      refine .inr ⟨String.ofList (path.toList.rdropWhile (· != '/')).dropLast, ?_⟩
      conv_lhs => rw [← List.dropLast_append_getLast hnone, hlast, String.ofList_append]
  · rw [hdir, String.ofList_eq_empty_iff] at h
    rw [h, hempty h, List.nil_append] at hfront
    exact hfront.symm
  · rw [hdir, String.toList_ofList] at h hc
    exact hall h c (hfront ▸ List.mem_append_left _ hc)

/-- The name of a path holds no slash. -/
theorem slash_notMem_name (path : String) : '/' ∉ (name path).toList := by
  have hname : (name path).toList = path.toList.rtakeWhile (· != '/') := String.toList_ofList
  rw [hname]
  intro hmem
  simpa using List.mem_rtakeWhile_imp hmem

/-- The steps of a path are those of its directory and its name. -/
theorem steps_split (path : String) :
    steps path = steps (directory path) ++ steps (name path) := by
  obtain ⟨slashes, hslashes, hpath, hend, -⟩ := exists_slashes path
  conv_lhs => rw [hpath]
  rw [steps_append hend, steps_append_slashes hslashes]

/-- The directory of a path starts where the path does. -/
theorem isAbsolute_directory (path : String) : isAbsolute (directory path) = isAbsolute path := by
  obtain ⟨slashes, -, hpath, -, hempty, -⟩ := exists_slashes path
  conv_rhs => rw [hpath, isAbsolute_append_of_notMem (slash_notMem_name path)]
  by_cases hnone : directory path = ""
  · rw [hempty hnone, String.ofList_nil, String.append_empty]
  · rw [isAbsolute_append hnone]

/-- A path begins with its directory, and is longer if it has a name. -/
theorem exists_eq_directory_append (path : String) :
    ∃ rest, path = directory path ++ rest ∧ (name path ≠ "" → rest ≠ "") := by
  obtain ⟨slashes, -, hpath, -⟩ := exists_slashes path
  refine ⟨String.ofList slashes ++ name path, ?_, append_ne_empty⟩
  conv_lhs => rw [hpath, String.append_assoc]

/-- A directory without a name has no steps: there are only slashes in it. -/
theorem steps_directory_of_name (h : name (directory path) = "") :
    steps (directory path) = [] := by
  obtain ⟨slashes, hslashes, hpath, hend, -⟩ := exists_slashes (directory path)
  rw [h, String.append_empty] at hpath
  rw [← hpath] at hend
  obtain hnone | ⟨rest, hrest⟩ := hend
  · rw [hnone, steps_empty]
  · obtain ⟨-, -, -, -, -, hall⟩ := exists_slashes path
    have hlast : (directory path).toList.getLast? = some '/' := by
      rw [hrest, String.toList_append]
      exact List.getLast?_concat
    have hsteps : steps ("" ++ String.ofList (directory path).toList) = steps "" :=
      steps_append_slashes (hall hlast)
    rwa [String.empty_append, String.ofList_toList, steps_empty] at hsteps

/-- A text without slashes lengthens the name of a path and leaves its directory. -/
theorem split_append (h : '/' ∉ tail.toList) :
    split (path ++ tail) = (directory path, name path ++ tail) := by
  have hreverse : ∀ c ∈ tail.toList.reverse, (c != '/') = true := by
    intro c hc
    rw [bne_iff_ne]
    rintro rfl
    exact h (List.mem_reverse.1 hc)
  simp only [directory, name, split, String.toList_append, List.reverse_append,
    List.takeWhile_append_of_pos hreverse, List.dropWhile_append_of_pos hreverse,
    List.reverse_reverse, String.ofList_append, String.ofList_toList]

/-- A text without slashes behind a path is part of its last step. -/
theorem steps_append_of_notMem (path : String) (h : '/' ∉ tail.toList) (hne : tail ≠ "") :
    steps (path ++ tail) = steps (directory path) ++ [name path ++ tail] := by
  have hname : '/' ∉ (name path ++ tail).toList := by
    rw [String.toList_append, List.mem_append]
    exact not_or.2 ⟨slash_notMem_name path, h⟩
  rw [steps_split, directory, name, split_append h, steps_of_notMem hname (append_ne_empty hne)]

/-- A path with a slash has a directory. -/
theorem directory_ne_empty (h : '/' ∈ path.toList) : directory path ≠ "" := by
  intro hnone
  obtain ⟨slashes, -, hpath, -, hempty, -⟩ := exists_slashes path
  rw [hempty hnone, hnone, String.ofList_nil, String.empty_append, String.empty_append] at hpath
  rw [hpath] at h
  exact slash_notMem_name path h

/-! ## The parent of a path -/

open FileSystem (parent)

/-- The parent of a path is its directory, or the directory of that if the path has no name. -/
theorem parent_eq (path : String) : parent path =
    if (name path).isEmpty then (directory (directory path), name (directory path))
    else (directory path, name path) := rfl

/-- The steps of a path are those of its parent and the last one. -/
theorem steps_parent (path : String) :
    steps path = steps (parent path).1 ++ steps (parent path).2 := by
  have hpath := steps_split path
  rw [parent_eq]
  split
  · next hempty =>
    rw [String.isEmpty_iff.1 hempty, steps_empty, List.append_nil] at hpath
    rw [hpath]
    exact steps_split _
  · exact hpath

/-- The last step of a path is its name, if it has one. -/
theorem steps_parent_name (h : (parent path).2 ≠ "") :
    steps (parent path).2 = [(parent path).2] := by
  refine steps_of_notMem ?_ h
  rw [parent_eq]
  split <;> exact slash_notMem_name _

/-- A path without a last step has no steps. -/
theorem steps_of_parent_name (h : (parent path).2 = "") : steps path = [] := by
  rw [parent_eq] at h
  split at h
  · next hempty =>
    rw [steps_split, String.isEmpty_iff.1 hempty, steps_empty, List.append_nil]
    exact steps_directory_of_name h
  · next hempty => exact absurd (String.isEmpty_iff.2 h) hempty

/-- The parent of a path starts where the path does. -/
theorem isAbsolute_parent (path : String) : isAbsolute (parent path).1 = isAbsolute path := by
  rw [parent_eq]
  split
  · rw [isAbsolute_directory, isAbsolute_directory]
  · exact isAbsolute_directory path

/-- A path begins with its parent, and is longer if there is a last step. -/
theorem exists_eq_parent_append (path : String) :
    ∃ rest, path = (parent path).1 ++ rest ∧ ((parent path).2 ≠ "" → rest ≠ "") := by
  rw [parent_eq]
  obtain ⟨rest, hrest, hne⟩ := exists_eq_directory_append path
  split
  · obtain ⟨rest', hrest', hne'⟩ := exists_eq_directory_append (directory path)
    refine ⟨rest' ++ rest, ?_, fun h hempty => hne' h (String.append_eq_empty_iff.1 hempty).1⟩
    conv_lhs => rw [hrest, hrest', String.append_assoc]
  · exact ⟨rest, hrest, hne⟩

/-- The parent of a path is shorter if there is a last step. -/
theorem length_parent_lt (h : (parent path).2 ≠ "") : (parent path).1.length < path.length := by
  obtain ⟨rest, hrest, hlonger⟩ := exists_eq_parent_append path
  have hpos : 0 < rest.length :=
    Nat.pos_of_ne_zero fun hzero => hlonger h (String.length_eq_zero_iff.1 hzero)
  have hlength := congrArg String.length hrest
  rw [String.length_append] at hlength
  omega

end

end SceneScript.Path
