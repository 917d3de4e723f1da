import SceneScript.Fault

/-!
# Knobs

Named values, in the order in which the names were first given. A name has one value: a new one
replaces the old in its place (`entries_set`, `lookup?_set`). Both the knobs of a script and the
values that an animation gives them in one frame are kept so.
-/

namespace SceneScript

/-- The entries with `name` bound to `value`, in its place or else at the end. -/
def Knobs.put {α : Type} (name : String) (value : α) : List (String × α) → List (String × α)
  | [] => [(name, value)]
  | (n, v) :: rest =>
    if n = name then (name, value) :: rest else (n, v) :: put name value rest

/-- A new name comes last and the others stay where they are. -/
theorem Knobs.map_fst_put {α : Type} (name : String) (value : α) (es : List (String × α)) :
    (Knobs.put name value es).map (·.1) =
      if name ∈ es.map (·.1) then es.map (·.1) else es.map (·.1) ++ [name] := by
  induction es with
  | nil => simp [put]
  | cons e rest ih =>
    obtain ⟨n, v⟩ := e
    by_cases h : n = name
    · subst h; simp [put]
    · have h' : name ≠ n := fun e => h e.symm
      simp only [put, h, ite_false, List.map_cons, ih, List.mem_cons, h', false_or]
      split <;> simp

/-- Names with values, each name once. -/
structure Knobs (α : Type) where
  entries : List (String × α)
  nodup : (entries.map (·.1)).Nodup

namespace Knobs

variable {α : Type}

/-- No names. -/
def empty : Knobs α := ⟨[], by simp⟩

instance : Inhabited (Knobs α) := ⟨empty⟩

/-- The names in the order in which they were first given. -/
def names (k : Knobs α) : List String := k.entries.map (·.1)

/-- The number of names. -/
def size (k : Knobs α) : Nat := k.entries.length

/-- The value of a name, if it has one. -/
def lookup? (k : Knobs α) (name : String) : Option α :=
  (k.entries.find? (·.1 = name)).map (·.2)

/-- Whether a name has a value. -/
def contains (k : Knobs α) (name : String) : Bool := (k.lookup? name).isSome

/-- The knobs with a name bound to a value. -/
def set (k : Knobs α) (name : String) (value : α) : Knobs α :=
  ⟨put name value k.entries, by
    rw [map_fst_put]
    split
    · exact k.nodup
    · next h => exact List.nodup_append.2 ⟨k.nodup, by simp, by simpa using fun a b hb e => h (by
        subst e; exact List.mem_map.2 ⟨_, hb, rfl⟩)⟩⟩

/-- The knobs with a name bound to a value if it has none. -/
def declare (k : Knobs α) (name : String) (value : α) : Knobs α :=
  if k.contains name then k else k.set name value

/-- The knobs with every name bound to one value. -/
def setAll (k : Knobs α) (value : α) : Knobs α :=
  ⟨k.entries.map fun e => (e.1, value), by simpa [Function.comp_def] using k.nodup⟩

/-- The knobs with the names of other knobs bound to their values. -/
def merge (k other : Knobs α) : Knobs α :=
  other.entries.foldl (fun k e => k.set e.1 e.2) k

/-- The knobs with the given names and values, set in order. -/
def ofList (es : List (String × α)) : Knobs α :=
  es.foldl (fun k e => k.set e.1 e.2) empty

/-- The value of a name that must have one. -/
def lookup (k : Knobs α) (name : String) : Except Fault α :=
  match k.lookup? name with
  | some v => .ok v
  | none => .error (.undefinedKnob name)

@[simp] theorem entries_set (k : Knobs α) (name : String) (value : α) :
    (k.set name value).entries = put name value k.entries := rfl

theorem lookup?_set (k : Knobs α) (name other : String) (value : α) :
    (k.set name value).lookup? other = if name = other then some value else k.lookup? other := by
  simp only [lookup?, entries_set]
  induction k.entries with
  | nil => by_cases h : name = other <;> simp [put, h]
  | cons e rest ih =>
    obtain ⟨n, v⟩ := e
    by_cases hn : n = name
    · subst hn
      by_cases h : n = other <;> simp [put, h]
    · by_cases h : n = other
      · subst h
        have h' : ¬ name = n := fun e => hn e.symm
        simp [put, hn, h']
      · simpa [put, hn, h] using ih

/-- The table of the knobs: a head line, and a line with number, name and value for each. -/
def report (k : Knobs Float) : String :=
  let line (i : Nat) (e : String × Float) : String :=
    toString i ++ "\t" ++ e.1 ++ "\t\tSYM_VALUE\t" ++ Decimal.amount e.2
  "\n".intercalate ("ID\tNAME\t\tTYPE\t\tVALUE" :: k.entries.mapIdx line)

end Knobs

end SceneScript
