import SceneScript.Proofs.Script.Values

/-!
# Scripts one behind the other

The lines of a text that ends with a line feed do not depend on what follows it
(`Text.lines_append`), and what a line says does not depend on the other lines, so the first line
that says nothing is at fault wherever it stands (`statementsFrom_error_iff`). A script that is put
behind another is therefore read as it is by itself, except that its lines are counted from there
and its knobs are made of those before (`Script.ofText_append`). Only its `vary`, `set` and
`setknobs` lines make something of these (`Script.replay`).
-/

namespace SceneScript

/-! ## Lines -/

namespace Text

variable {a b : List Char} {ls ls' : List (List Char)}

/-- The lines up to a line feed stay the same when something follows. -/
theorem IsLines.append (ha : IsLines a ls) (hend : ∀ c ∈ a.getLast?, c = '\n')
    (hb : IsLines b ls') : IsLines (a ++ b) (ls ++ ls') := by
  induction ha with
  | none => exact hb
  | last hne hline =>
    -- the line feed would have ended the line
    have hlast := hline _ (List.getLast_mem hne)
    rw [hend _ (List.getLast?_eq_some_getLast hne)] at hlast
    cases hlast
  | @next line br rest ls hline hbr hpair hrest ih =>
    rw [List.append_assoc, List.append_assoc, List.cons_append]
    refine .next hline hbr ?_ (ih ?_)
    · rintro ⟨rfl, hhead⟩
      cases rest with
      | nil => cases hend '\r' (by simp)
      | cons c rest => exact hpair ⟨rfl, hhead⟩
    · intro c hc
      refine hend c ?_
      rw [← List.append_assoc, List.getLast?_append]
      simp [Option.mem_def.1 hc]

/-- The lines of a text that ends with a line feed, and those of what follows. -/
theorem lines_append (hend : ∀ c ∈ a.getLast?, c = '\n') : lines (a ++ b) = lines a ++ lines b :=
  lines_eq_iff.2 ((lines_eq_iff.1 rfl).append hend (lines_eq_iff.1 rfl))

end Text

/-! ## Statements -/

namespace Statement

/-- Whether a statement is a `vary`, a `set` or a `setknobs`. -/
def concernsKnobs : Statement → Bool
  | perform (.vary _) | set .. | setAll _ => true
  | _ => false

/-- The other statements leave the knobs as they are. -/
theorem apply_of_not_concernsKnobs {s : Statement} (h : s.concernsKnobs = false)
    (knobs : Knobs Float) : s.apply knobs = knobs := by
  cases s with
  | blank => rfl
  | set | setAll => cases h
  | perform op =>
    cases op with
    | vary => cases h
    | _ => rfl

end Statement

/-! ## Scripts -/

namespace Script

variable {text : String} {script : Script}

/-- A text is a script when each of its lines says something. -/
theorem ofText_ok_iff : ofText text = .ok script ↔
    ∃ ss, List.Forall₂ Line (Text.lines text.toList) ss ∧ ofStatements ss = script := by
  simp only [ofText, except_map_ok, statementsFrom_ok]

/-- A text is a script exactly if each of its lines, taken by itself, says something. -/
theorem exists_ofText_ok_iff : (∃ script, ofText text = .ok script) ↔
    ∀ l ∈ Text.lines text.toList, WellFormedLine l := by
  rw [forall_wellFormedLine_iff]
  constructor
  · rintro ⟨script, h⟩
    obtain ⟨ss, hss, -⟩ := ofText_ok_iff.1 h
    exact ⟨ss, hss⟩
  · rintro ⟨ss, hss⟩
    exact ⟨_, ofText_ok_iff.2 ⟨ss, hss, rfl⟩⟩

/-- The knobs that are left when the `vary`, `set` and `setknobs` statements among the given ones
are replayed, in order, on knobs that are there. -/
def replay (ss : List Statement) (knobs : Knobs Float) : Knobs Float :=
  (ss.filter (·.concernsKnobs)).foldl (fun knobs s => s.apply knobs) knobs

/-- The knobs behind statements are those that are left when they are replayed. -/
theorem replay_eq (ss : List Statement) (knobs : Knobs Float) :
    replay ss knobs = ss.foldl (fun knobs s => s.apply knobs) knobs := by
  induction ss generalizing knobs with
  | nil => rfl
  | cons s ss ih =>
    rw [List.foldl_cons, ← ih]
    cases hs : s.concernsKnobs with
    | true => rw [replay, replay, List.filter_cons_of_pos hs, List.foldl_cons]
    | false =>
      rw [Statement.apply_of_not_concernsKnobs hs, replay, replay,
        List.filter_cons_of_neg (by simp [hs])]

/-- Statements behind others. -/
theorem ofStatements_append (ss ss' : List Statement) : ofStatements (ss ++ ss') =
    ⟨(ofStatements ss).operations ++ (ofStatements ss').operations,
      replay ss' (ofStatements ss).knobs⟩ := by
  rw [replay_eq]
  simp only [ofStatements, List.filterMap_append, List.foldl_append]

/-- Reading scripts one behind the other. Let the first text be empty or end with a newline. If it
is at fault, so are both together, with the same fault. If it is a script and the second text is at
fault in some line, both together are at fault for the same reason in that line, counted from the
first line of the first text. If both are scripts, so are they together: the operations are those of
the first and then those of the second, and the knobs are those that are left when the `vary`, `set`
and `setknobs` lines of the second are replayed on the knobs of the first. So it does not depend on
the lines in front of it whether a line is accepted. -/
theorem ofText_append {a b : String} (ha : a = "" ∨ ∃ front, a = front ++ "\n") :
    (∀ fault, ofText a = .error fault → ofText (a ++ b) = .error fault) ∧
    (∀ script fault, ofText a = .ok script → ofText b = .error fault → ∃ line why,
      fault = .badLine line why ∧
      ofText (a ++ b) = .error (.badLine ((Text.lines a.toList).length + line) why)) ∧
    (∀ script script', ofText a = .ok script → ofText b = .ok script' → ∃ ss,
      List.Forall₂ Line (Text.lines b.toList) ss ∧ script'.knobs = replay ss .empty ∧
      ofText (a ++ b) =
        .ok ⟨script.operations ++ script'.operations, replay ss script.knobs⟩) ∧
    ((∃ script, ofText (a ++ b) = .ok script) ↔
      (∃ script, ofText a = .ok script) ∧ ∃ script, ofText b = .ok script) := by
  have hend : ∀ c ∈ a.toList.getLast?, c = '\n' := by
    rcases ha with rfl | ⟨front, rfl⟩
    · nofun
    · simp
  have hlines : Text.lines (a ++ b).toList = Text.lines a.toList ++ Text.lines b.toList := by
    rw [String.toList_append, Text.lines_append hend]
  refine ⟨?_, ?_, ?_, ?_⟩
  · intro fault h
    obtain ⟨before, line, after, why, hls, hbefore, hline, rfl⟩ := ofText_error_iff.1 h
    refine ofText_error_iff.2 ⟨before, line, after ++ Text.lines b.toList, why, ?_, hbefore, hline,
      rfl⟩
    rw [hlines, hls, List.append_assoc, List.cons_append]
  · intro script fault h h'
    obtain ⟨before, line, after, why, hls, hbefore, hline, rfl⟩ := ofText_error_iff.1 h'
    refine ⟨_, why, rfl, ofText_error_iff.2 ⟨Text.lines a.toList ++ before, line, after, why, ?_,
      ?_, hline, ?_⟩⟩
    · rw [hlines, hls, List.append_assoc]
    · exact List.forall_mem_append.2 ⟨exists_ofText_ok_iff.1 ⟨script, h⟩, hbefore⟩
    · rw [List.length_append, Nat.add_left_comm]
  · intro script script' h h'
    obtain ⟨ss, hss, rfl⟩ := ofText_ok_iff.1 h
    obtain ⟨ss', hss', rfl⟩ := ofText_ok_iff.1 h'
    refine ⟨ss', hss', (replay_eq ss' .empty).symm, ofText_ok_iff.2 ⟨ss ++ ss', ?_, ?_⟩⟩
    · rw [hlines]
      exact List.rel_append hss hss'
    · exact ofStatements_append ss ss'
  · rw [exists_ofText_ok_iff, exists_ofText_ok_iff, exists_ofText_ok_iff, hlines,
      List.forall_mem_append]

/-- A script that has one knob, and a comment on its second line. -/
def oneKnob : String := "set k 2\n// the knob of a transform\n"

/-- A script behind it assigns the knob, too, and a fault behind it is in the fourth line. -/
theorem ofText_append_oneKnob :
    (∃ script script' script'' ss, ofText oneKnob = .ok script ∧
      ofText "vary m 0 1 2 3\nsetknobs 5" = .ok script' ∧
      List.Forall₂ Line (Text.lines "vary m 0 1 2 3\nsetknobs 5".toList) ss ∧
      ofText (oneKnob ++ "vary m 0 1 2 3\nsetknobs 5") = .ok script'' ∧
      script''.knobs = replay ss script.knobs ∧ script''.knobs.names = ["k", "m"] ∧
      script''.knobs.lookup? "k" = some 5) ∧
    ofText (oneKnob ++ "push\npop 1") = .error (.badLine 4 (.argumentsFound .pop)) := by
  have hend : oneKnob = "" ∨ ∃ front, oneKnob = front ++ "\n" :=
    .inr ⟨"set k 2\n// the knob of a transform", rfl⟩
  have hone : ∃ script, ofText oneKnob = .ok script := ⟨_, rfl⟩
  obtain ⟨script, h⟩ := hone
  constructor
  · have hmore : ∃ script', ofText "vary m 0 1 2 3\nsetknobs 5" = .ok script' := ⟨_, rfl⟩
    obtain ⟨script', h'⟩ := hmore
    have hboth : ∃ script'', ofText (oneKnob ++ "vary m 0 1 2 3\nsetknobs 5") = .ok script'' ∧
        script''.knobs.names = ["k", "m"] ∧ script''.knobs.lookup? "k" = some 5 :=
      ⟨_, rfl, rfl, rfl⟩
    obtain ⟨script'', h'', hnames, hk⟩ := hboth
    obtain ⟨ss, hss, -, happend⟩ := (ofText_append hend).2.2.1 script script' h h'
    cases h''.symm.trans happend
    exact ⟨script, script', _, ss, h, h', hss, happend, rfl, hnames, hk⟩
  · have hbad : ofText "push\npop 1" = .error (.badLine 2 (.argumentsFound .pop)) := rfl
    obtain ⟨line, why, hfault, happend⟩ := (ofText_append hend).2.1 script _ h hbad
    cases hfault
    exact happend

end Script

end SceneScript
