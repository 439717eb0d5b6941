import MenuShell.Proofs.Shell.Ending

/-!
Runs that end, by their last rule. There is one rule for every way in which a task can end, so that
what holds of all runs is shown by an induction with one case for each.
-/

namespace MenuShell

namespace Shell

variable {Host : Type} {shell final : Shell Host} {task : Task Host}
  {result : Except Failure Signal}

inductive Runs : Task Host → Shell Host → Except Failure Signal → Shell Host → Prop
  | done (signal : Signal) (shell : Shell Host) :
      Runs (.script (.done signal)) shell (.ok signal) shell
  | fail (failure : Failure) (shell : Shell Host) :
      Runs (.script (.fail failure)) shell (.error failure) shell
  | consult {shell final : Shell Host} {next : Host → Script Host}
      {result : Except Failure Signal} :
      Runs (.script (next shell.host)) shell result final →
      Runs (.script (.consult next)) shell result final
  | remember {shell final : Shell Host} {change : Host → Host} {next : Script Host}
      {result : Except Failure Signal} :
      Runs (.script next) { shell with host := change shell.host } result final →
      Runs (.script (.remember change next)) shell result final
  | perform {shell final : Shell Host} {answer : Answer} {request : Request (Action Host) answer}
      {next : Except Failure answer.Value → Script Host} {result : Except Failure Signal} :
      Runs (.script (next (shell.serve request).1)) (shell.serve request).2 result final →
      Runs (.script (.perform request next)) shell result final
  | visit {shell after final : Shell Host} {stop : Visit} {answer : Except Failure Signal}
      {next : Except Failure Signal → Script Host} {result : Except Failure Signal} :
      Runs (.visit stop) shell answer after → Runs (.script (next answer)) after result final →
      Runs (.script (.visit stop next)) shell result final
  | menu {shell left : Shell Host} {id : NodeId} {result : Except Failure Signal} :
      Runs (.loop id) (shell.enterLoop id) result left →
      Runs (.visit (.menu id)) shell result left.leaveLoop
  | act {shell started after : Shell Host} {visit : Visit} {id : NodeId} {line : String}
      {action : Action Host} {result : Except Failure Signal} :
      Leads shell visit (.act id line) started → (shell.tree.node id).action? = some action →
      Runs (.script (action line)) (started.note (.acted id line)) result after →
      Runs (.visit visit) shell (absorb (result, after)).1 (absorb (result, after)).2
  | report {shell started : Shell Host} {visit : Visit} {error : MenuError} :
      Leads shell visit (.report error) started →
      Runs (.visit visit) shell (.ok .normal) (started.report error)
  | unbound {shell started : Shell Host} {visit : Visit} {name : String} :
      Leads shell visit (.unbound name) started →
      Runs (.visit visit) shell (.error (.ofError (.unbound name))) started
  | ended {shell asked : Shell Host} {menu : NodeId} :
      shell.next = (.ended, asked) → Runs (.loop menu) shell (.ok .normal) asked
  | failed {shell asked : Shell Host} {menu : NodeId} {failure : Failure} :
      shell.next = (.failed failure, asked) → Runs (.loop menu) shell (.error failure) asked
  | again {shell asked final : Shell Host} {menu : NodeId} {result : Except Failure Signal} :
      shell.next = (.again, asked) → Runs (.loop menu) asked result final →
      Runs (.loop menu) shell result final
  | normal {shell asked after final : Shell Host} {menu : NodeId} {line : String}
      {result : Except Failure Signal} : shell.next = (.line line, asked) →
      Runs (.visit (.dispatch menu (Text.trim line))) asked (.ok .normal) after →
      Runs (.loop menu) after result final → Runs (.loop menu) shell result final
  | quit {shell asked after : Shell Host} {menu : NodeId} {line : String} :
      shell.next = (.line line, asked) →
      Runs (.visit (.dispatch menu (Text.trim line))) asked (.ok .quit) after →
      Runs (.loop menu) shell (.ok .normal) after
  | broken {shell asked after : Shell Host} {menu : NodeId} {line : String} {failure : Failure} :
      shell.next = (.line line, asked) →
      Runs (.visit (.dispatch menu (Text.trim line))) asked (.error failure) after →
      Runs (.loop menu) shell (.error failure) after

theorem Runs.ends (runs : Runs task shell result final) : Ends task shell (result, final) := by
  induction runs with
  | done signal shell => exact (ends_done signal).mpr rfl
  | fail failure shell => exact (ends_fail failure).mpr rfl
  | consult _ ih => exact (ends_consult _).mpr ih
  | remember _ ih => exact (ends_remember _ _).mpr ih
  | perform _ ih => exact (ends_perform _ _).mpr ih
  | visit _ _ visited others => exact (ends_enter _ _).mpr ⟨_, _, visited, others⟩
  | menu _ ih => exact (ends_menu _).mpr ⟨_, _, ih, rfl⟩
  | act leads known _ ih => exact (leads.ends_act known).mpr ⟨_, ih, rfl⟩
  | report leads => exact leads.ends_report.mpr rfl
  | unbound leads => exact leads.ends_unbound.mpr rfl
  | ended next => exact (ends_loop_ended _ next).mpr rfl
  | failed next => exact (ends_loop_failed _ next).mpr rfl
  | again next _ ih => exact (ends_loop_again _ next).mpr ih
  | normal next _ _ dispatched others => exact (ends_loop_line _ next).mpr ⟨_, dispatched, others⟩
  | quit next _ dispatched => exact (ends_loop_line _ next).mpr ⟨_, dispatched, rfl⟩
  | broken next _ dispatched => exact (ends_loop_line _ next).mpr ⟨_, dispatched, rfl⟩

theorem runs_of_follow {visit : Visit} {route : Route} {started : Shell Host} {bound : Nat}
    (leads : Leads shell visit route started)
    (scripts : ∀ (script : Script Host) (begun : Shell Host) (result : Except Failure Signal)
      (final : Shell Host), run bound (.script script) begun = some (result, final) →
      Runs (.script script) begun result final)
    (ended : follow (fun script => run bound (.script script)) (some route) started =
      some (result, final)) : Runs (.visit visit) shell result final := by
  cases route with
  | act id line =>
      simp only [follow, leads.tree_eq] at ended
      split at ended
      · rename_i action known
        obtain ⟨⟨inner, after⟩, carried, absorbed⟩ := Option.map_eq_some_iff.mp ended
        have rule := Runs.act leads known (scripts _ _ _ _ carried)
        rwa [absorbed] at rule
      · simp at ended
  | report error =>
      obtain ⟨rfl, rfl⟩ := Prod.mk.inj (Option.some.inj ended)
      exact .report leads
  | unbound name =>
      obtain ⟨rfl, rfl⟩ := Prod.mk.inj (Option.some.inj ended)
      exact .unbound leads

theorem runs_of_run {bound : Nat} (ended : run bound task shell = some (result, final)) :
    Runs task shell result final := by
  induction bound generalizing task shell result final with
  | zero => simp [run] at ended
  | succ bound ih =>
      cases task with
      | visit visit =>
          cases visit with
          | menu id =>
              obtain ⟨⟨inner, left⟩, looped, same⟩ := Option.map_eq_some_iff.mp ended
              obtain ⟨rfl, rfl⟩ := Prod.mk.inj same
              exact .menu (ih looped)
          | execute id line =>
              rw [run] at ended
              cases found : shell.tree.executeRoute? id line with
              | none => simp [found, follow] at ended
              | some route =>
                  rw [found] at ended
                  exact runs_of_follow (.execute found) (fun _ _ _ _ => ih) ended
          | dispatch menu line =>
              rw [run] at ended
              cases found : shell.tree.dispatchRoute? menu line with
              | none => simp [found, follow] at ended
              | some route =>
                  rw [found] at ended
                  exact runs_of_follow (.dispatch found) (fun _ _ _ _ => ih) ended
      | loop menu =>
          rw [run] at ended
          split at ended
          · rename_i next
            split at ended
            · rename_i dispatched
              exact .normal next (ih dispatched) (ih ended)
            · rename_i dispatched
              obtain ⟨rfl, rfl⟩ := Prod.mk.inj (Option.some.inj ended)
              exact .quit next (ih dispatched)
            · rename_i dispatched
              obtain ⟨rfl, rfl⟩ := Prod.mk.inj (Option.some.inj ended)
              exact .broken next (ih dispatched)
            · simp at ended
          · rename_i next
            exact .again next (ih ended)
          · rename_i next
            obtain ⟨rfl, rfl⟩ := Prod.mk.inj (Option.some.inj ended)
            exact .ended next
          · rename_i next
            obtain ⟨rfl, rfl⟩ := Prod.mk.inj (Option.some.inj ended)
            exact .failed next
      | script script =>
          cases script with
          | done =>
              obtain ⟨rfl, rfl⟩ := Prod.mk.inj (Option.some.inj ended)
              exact .done _ _
          | fail =>
              obtain ⟨rfl, rfl⟩ := Prod.mk.inj (Option.some.inj ended)
              exact .fail _ _
          | consult => exact .consult (ih ended)
          | remember => exact .remember (ih ended)
          | perform => exact .perform (ih ended)
          | visit =>
              simp only [run] at ended
              split at ended
              · rename_i visited
                exact .visit (ih visited) (ih ended)
              · simp at ended

theorem ends_iff_runs : Ends task shell (result, final) ↔ Runs task shell result final := by
  constructor
  · rintro ⟨bound, ended⟩
    exact runs_of_run ended
  · exact Runs.ends

inductive Effect (shell : Shell Host) :
    {answer : Answer} → Request (Action Host) answer → Shell Host → Prop
  | nothing {answer : Answer} {request : Request (Action Host) answer} :
      Effect shell request shell
  | wrote {answer : Answer} {request : Request (Action Host) answer} (text : String) :
      Effect shell request (shell.write text)
  | framed {answer : Answer} {request : Request (Action Host) answer} (frames : List Frame) :
      Effect shell request { shell with input.frames := frames }
  | queried (prompt? : Option String) : Effect shell (.query prompt?) (shell.query prompt?).2
  | read (prompt? : Option String) :
      Effect shell (.readExternal prompt?) (shell.readExternal prompt?).2
  | edited {change : Tree.Edit (Action Host)} (tree : Tree (Action Host)) :
      Effect shell (.edit change) { shell with tree }
  | tested {answer : Answer} {request : Request (Action Host) answer}
      (conditions : List (String × Condition Host)) : Effect shell request { shell with conditions }
  | defined {name : String} {lines : List String} {procedures : ProcedureStore} :
      shell.procedures.record name lines = .ok procedures →
      Effect shell (.recordProcedure name lines) { shell with procedures }
  | recorded {name : String} {lines : List String} (records : RecordStore) :
      Effect shell (.addRecord name lines) (shell.keepRecords records)
  | noted {answer : Answer} {request : Request (Action Host) answer}
      (notebooks : List (NodeId × List String)) : Effect shell request { shell with notebooks }

theorem effect_demand {answer : Answer} {request : Request (Action Host) answer}
    (shell : Shell Host) (command : String) (change : Call → Call) :
    Effect shell request (shell.update .ofError
      ((shell.input.requestOfCall command change).map fun input => { shell with input })).2 := by
  unfold InputStack.requestOfCall
  split
  · exact .framed _
  · exact .nothing

theorem effect_serve (shell : Shell Host) {answer : Answer}
    (request : Request (Action Host) answer) : Effect shell request (shell.serve request).2 := by
  cases request with
  | write _ | report _ | showHelp _ _ => exact .wrote _
  | pushLines _ => exact .framed _
  | call procedure =>
      simp only [serve, call]
      cases shell.procedures.call procedure with
      | ok running => exact .framed _
      | error error => exact .nothing
  | requestReturn => exact effect_demand shell _ _
  | requestJump label => exact effect_demand shell _ _
  | query prompt? => exact .queried prompt?
  | readExternal prompt? => exact .read prompt?
  | edit change => exact .edited _
  | test condition mode =>
      simp only [serve, test]
      split
      · exact .nothing
      · unfold setCondition
        split
        · exact .tested _
        · exact .tested _
  | recordProcedure name lines =>
      simp only [serve]
      cases stored : shell.procedures.record name lines with
      | ok procedures => exact .defined stored
      | error error => exact .nothing
  | addRecord name lines => exact .recorded _
  | clearNotes _ | note _ _ => exact .noted _
  | child _ _ | defaultChild _ | resolve _ _ _ | resolveNamed _ _ _ | comparison _ | settings
  | getRecord _ | recordNames | notes _ => exact .nothing

theorem keepRecords_cases (shell : Shell Host) (records : RecordStore) :
    ∃ source, shell.keepRecords records = { shell with records, input.source := source } := by
  unfold keepRecords
  split
  · exact ⟨_, rfl⟩
  · exact ⟨_, rfl⟩

theorem next_cases {step : Next} {asked : Shell Host} (next : shell.next = (step, asked)) :
    asked = (shell.query shell.prompts.current?).2 ∨
      ∃ text, asked = (shell.query shell.prompts.current?).2.write text := by
  have same : asked = shell.next.2 := by rw [next]
  rw [same]
  unfold Shell.next
  split
  · rename_i answered
    rw [answered]
    exact .inl rfl
  · rename_i answered
    rw [answered]
    exact .inl rfl
  · rename_i answered
    rw [answered]
    split
    · split
      · exact .inr ⟨_, rfl⟩
      · exact .inl rfl
    · exact .inl rfl

end Shell

end MenuShell
