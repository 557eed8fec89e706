import Mathlib
import CardBrowser.Search.Plan
import CardBrowser.Store.Scripted
import CardBrowser.Store.Traced

/-!
# The calls of a search

What a plan asks of a store, on any store whatever. Its commands run up to the first one that
fails, `run_commands_of_succeed` and `run_commands_of_failure`, and a trace holds exactly these
calls, `Succeed.traced`. The query follows if none of them failed, and the cleanup is the last call
in any case: `execute_calls`.
-/

namespace CardBrowser.Search

/-- The call of a command, as it is written down. -/
def Command.call (command : Command) : Call :=
  .execute command.text command.parameters

/-- The call of a query, as it is written down. -/
def FinalQuery.call : FinalQuery → Call
  | plain query => .cardIds query.text query.selection.parameters
  | ranked query => .rankedIds query.text query.parameters

variable {σ : Type} [Store σ]

/-- What a query lists: its rows put into a direction, none if it fails. With the store after it. -/
def FinalQuery.listed (query : FinalQuery) (direction : Direction) (store : σ) :
    Option (List Int) × σ :=
  match query with
  | plain query =>
    let (answer, store) := Store.cardIds query store
    (answer.toOption.map (reversed · direction), store)
  | ranked query =>
    let (answer, store) := Store.rankedIds query store
    (answer.toOption.map (directed · direction), store)

/-- Commands that all succeed, each on the store that the ones before it leave. -/
inductive Succeed : List Command → σ → σ → Prop
  | nil (store : σ) : Succeed [] store store
  | cons {command : Command} {rest : List Command} {store next after : σ}
      (hcommand : Store.execute command store = (.ok (), next))
      (hrest : Succeed rest next after) : Succeed (command :: rest) store after

variable {commands done rest : List Command} {failing : Command} {store reached after : σ}
  {error : StoreError} {direction : Direction}

/-! ## Commands -/

/-- Commands all succeed, or one of them fails after all before it have succeeded. -/
theorem succeed_or_fail (commands : List Command) (store : σ) :
    (∃ ready, Succeed commands store ready) ∨
      ∃ done failing rest reached error after, commands = done ++ failing :: rest ∧
        Succeed done store reached ∧ Store.execute failing reached = (.error error, after) := by
  induction commands generalizing store with
  | nil => exact Or.inl ⟨store, .nil store⟩
  | cons command commands ih =>
      rcases hcommand : Store.execute command store with ⟨error | ⟨⟩, next⟩
      · exact Or.inr ⟨[], command, commands, store, error, next, rfl, .nil store, hcommand⟩
      · rcases ih next with ⟨ready, hready⟩ |
          ⟨done, failing, rest, reached, error, after, rfl, hdone, hfailing⟩
        · exact Or.inl ⟨ready, .cons hcommand hready⟩
        · exact Or.inr ⟨command :: done, failing, rest, reached, error, after, rfl,
            .cons hcommand hdone, hfailing⟩

/-- Commands that all succeed are all run. -/
theorem run_commands_of_succeed (stage : Stage) (h : Succeed commands store after) :
    Plan.runCommands stage commands store = (.ok (), after) := by
  induction h with
  | nil => rfl
  | cons hcommand hrest ih => simpa only [Plan.runCommands, hcommand] using ih

/-- No command is run after the first one that fails. -/
theorem run_commands_of_failure (stage : Stage) (hdone : Succeed done store reached)
    (hfailing : Store.execute failing reached = (.error error, after)) :
    Plan.runCommands stage (done ++ failing :: rest) store =
      (.error (error.atStage stage), after) := by
  induction hdone with
  | nil => simp only [List.nil_append, Plan.runCommands, hfailing]
  | cons hcommand hrest ih =>
      simpa only [List.cons_append, Plan.runCommands, hcommand] using ih hfailing

/-- Commands do not all succeed if one of them fails after those before it have succeeded. -/
theorem not_succeed_of_failure (hdone : Succeed done store reached)
    (hfailing : Store.execute failing reached = (.error error, after)) :
    ¬ ∃ ready, Succeed (done ++ failing :: rest) store ready := by
  intro h
  obtain ⟨ready, hready⟩ := h
  have hsame := (run_commands_of_succeed .projection hready).symm.trans
    (run_commands_of_failure .projection hdone hfailing)
  cases hsame

/-! ## Traces -/

/-- A traced store runs a command as the store inside it does, and writes it down. -/
theorem execute_traced (command : Command) (store : σ) (calls : List Call) :
    Store.execute command (⟨store, calls⟩ : Traced σ) =
      ((Store.execute command store).1,
        ⟨(Store.execute command store).2, calls ++ [command.call]⟩) := rfl

/-- Commands that succeed do so on a traced store, which writes all of them down. -/
theorem Succeed.traced (h : Succeed commands store after) (calls : List Call) :
    Succeed commands (⟨store, calls⟩ : Traced σ)
      ⟨after, calls ++ commands.map Command.call⟩ := by
  induction h generalizing calls with
  | nil store =>
      rw [List.map_nil, List.append_nil]
      exact Succeed.nil _
  | @cons command rest store next after hcommand hrest ih =>
      have htraced : Store.execute command (⟨store, calls⟩ : Traced σ) =
          (.ok (), ⟨next, calls ++ [command.call]⟩) := by
        rw [execute_traced, hcommand]
      have hlater := ih (calls ++ [command.call])
      rw [List.append_assoc, List.singleton_append] at hlater
      exact .cons htraced hlater

/-- A traced store lists for a query what the store inside it does, and writes it down. -/
theorem listed_traced (query : FinalQuery) (store : σ) (calls : List Call) :
    query.listed direction (⟨store, calls⟩ : Traced σ) =
      ((query.listed direction store).1,
        ⟨(query.listed direction store).2, calls ++ [query.call]⟩) := by
  cases query <;> rfl

/-- A traced store is cleaned up like the store inside it, which is written down. -/
theorem clean_up_traced (plan : Plan) (store : σ) (calls : List Call) :
    plan.cleanUp (⟨store, calls⟩ : Traced σ) =
      ⟨plan.cleanUp store, calls ++ (plan.cleanup.map Command.call).toList⟩ := by
  unfold Plan.cleanUp
  cases plan.cleanup with
  | none => simp only [Option.map_none, Option.toList_none, List.append_nil]
  | some command => rfl

/-! ## Plans -/

/-- A query is run for what it lists. -/
theorem run_query_eq_listed (query : FinalQuery) (direction : Direction) (store : σ) :
    (Plan.runQuery query direction store).1.toOption = (query.listed direction store).1 ∧
      (Plan.runQuery query direction store).2 = (query.listed direction store).2 := by
  cases query with
  | plain query =>
      rcases hanswer : Store.cardIds query store with ⟨_ | _, next⟩ <;> constructor <;>
        simp only [Plan.runQuery, FinalQuery.listed, hanswer] <;> rfl
  | ranked query =>
      rcases hanswer : Store.rankedIds query store with ⟨_ | _, next⟩ <;> constructor <;>
        simp only [Plan.runQuery, FinalQuery.listed, hanswer] <;> rfl

/-- A plan whose commands succeed finds what its query lists on the store that they leave. -/
theorem execute_of_succeed {plan : Plan} (direction : Direction)
    (h : Succeed plan.prepare store after) :
    plan.execute direction store =
      ((plan.query.listed direction after).1.getD [],
        plan.cleanUp (plan.query.listed direction after).2) := by
  obtain ⟨hanswer, hstore⟩ := run_query_eq_listed plan.query direction after
  have hrun : plan.run direction store = Plan.runQuery plan.query direction after := by
    simp only [Plan.run, run_commands_of_succeed .projection h]
  simp only [Plan.execute, hrun, hanswer, hstore]

/-- A plan that has a failing command finds nothing. -/
theorem execute_of_failure {plan : Plan} (direction : Direction)
    (hprepare : plan.prepare = done ++ failing :: rest) (hdone : Succeed done store reached)
    (hfailing : Store.execute failing reached = (.error error, after)) :
    plan.execute direction store = ([], plan.cleanUp after) := by
  have hrun : plan.run direction store = (.error (error.atStage .projection), after) := by
    simp only [Plan.run, hprepare, run_commands_of_failure .projection hdone hfailing]
  simp only [Plan.execute, hrun]
  rfl

/-- What a search asks of a store and what it finds. Its commands are called in order. If all of
them succeed, the query is the next call, and the search finds its rows in the given direction, or
nothing if it fails. Otherwise the first one that fails is the last of these calls, and the search
finds nothing. The cleanup is the one call after that in either case, and what the search finds is
the same for every cleanup. All this is so on a store that keeps no trace too. -/
theorem execute_calls (plan : Plan) (direction : Direction) (store : σ) (calls : List Call) :
    ((∃ ready, Succeed plan.prepare store ready ∧
        plan.execute direction (⟨store, calls⟩ : Traced σ) =
          ((plan.query.listed direction ready).1.getD [],
            ⟨plan.cleanUp (plan.query.listed direction ready).2,
              calls ++ (plan.prepare.map Command.call ++ [plan.query.call] ++
                (plan.cleanup.map Command.call).toList)⟩)) ∨
      (¬ ∃ ready, Succeed plan.prepare store ready) ∧
        ∃ done failing rest reached error after, plan.prepare = done ++ failing :: rest ∧
          Succeed done store reached ∧ Store.execute failing reached = (.error error, after) ∧
          plan.execute direction (⟨store, calls⟩ : Traced σ) =
            ([], ⟨plan.cleanUp after,
              calls ++ (done.map Command.call ++ [failing.call] ++
                (plan.cleanup.map Command.call).toList)⟩)) ∧
    (∀ cleanup, ({ plan with cleanup }.execute direction (⟨store, calls⟩ : Traced σ)).1 =
      (plan.execute direction (⟨store, calls⟩ : Traced σ)).1) ∧
    plan.execute direction store =
      ((plan.execute direction (⟨store, calls⟩ : Traced σ)).1,
        (plan.execute direction (⟨store, calls⟩ : Traced σ)).2.store) := by
  rcases succeed_or_fail plan.prepare store with ⟨ready, hready⟩ |
    ⟨done, failing, rest, reached, error, after, hprepare, hdone, hfailing⟩
  · have hexecute := execute_of_succeed direction (hready.traced calls)
    rw [listed_traced, clean_up_traced] at hexecute
    refine ⟨Or.inl ⟨ready, hready, ?_⟩, fun _ => rfl, ?_⟩
    · simpa only [List.append_assoc] using hexecute
    · rw [hexecute, execute_of_succeed direction hready]
  · have htraced : Store.execute failing
        (⟨reached, calls ++ done.map Command.call⟩ : Traced σ) =
        (.error error, ⟨after, calls ++ done.map Command.call ++ [failing.call]⟩) := by
      rw [execute_traced, hfailing]
    have hexecute := execute_of_failure direction hprepare (hdone.traced calls) htraced
    rw [clean_up_traced] at hexecute
    refine ⟨Or.inr ⟨?_, done, failing, rest, reached, error, after, hprepare, hdone, hfailing, ?_⟩,
      fun _ => rfl, ?_⟩
    · rw [hprepare]
      exact not_succeed_of_failure hdone hfailing
    · simpa only [List.append_assoc] using hexecute
    · rw [hexecute, execute_of_failure direction hprepare hdone hfailing]

-- A sort table that cannot be created is not listed, but it is dropped all the same.
example : ((Plan.materialized "tmp" .everything "c.ivl").execute .ascending
      (⟨{ failOn := some "CREATE" }, []⟩ : Traced Script)).2.calls =
    [.execute "DROP TABLE IF EXISTS temp.tmp" [],
      .execute "CREATE TEMP TABLE tmp AS SELECT c.id AS id, (c.ivl) AS srt FROM cards c WHERE (1)"
        [],
      .execute "DROP TABLE IF EXISTS temp.tmp" []] := by
  decide

end CardBrowser.Search
