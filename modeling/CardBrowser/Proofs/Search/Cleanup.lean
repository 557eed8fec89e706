import Mathlib
import CardBrowser.Config
import CardBrowser.Proofs.Search.Ordering
import CardBrowser.Proofs.Search.Strategy

/-!
# What searches leave behind

A plan changes nothing but temporary tables, `same_lasting_execute`, and one that sorts a table
removes that table in the end, also where one of its statements fails, `execute_materialized_snd`.
So the answers to requests on one connection do not depend on each other unless a table of their
name was left there before: `searches_leave_store`.
-/

namespace CardBrowser.Database

open CardBrowser.Search CardBrowser.Sql

variable {database other next : Database} {written name : String}

/-- Two databases hold the same note types, notes, cards and other lasting tables. Their temporary
tables may differ. -/
def SameLasting (database other : Database) : Prop :=
  ∃ temporary, other = { database with temporary }

/-- A database holds what it holds itself. -/
theorem SameLasting.refl (database : Database) : database.SameLasting database :=
  ⟨database.temporary, rfl⟩

/-- Databases that hold the same as a third one hold the same. -/
theorem SameLasting.trans (h : database.SameLasting other) (hnext : other.SameLasting next) :
    database.SameLasting next := by
  obtain ⟨temporary, rfl⟩ := h
  obtain ⟨temporary, rfl⟩ := hnext
  exact ⟨temporary, rfl⟩

/-- A command changes nothing but temporary tables, whether or not it succeeds. -/
theorem same_lasting_command (command : Command) (database : Database) :
    database.SameLasting (Store.execute command database).2 := by
  cases hexecute : database.execute command with
  | error fault =>
      have hcalled : (Store.execute command database).2 = database := by
        simp only [Store.execute, hexecute]
      rw [hcalled]
      exact .refl database
  | ok next =>
      have hcalled : (Store.execute command database).2 = next := by
        simp only [Store.execute, hexecute]
      rw [hcalled]
      cases command with
      | dropTable written =>
          obtain ⟨name, rfl⟩ := @drop_eq_without database written next hexecute
          exact ⟨_, rfl⟩
      | createTable written value selection =>
          obtain ⟨name, -, -, rows, -, rfl⟩ := execute_create_eq_ok_iff.1 hexecute
          exact ⟨_, rfl⟩

/-- Whichever of the statements about a sort table can be read, it reads this name. -/
structure ReadsName (written name : String) : Prop where
  dropped : ∀ drop, Drop.ofText (Command.dropTable written).text = .ok drop →
    drop.table.name = name
  created : ∀ other, newNameOfText written = .ok other → other = name

/-- An identifier is read as it is written. -/
theorem reads_name_of_is_name (h : Text.isName written.toList = true) :
    ReadsName written written := by
  -- Where a reserved word stands in place of the name, neither statement can be read.
  have hname : ∀ {rest : List Token} {named : String × List Token},
      readName (.name written :: rest) = .ok named → named = (written, rest) := by
    intro rest named hread
    by_cases hreserved : isReserved written = true
    · simp [readName, Token.name?, hreserved] at hread
    · simpa [readName, Token.name?, hreserved] using hread.symm
  constructor
  · intro drop hdrop
    unfold Drop.ofText at hdrop
    rw [Token.of_text_drop_name h, read_drop_temporary] at hdrop
    obtain ⟨read, hread, hdrop⟩ := Except.bind_eq_ok_iff.1 hdrop
    obtain ⟨named, hnamed, rfl⟩ := Except.map_eq_ok_iff.1 hread
    obtain rfl := hname hnamed
    obtain rfl := Except.ok.inj hdrop
    rfl
  · intro other hcreated
    unfold newNameOfText at hcreated
    rw [Token.of_text_name_as h] at hcreated
    dsimp only at hcreated
    split_ifs at hcreated
    · cases hcreated
    · obtain ⟨named, hnamed, hcreated⟩ := Except.bind_eq_ok_iff.1 hcreated
      obtain rfl := hname hnamed
      exact (Except.ok.inj hcreated).symm

/-- The names of a sort table are read in its statements. -/
theorem NamesSortTable.reads_name (h : database.NamesSortTable written name) :
    ReadsName written name where
  dropped drop hdrop := by
    obtain rfl := Except.ok.inj (h.dropped.symm.trans hdrop)
    rfl
  created other hcreated := Except.ok.inj (hcreated.symm.trans h.created)

/-- A sort table is gone after the statement that drops it, if this can be read. -/
theorem execute_drop_snd {drop : Drop} (hreads : ReadsName written name)
    (hread : Drop.ofText (Command.dropTable written).text = .ok drop) (database : Database) :
    (Store.execute (.dropTable written) database).2 = database.without name := by
  have hexecute : database.execute (.dropTable written) =
      database.dropTable (Command.dropTable written).text := rfl
  have hname := hreads.dropped drop hread
  rcases @drop_cases database written drop hread with hdrop | ⟨hnone, fault, hdrop⟩
  · simp only [Store.execute, hexecute, hdrop, hname]
  · rw [hname] at hnone
    simp only [Store.execute, hexecute, hdrop, without_eq_self hnone]

end CardBrowser.Database

namespace CardBrowser.Search

open CardBrowser.Database CardBrowser.Sql

variable {database : Database} {options : PlanOptions} {predicate : Predicate}
  {direction : Direction} {written name : String}

/-! ## Plans -/

/-- Commands change nothing but temporary tables. -/
theorem same_lasting_commands (stage : Stage) (commands : List Command) (database : Database) :
    database.SameLasting (Plan.runCommands stage commands database).2 := by
  induction commands generalizing database with
  | nil => exact .refl database
  | cons command commands ih =>
      have hcommand := same_lasting_command command database
      unfold Plan.runCommands
      rcases hcalled : Store.execute command database with ⟨_ | _, after⟩ <;>
        rw [hcalled] at hcommand
      · exact hcommand
      · exact hcommand.trans (ih after)

/-- A plan changes nothing but temporary tables, wherever it may fail. -/
theorem same_lasting_execute (plan : Plan) (direction : Direction) (database : Database) :
    database.SameLasting (plan.execute direction database).2 := by
  have hquery : ∀ database : Database,
      (Plan.runQuery plan.query direction database).2 = database := by
    intro database
    unfold Plan.runQuery
    cases plan.query <;> rfl
  have hrun : database.SameLasting (plan.run direction database).2 := by
    have hcommands := same_lasting_commands .projection plan.prepare database
    unfold Plan.run
    rcases hcalled : Plan.runCommands .projection plan.prepare database with ⟨_ | _, after⟩ <;>
      rw [hcalled] at hcommands
    · exact hcommands
    · dsimp only
      rw [hquery]
      exact hcommands
  show database.SameLasting (plan.cleanUp (plan.run direction database).2)
  unfold Plan.cleanUp
  cases plan.cleanup with
  | none => exact hrun
  | some command => exact hrun.trans (same_lasting_command command _)

/-- A plan that sorts a table leaves no table of that name, whichever of its statements fails. -/
theorem execute_materialized_snd {drop : Drop} (hreads : ReadsName written name)
    (hread : Drop.ofText (Command.dropTable written).text = .ok drop) (expression : String) :
    ((Plan.materialized written predicate expression).execute direction database).2 =
      database.without name := by
  have hagain : (database.without name).without name = database.without name :=
    without_eq_self (named_unnamed_self _)
  -- A search ends with the table, or without it if it fails at one of the two commands.
  have hrun : ((Plan.materialized written predicate expression).run direction database).2 =
      database.without name ∨ ∃ pairs, ((Plan.materialized written predicate expression).run
        direction database).2 = (database.without name).withSortTable name pairs := by
    have hdropped := execute_drop_snd hreads hread database
    unfold Plan.run Plan.materialized
    simp only [Plan.runCommands]
    rcases hdrop : Store.execute (.dropTable written) database with ⟨_ | _, cleared⟩ <;>
      rw [hdrop] at hdropped
    · exact Or.inl hdropped
    · obtain rfl : cleared = database.without name := hdropped
      cases hcreate : (database.without name).execute (.createTable written (.verbatim expression)
          (Plan.selection predicate expression)) with
      | error fault =>
          left
          simp only [Store.execute, hcreate]
      | ok next =>
          obtain ⟨created, hcreated, -, value, condition, sources, -, rfl⟩ :=
            create_sort_table_eq_ok_iff.1 hcreate
          obtain rfl := hreads.created created hcreated
          refine Or.inr ⟨sortPairs (database.without created) sources value condition
            (Plan.selection predicate expression).parameters, ?_⟩
          simp only [Store.execute, hcreate]
          rfl
  show (Store.execute (.dropTable written) ((Plan.materialized written predicate expression).run
    direction database).2).2 = _
  rw [execute_drop_snd hreads hread]
  rcases hrun with hrun | ⟨pairs, hrun⟩
  · rw [hrun, hagain]
  · rw [hrun, without_with_sort_table, hagain]

/-- Where the statement that drops a table cannot be read, a plan that sorts a table does nothing. -/
theorem execute_materialized_unread {misread : Misread}
    (hread : Drop.ofText (Command.dropTable written).text = .error misread) (expression : String) :
    ((Plan.materialized written predicate expression).execute direction database).2 =
      database := by
  have hexecute : database.execute (.dropTable written) =
      .error (.misread misread (Command.dropTable written).text) := by
    show database.dropTable (Command.dropTable written).text = _
    unfold Database.dropTable
    rw [hread]
    rfl
  obtain ⟨error, hdrop⟩ : ∃ error,
      Store.execute (.dropTable written) database = (.error error, database) := by
    simp only [Store.execute, hexecute]
    exact ⟨_, rfl⟩
  have hrun : ((Plan.materialized written predicate expression).run direction database).2 =
      database := by
    unfold Plan.run Plan.materialized
    simp only [Plan.runCommands, hdrop]
  show (Store.execute (.dropTable written) ((Plan.materialized written predicate expression).run
    direction database).2).2 = _
  rw [hrun, hdrop]

/-- A search by a sort key leaves a database as it was if there was no sort table before. -/
theorem execute_of_key_snd (hreads : ReadsName options.sortTable name)
    (hnone : named? database.temporary name = none) (key : SortKey) :
    ((Plan.ofKey options predicate key).execute direction database).2 = database := by
  rcases Plan.of_key_cases options predicate key with hplan | ⟨expression, -, hplan | hplan⟩
  · rw [hplan]
    rfl
  · rw [hplan]
    rfl
  · rw [hplan]
    cases hread : Drop.ofText (Command.dropTable options.sortTable).text with
    | error misread => exact execute_materialized_unread hread expression
    | ok drop =>
        rw [execute_materialized_snd hreads hread, without_eq_self hnone]

/-! ## Requests -/

/-- What a browser asks a store for: the cards that satisfy a predicate, sorted by a column. -/
structure Request where
  config : Config
  registry : Registry
  forced : Option Strategy
  predicate : Predicate
  sortType : String
  direction : Direction

namespace Request

/-- The plan of a request, if its column is searched by a plan at all. -/
def plan? (request : Request) : Option Plan :=
  (planFor request.registry ⟨request.config.sortTable, request.forced⟩ request.predicate
    request.sortType).1

/-- A plan is made for the sort key of a column. -/
theorem plan_eq_some {request : Request} {plan : Plan} (h : request.plan? = some plan) :
    ∃ key, plan = Plan.ofKey ⟨request.config.sortTable, request.forced⟩ request.predicate key := by
  obtain ⟨key, -, hkey⟩ := Option.map_eq_some_iff.1 h
  exact ⟨key, hkey.symm⟩

variable {σ : Type} [Store σ]

/-- The cards that a store finds for a request; none if it is not searched by a plan. -/
def answer (request : Request) (store : σ) : Option (List Int) × σ :=
  match request.plan? with
  | none => (none, store)
  | some plan =>
    let (found, store) := plan.execute request.direction store
    (some found, store)

/-- The answers to requests that are put one after another. -/
def answers : List Request → σ → List (Option (List Int)) × σ
  | [], store => ([], store)
  | request :: requests, store =>
    let (found, store) := request.answer store
    let (others, store) := answers requests store
    (found :: others, store)

/-- The configuration of a request is valid, and the store has no temporary table of the name that
it gives to sort tables. -/
structure IsFresh (request : Request) (database : Database) : Prop where
  valid : request.config.validate = .ok ()
  free : named? database.temporary request.config.sortTable = none

/-- A connection answers a request as its database does. -/
theorem answer_connection (request : Request) (connection : Connection) :
    (request.answer connection).1 = (request.answer connection.database).1 ∧
      (request.answer connection).2.database = (request.answer connection.database).2 := by
  unfold answer
  cases request.plan? with
  | none => exact ⟨rfl, rfl⟩
  | some plan =>
      obtain ⟨hfound, hdatabase⟩ :=
        Plan.execute_plan_connection plan request.direction connection
      exact ⟨congrArg some hfound, hdatabase⟩

/-- A request changes nothing but temporary tables. -/
theorem same_lasting_answer (request : Request) (connection : Connection) :
    connection.database.SameLasting (request.answer connection).2.database := by
  rw [(request.answer_connection connection).2]
  unfold answer
  cases request.plan? with
  | none => exact .refl _
  | some plan => exact same_lasting_execute plan request.direction connection.database

/-- The name of the sort table of a valid configuration is an identifier. -/
theorem is_name_of_validate {config : Config} (h : config.validate = .ok ()) :
    Text.isName config.sortTable.toList = true := by
  by_contra hname
  rw [Bool.not_eq_true] at hname
  simp [Config.validate, hname] at h

/-- No table that a plan sorted is left, unless its name is a reserved word. -/
theorem named_answer_eq_none {request : Request} {plan : Plan}
    (hvalid : request.config.validate = .ok ())
    (hreserved : isReserved request.config.sortTable = false) (hplan : request.plan? = some plan)
    (hstrategy : plan.strategy = .materialized) (connection : Connection) :
    named? (request.answer connection).2.database.temporary request.config.sortTable = none := by
  have hname := is_name_of_validate hvalid
  have hdatabase : (request.answer connection.database).2 =
      connection.database.without request.config.sortTable := by
    unfold answer
    simp only [hplan]
    obtain ⟨key, rfl⟩ := plan_eq_some hplan
    rcases Plan.of_key_cases ⟨request.config.sortTable, request.forced⟩ request.predicate key with
      hkey | ⟨expression, -, hkey | hkey⟩ <;> rw [hkey] at hstrategy ⊢
    · cases hstrategy
    · cases hstrategy
    · exact execute_materialized_snd (reads_name_of_is_name hname)
        (drop_of_is_name hname hreserved) expression
  rw [(request.answer_connection connection).2, hdatabase]
  exact named_unnamed_self _

/-- A request leaves a database as it was if there was no sort table before. -/
theorem answer_snd {request : Request} {connection : Connection}
    (h : request.IsFresh connection.database) :
    (request.answer connection).2.database = connection.database := by
  rw [(request.answer_connection connection).2]
  unfold answer
  cases hplan : request.plan? with
  | none => rfl
  | some plan =>
      have hreads := reads_name_of_is_name (is_name_of_validate h.valid)
      obtain ⟨key, rfl⟩ := plan_eq_some hplan
      dsimp only
      exact execute_of_key_snd hreads h.free key

/-- Requests that find no sort table of their name are answered as if each were the first one. -/
theorem answers_eq {requests : List Request} {connection : Connection}
    (h : ∀ request ∈ requests, request.IsFresh connection.database) :
    (answers requests connection).1 =
        requests.map (fun request => (request.answer connection).1) ∧
      (answers requests connection).2.database = connection.database := by
  -- The connections in between have the same database, which is all that an answer depends on.
  have hrun : ∀ between : Connection, between.database = connection.database →
      (answers requests between).1 = requests.map (fun request => (request.answer connection).1) ∧
        (answers requests between).2.database = connection.database := by
    induction requests with
    | nil => exact fun between hbetween => ⟨rfl, hbetween⟩
    | cons request requests ih =>
        intro between hbetween
        have hfresh : request.IsFresh between.database := by
          rw [hbetween]
          exact h request List.mem_cons_self
        obtain ⟨hothers, hdatabase⟩ := ih (fun other hother => h other (List.mem_cons_of_mem _ hother))
          (request.answer between).2 ((answer_snd hfresh).trans hbetween)
        have hfirst : (request.answer between).1 = (request.answer connection).1 := by
          rw [(request.answer_connection between).1, hbetween,
            (request.answer_connection connection).1]
        exact ⟨congrArg₂ List.cons hfirst hothers, hdatabase⟩
  exact hrun connection rfl

/-- Requests change nothing but temporary tables, whatever they leave there. -/
theorem same_lasting_answers (requests : List Request) (connection : Connection) :
    connection.database.SameLasting (answers requests connection).2.database := by
  induction requests generalizing connection with
  | nil => exact .refl _
  | cons request requests ih =>
      exact (same_lasting_answer request connection).trans (ih (request.answer connection).2)

end Request

/-- Searches leave the store as it was: they change nothing but temporary tables, and whichever
statement of a search fails, no table that it sorted is left if the name of the table can stand in
a statement. Where no table of their names is left from before, searches do not depend on each other
and nothing at all is changed. -/
theorem searches_leave_store (connection : Connection) (requests : List Request)
    (hvalid : ∀ request ∈ requests, request.config.validate = .ok ()) :
    connection.database.SameLasting (Request.answers requests connection).2.database ∧
    (∀ request ∈ requests,
      connection.database.SameLasting (request.answer connection).2.database ∧
      ∀ plan, request.plan? = some plan → plan.strategy = .materialized →
        isReserved request.config.sortTable = false →
        named? (request.answer connection).2.database.temporary request.config.sortTable =
          none) ∧
    ((∀ request ∈ requests,
        named? connection.database.temporary request.config.sortTable = none) →
      (Request.answers requests connection).1 =
          requests.map (fun request => (request.answer connection).1) ∧
        (Request.answers requests connection).2.database = connection.database) := by
  refine ⟨Request.same_lasting_answers requests connection, fun request hmem => ⟨?_, ?_⟩,
    fun hfree => ?_⟩
  · exact request.same_lasting_answer connection
  · intro plan hplan hstrategy hreserved
    exact Request.named_answer_eq_none (hvalid request hmem) hreserved hplan hstrategy connection
  · exact Request.answers_eq fun request hmem => ⟨hvalid request hmem, hfree request hmem⟩

/-- A registry with one column, whose sort expression the database rejects. -/
def brokenColumn : Registry where
  columns :=
    [{ type := "broken", label := "Broken", value := fun _ _ => ""
       sort := some (.constant (.ok "c.nope")), cached := true }]

/-- A request for all cards, sorted by a column in a table. -/
def tableRequest (registry : Registry) (sortType : String) : Request where
  config := {}
  registry
  forced := none
  predicate := .everything
  sortType
  direction := .descending

/-- A connection to one card whose database has a lasting table of the name of sort tables. -/
def homonymConnection : Connection where
  location := .memory
  config := {}
  database :=
    { cards := some (Table.empty.insert { id := 1, noteId := 2 })
      notes := some Table.empty
      others := [("tmp", ⟨["x"], []⟩)] }

/-- A search that fails removes a table that was left before, and a search after it finds what it
would have found at first. -/
theorem searches_leave_store_broken :
    let requests := [tableRequest brokenColumn "broken", tableRequest intervalColumn "interval"]
    (∃ plan, (tableRequest brokenColumn "broken").plan? = some plan ∧
      (plan.run .descending staleConnection).1.toOption = none ∧
      named? ((tableRequest brokenColumn "broken").answer staleConnection).2.database.temporary
        "tmp" = none) ∧
    (Request.answers requests homonymConnection).1 =
      requests.map (fun request => (request.answer homonymConnection).1) ∧
    (Request.answers requests homonymConnection).2.database = homonymConnection.database := by
  intro requests
  have hvalid : ∀ request ∈ requests, request.config.validate = .ok () := by
    intro request hmem
    rcases List.mem_pair.1 hmem with rfl | rfl <;> rfl
  obtain ⟨-, hstale, -⟩ := searches_leave_store staleConnection requests hvalid
  obtain ⟨-, -, hfresh⟩ := searches_leave_store homonymConnection requests hvalid
  have hplan : (tableRequest brokenColumn "broken").plan? =
      some (Plan.materialized "tmp" .everything "c.nope") := by
    decide
  refine ⟨⟨_, hplan, by decide, ?_⟩, hfresh ?_⟩
  · exact (hstale _ List.mem_cons_self).2 _ hplan rfl (by decide)
  · intro request hmem
    rcases List.mem_pair.1 hmem with rfl | rfl <;> rfl

end CardBrowser.Search
