import Mathlib
import CardBrowser.Database.Query
import CardBrowser.Proofs.Outcome
import CardBrowser.Proofs.Sql.Expr

/-!
# When a query runs

`run_eq_ok_iff` says it in full: a query runs exactly when it can be read, its tables are there and
it passes every check of `Query.Accepted`, and it gives the rows of `Query.listed`. The text of the
statement has no part in that; it only shows in faults.
-/

namespace CardBrowser.Database

open CardBrowser.Sql

variable {database : Database} {query : Query} {sources : From}

namespace Query

/-- A query that has been read passes every check on some tables. -/
structure Accepted (database : Database) (sources : From) (query : Query) : Prop where
  height : ∀ expr ∈ query.exprs, expr.height ≤ greatestHeight
  nested : ∀ expr ∈ query.exprs, ∀ table ∈ expr.tables, (database.tables table).isSome = true
  resolved : ∀ expr ∈ query.exprs, expr.check database.tables [sampleFrame sources] = .ok ()
  parameters : query.parameters.length = query.placeholders
  patterns : meetsLongPattern database.tables query.parameters sources query.condition = false

/-- The choices of rows that satisfy the condition of a query. -/
def found (database : Database) (sources : From) (query : Query) : List Frame :=
  (frames sources).filter fun frame =>
    holds database.tables query.parameters frame query.condition

/-- The results of a query for these choices. -/
def listed (database : Database) (sources : From) (query : Query) : List (List Value) :=
  (query.found database sources).map fun frame =>
    query.results.map fun expr => expr.eval database.tables query.parameters [frame]

/-- What holds of the expressions of a query holds of its results and of its condition. -/
theorem forall_exprs {holds : Expr → Prop} :
    (∀ expr ∈ query.exprs, holds expr) ↔
      (∀ result ∈ query.results, holds result) ∧ holds query.condition := by
  unfold exprs
  rw [List.forall_mem_append, List.forall_mem_singleton]

/-! ## The checks one by one -/

/-- The heights of all expressions are checked. -/
theorem check_height_eq_ok_iff :
    query.checkHeight = .ok () ↔ ∀ expr ∈ query.exprs, expr.height ≤ greatestHeight := by
  unfold checkHeight
  split
  · rename_i h
    simpa using h
  · rename_i h
    simpa using h

/-- The values are counted. -/
theorem check_parameters_eq_ok_iff :
    query.checkParameters = .ok () ↔ query.parameters.length = query.placeholders := by
  unfold checkParameters
  dsimp only
  split
  · rename_i h
    simp [h]
  · rename_i h
    simp [h]

/-- The rows are listed unless a pattern is too long. -/
theorem rows_eq_ok_iff {rows : List (List Value)} :
    query.rows database.tables sources = .ok rows ↔
      meetsLongPattern database.tables query.parameters sources query.condition = false ∧
        rows = query.listed database sources := by
  unfold Query.rows
  cases meetsLongPattern database.tables query.parameters sources query.condition with
  | true => simp [throw, throwThe, MonadExceptOf.throw]
  | false => simp [listed, found, pure, Except.pure, eq_comm]

end Query

/-- The tables of nested selects are checked. -/
theorem check_nested_eq_ok_iff :
    database.checkNested query = .ok () ↔
      ∀ expr ∈ query.exprs, ∀ table ∈ expr.tables, (database.tables table).isSome = true := by
  unfold checkNested
  rw [Except.for_m_eq_ok_iff]
  constructor
  · intro h expr hexpr table htable
    by_contra hnone
    have := h table (List.mem_flatMap.2 ⟨expr, hexpr, htable⟩)
    simp [hnone] at this
  · intro h table hmem
    obtain ⟨expr, hexpr, htable⟩ := List.mem_flatMap.1 hmem
    rw [if_pos (h expr hexpr table htable)]

/-- A query runs exactly when it can be read, its tables are there and it is accepted on them. -/
theorem run_eq_ok_iff {sql : String} {tables : Except Fault From} {rows : List (List Value)} :
    database.run sql query tables = .ok rows ↔
      ∃ read, query.expand = .ok read ∧ ∃ sources, tables = .ok sources ∧
        read.Accepted database sources ∧ rows = read.listed database sources := by
  unfold run prepare
  simp only [Except.bind_eq_ok_iff, Except.map_error_eq_ok_iff, Query.rows_eq_ok_iff]
  constructor
  · intro h
    obtain ⟨⟨read, sources⟩, ⟨_, hread, ⟨⟩, hheight, _, hsources, ⟨⟩, hnested, ⟨⟩, hresolved, ⟨⟩,
      hparameters, ⟨⟩⟩, hpatterns, rfl⟩ := h
    exact ⟨read, hread, sources, hsources,
      { height := Query.check_height_eq_ok_iff.1 hheight
        nested := check_nested_eq_ok_iff.1 hnested
        resolved := Except.for_m_eq_ok_iff.1 hresolved
        parameters := Query.check_parameters_eq_ok_iff.1 hparameters
        patterns := hpatterns }, rfl⟩
  · intro h
    obtain ⟨read, hread, sources, hsources, haccepted, rfl⟩ := h
    exact ⟨(read, sources), ⟨read, hread, (), Query.check_height_eq_ok_iff.2 haccepted.height,
      sources, hsources, (), check_nested_eq_ok_iff.2 haccepted.nested, (),
      Except.for_m_eq_ok_iff.2 haccepted.resolved, (),
      Query.check_parameters_eq_ok_iff.2 haccepted.parameters, rfl⟩, haccepted.patterns, rfl⟩

/-! ## Tables that a query does not read -/

section Tables

variable {tables others : Tables} {parameters : List Value} {condition : Expr}

/-- What is inherited from conjunctions and parentheses, the conditions that hold together have from
their conjunction. -/
theorem forall_conjuncts {motive : Expr → Prop}
    (hand : ∀ {left right}, motive (.binary .and left right) → motive left ∧ motive right)
    (hparen : ∀ {inner}, motive (.paren inner) → motive inner) (h : motive condition) :
    ∀ part ∈ conjuncts condition, motive part := by
  fun_induction conjuncts condition with
  | case1 left right hleft hright =>
      obtain ⟨hl, hr⟩ := hand h
      exact List.forall_mem_append.2 ⟨hleft hl, hright hr⟩
  | case2 inner hinner => exact hinner (hparen h)
  | case3 condition => exact List.forall_mem_singleton.2 h

/-- The conditions that hold together read the tables that their conjunction reads. -/
theorem tables_of_mem_conjuncts :
    ∀ part ∈ conjuncts condition, ∀ table ∈ part.tables, table ∈ condition.tables := by
  apply forall_conjuncts (motive := fun part => ∀ table ∈ part.tables, table ∈ condition.tables)
  · exact List.forall_mem_append.1
  · exact id
  · exact fun _ => id

/-- What is asked of a note for its card reads no table. -/
theorem tables_of_on_note {asked : Expr} (h : onNote? condition = some asked) :
    asked.tables = [] := by
  fun_induction onNote? condition generalizing asked with
  | case1 ids =>
      cases h
      rfl
  | case2 operand ih =>
      obtain ⟨inner, hinner, rfl⟩ := Option.map_eq_some_iff.1 h
      show inner.tables = []
      exact ih hinner
  | case3 inner ih => exact ih h
  | case4 => cases h

/-- The conditions that are tried first are among the given ones or ask a note for what one asks of
its card. -/
theorem mem_first_tries {conditions : List Expr} {tried : Expr}
    (h : tried ∈ (firstTries sources conditions).2) :
    tried ∈ conditions ∨ ∃ condition, onNote? condition = some tried := by
  have hnotes : ∀ tries, noteTries? conditions = some tries → ∀ asked ∈ tries,
      ∃ condition, onNote? condition = some asked := by
    intro tries htries asked hmem
    unfold noteTries? at htries
    dsimp only at htries
    split at htries
    · cases htries
    · split at htries <;> cases htries
      · obtain ⟨condition, -, hnote⟩ := List.mem_filterMap.1 hmem
        exact ⟨condition, hnote⟩
      · rw [List.mem_singleton.1 hmem]
        exact ⟨.inList (.column (some "c") "nid") _, rfl⟩
  unfold firstTries at h
  split at h
  · rename_i tries htries _
    rcases List.mem_append.1 h with h | h
    · exact Or.inr (hnotes tries htries tried h)
    · exact Or.inl (List.mem_filter.1 h).1
  · rcases List.mem_append.1 h with h | h
    · exact Or.inl (List.mem_filter.1 h).1
    · exact Or.inl (List.mem_filter.1 h).1

/-- The conditions that are tried first read no other tables than the conditions they are among. -/
theorem tables_of_mem_first_tries {conditions : List Expr} {tried : Expr}
    (h : tried ∈ (firstTries sources conditions).2) :
    ∀ table ∈ tried.tables, ∃ condition ∈ conditions, table ∈ condition.tables := by
  intro table htable
  rcases mem_first_tries h with hmem | ⟨condition, hnote⟩
  · exact ⟨tried, hmem, htable⟩
  · rw [tables_of_on_note hnote] at htable
    cases htable

/-- Conditions that are tried in turn meet the same patterns whatever other tables there are. -/
theorem tries_long_pattern_congr {conditions : List Expr} {frame : Frame}
    (h : ∀ condition ∈ conditions, ∀ table ∈ condition.tables, tables table = others table) :
    triesLongPattern tables parameters frame conditions =
      triesLongPattern others parameters frame conditions := by
  induction conditions with
  | nil => rfl
  | cons condition later ih =>
      obtain ⟨hcondition, hlater⟩ := List.forall_mem_cons.1 h
      unfold triesLongPattern holds
      rw [Expr.eval_congr hcondition, ih hlater]

/-- A condition meets the same patterns whatever other tables there are. -/
theorem meets_long_pattern_congr
    (h : ∀ table ∈ condition.tables, tables table = others table) :
    meetsLongPattern tables parameters sources condition =
      meetsLongPattern others parameters sources condition := by
  have htries : ∀ tried ∈ (firstTries sources (conjuncts condition)).2, ∀ table ∈ tried.tables,
      tables table = others table := by
    intro tried hmem table htable
    obtain ⟨part, hpart, htable⟩ := tables_of_mem_first_tries hmem table htable
    exact h table (tables_of_mem_conjuncts part hpart table htable)
  unfold meetsLongPattern
  simp only [tries_long_pattern_congr htries]

variable {other : Database}

/-- A query is accepted alike by databases that agree on the tables it reads. -/
theorem Query.Accepted.congr
    (h : ∀ expr ∈ query.exprs, ∀ table ∈ expr.tables, database.tables table = other.tables table)
    (haccepted : query.Accepted database sources) : query.Accepted other sources where
  height := haccepted.height
  nested expr hexpr table htable :=
    h expr hexpr table htable ▸ haccepted.nested expr hexpr table htable
  resolved expr hexpr :=
    Expr.check_congr (h expr hexpr) [sampleFrame sources] ▸ haccepted.resolved expr hexpr
  parameters := haccepted.parameters
  patterns :=
    meets_long_pattern_congr (h query.condition (by simp [exprs])) ▸ haccepted.patterns

end Tables

end CardBrowser.Database
