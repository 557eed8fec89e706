import Mathlib
import CardBrowser.Proofs.Database.SortTable

/-!
# The pairs of card ids and sort values

Two statements compute the sort values of cards: the query that ranks them itself and the one that
creates a sort table. `ranked_cards_eq_ok_iff` and `create_sort_table_eq_ok_iff` describe both by
the pairs of `sortPairs`. What one of them refuses the other one refuses as well
(`accepted_rank_query_iff`), apart from expressions so high that only the order terms around them
have too many levels.
-/

namespace CardBrowser.Database

open CardBrowser.Sql CardBrowser.Search

variable {database : Database} {sources : From} {value condition : Expr} {parameters : List Value}

/-- The pairs of a card id and a sort value for the rows that satisfy a condition. -/
def sortPairs (database : Database) (sources : From) (value condition : Expr)
    (parameters : List Value) : List (Value × Value) :=
  ((frames sources).filter fun frame =>
      holds database.tables parameters frame condition).map fun frame =>
    (cardId.eval database.tables parameters [frame], value.eval database.tables parameters [frame])

/-- The query for the sort values of cards. -/
def valueQuery (value condition : Expr) (parameters : List Value) : Query :=
  ⟨[cardId, value], condition, parameters⟩

/-- The query that ranks cards by a sort value. -/
def rankQuery (value condition : Expr) (parameters : List Value) : Query :=
  ⟨rankExprs value cardId, condition, parameters⟩

/-- How many levels an expression may have if it is to stand within order terms. -/
def greatestSortHeight : Nat := greatestHeight - 3

/-- What holds of the expressions of a ranking query. -/
theorem forall_rank_exprs {holds : Expr → Prop} :
    (∀ expr ∈ (rankQuery value condition parameters).exprs, holds expr) ↔
      (∀ expr ∈ orderTerms value, holds expr) ∧ holds cardId ∧ holds (blankFlag value) ∧
        holds condition := by
  simp [rankQuery, Query.exprs, rankExprs, rankTerms, or_imp, forall_and]

/-- What holds of the expressions of a query for sort values. -/
theorem forall_value_exprs {holds : Expr → Prop} :
    (∀ expr ∈ (valueQuery value condition parameters).exprs, holds expr) ↔
      holds cardId ∧ holds value ∧ holds condition := by
  simp [valueQuery, Query.exprs]

/-- Order terms and blank flags read the tables that the sort value reads. -/
theorem tables_order_terms :
    (∀ expr ∈ orderTerms value, ∀ table ∈ expr.tables, table ∈ value.tables) ∧
      (∀ table ∈ (blankFlag value).tables, table ∈ value.tables) ∧
      ∃ expr ∈ orderTerms value, expr.tables = value.tables := by
  refine ⟨?_, ?_, .binary .is (.paren value) .null, by simp [orderTerms], by simp [Expr.tables]⟩
  · simp [orderTerms, Expr.tables]
  · simp [blankFlag, Expr.tables]

/-- The names in order terms and blank flags are those in the sort value. -/
theorem check_order_terms {tables : Tables} {scope : Scope} :
    (∀ expr ∈ orderTerms value, expr.check tables scope = .ok ()) ∧
        (blankFlag value).check tables scope = .ok () ↔
      value.check tables scope = .ok () := by
  cases hvalue : value.check tables scope with
  | ok => simp [orderTerms, blankFlag, Expr.check, hvalue]
  | error rejection => simp [orderTerms, blankFlag, Expr.check, hvalue]

/-- Order terms and blank flags hold no place for a parameter beyond those of the sort value. -/
theorem placeholders_rank_query :
    (rankQuery value condition parameters).placeholders =
      (valueQuery value condition parameters).placeholders := by
  simp only [rankQuery, valueQuery, Query.placeholders, Query.exprs, rankExprs, rankTerms,
    orderTerms, blankFlag, cardId, List.map_cons, List.map_nil, List.cons_append,
    List.nil_append, List.foldl_cons, List.foldl_nil, Expr.placeholders]
  omega

/-- A sort value stands at most three levels below an order term or a blank flag. -/
theorem height_order_terms (h : value.height ≤ greatestSortHeight) :
    (∀ expr ∈ orderTerms value, expr.height ≤ greatestHeight) ∧
      (blankFlag value).height ≤ greatestHeight := by
  constructor
  · simp [orderTerms, Expr.height, greatestSortHeight, greatestHeight] at h ⊢
    omega
  · simp [blankFlag, Expr.height, greatestSortHeight, greatestHeight] at h ⊢
    omega

/-- Ranking cards by a sort value needs what listing the sort values needs. -/
theorem accepted_rank_query_iff (h : value.height ≤ greatestSortHeight) :
    (rankQuery value condition parameters).Accepted database sources ↔
      (valueQuery value condition parameters).Accepted database sources := by
  -- One order term alone reads all tables of the sort value.
  obtain ⟨hterms, hflag, term, hterm, htables⟩ := @tables_order_terms value
  constructor
  · intro haccepted
    have hheight := forall_rank_exprs.1 haccepted.height
    have hnested := forall_rank_exprs.1 haccepted.nested
    have hresolved := forall_rank_exprs.1 haccepted.resolved
    constructor
    · refine forall_value_exprs.2 ⟨hheight.2.1, ?_, hheight.2.2.2⟩
      exact h.trans (Nat.sub_le _ _)
    · exact forall_value_exprs.2
        ⟨hnested.2.1, htables ▸ hnested.1 term hterm, hnested.2.2.2⟩
    · exact forall_value_exprs.2
        ⟨hresolved.2.1, check_order_terms.1 ⟨hresolved.1, hresolved.2.2.1⟩, hresolved.2.2.2⟩
    · exact haccepted.parameters.trans placeholders_rank_query
    · exact haccepted.patterns
  · intro haccepted
    have hheight := forall_value_exprs.1 haccepted.height
    have hnested := forall_value_exprs.1 haccepted.nested
    have hresolved := forall_value_exprs.1 haccepted.resolved
    constructor
    · obtain ⟨horder, hblank⟩ := height_order_terms h
      exact forall_rank_exprs.2 ⟨horder, hheight.1, hblank, hheight.2.2⟩
    · exact forall_rank_exprs.2 ⟨fun expr hexpr table htable =>
        hnested.2.1 table (hterms expr hexpr table htable), hnested.1,
        fun table htable => hnested.2.1 table (hflag table htable), hnested.2.2⟩
    · obtain ⟨horder, hblank⟩ := check_order_terms.2 hresolved.2.1
      exact forall_rank_exprs.2 ⟨horder, hresolved.1, hblank, hresolved.2.2⟩
    · exact haccepted.parameters.trans placeholders_rank_query.symm
    · exact haccepted.patterns

/-- The rows of a ranking query are made of the pairs of card ids and sort values. -/
theorem listed_rank_query :
    (rankQuery value condition parameters).listed database sources =
      (sortPairs database sources value condition parameters).map fun pair =>
        rankRow pair.2 pair.1 := by
  unfold Query.listed sortPairs
  rw [List.map_map]
  exact List.map_congr_left fun frame _ => rank_row_eq _ _ _ _ _

/-- The rows of a query for sort values are the pairs of card ids and sort values. -/
theorem listed_value_query :
    (valueQuery value condition parameters).listed database sources =
      (sortPairs database sources value condition parameters).map fun pair =>
        [pair.1, pair.2] := by
  unfold Query.listed sortPairs
  rw [List.map_map]
  rfl

/-! ## Statements that look at cards -/

variable {expression : String} {filter : Expr} {read : Query} {selection : Selection}

/-- A ranking query can be read exactly when its sort expression and its filter can. -/
theorem expand_rank_query_eq_ok_iff :
    (rankQuery (.verbatim expression) filter parameters).expand = .ok read ↔
      ∃ value, Expr.ofText? expression = some value ∧ ∃ condition, filter.expand = .ok condition ∧
        rankQuery value condition parameters = read := by
  unfold Query.expand
  cases hvalue : Expr.ofText? expression with
  | none =>
      simp [rankQuery, rankExprs, rankTerms, orderTerms, List.mapM_cons, Expr.expand, hvalue]
  | some value =>
      cases hfilter : filter.expand with
      | error rejection => simp [rankQuery, hfilter, Except.bind_eq_ok_iff]
      | ok condition =>
          simp [rankQuery, rankExprs, rankTerms, orderTerms, blankFlag, cardId, List.mapM_cons,
            Expr.expand, hvalue, hfilter]

/-- A query for sort values can be read exactly when its sort expression and its filter can. -/
theorem expand_value_query_eq_ok_iff :
    (valueQuery (.verbatim expression) filter parameters).expand = .ok read ↔
      ∃ value, Expr.ofText? expression = some value ∧ ∃ condition, filter.expand = .ok condition ∧
        valueQuery value condition parameters = read := by
  unfold Query.expand
  cases hvalue : Expr.ofText? expression with
  | none => simp [valueQuery, cardId, List.mapM_cons, Expr.expand, hvalue]
  | some value =>
      cases hfilter : filter.expand with
      | error rejection => simp [valueQuery, hfilter, Except.bind_eq_ok_iff]
      | ok condition =>
          simp [valueQuery, cardId, List.mapM_cons, Expr.expand, hvalue, hfilter]

/-- A query on the cards of a selection, made of a sort value, a condition and its parameters, can
be read and is accepted. -/
structure Prepares (database : Database) (query : Expr → Expr → List Value → Query)
    (selection : Selection) (expression : String) (value condition : Expr) (sources : From) :
    Prop where
  read : Expr.ofText? expression = some value
  filter : selection.filter.expand = .ok condition
  tables : database.sources selection.sources = .ok sources
  accepted : (query value condition selection.parameters).Accepted database sources

/-- Cards are ranked in the query exactly when the query is prepared, by their sort values. -/
theorem ranked_cards_eq_ok_iff {ranked : List (Int × Bool)} :
    database.rankedIds (.cards selection (.verbatim expression)) = .ok ranked ↔
      ∃ value condition sources,
        database.Prepares rankQuery selection expression value condition sources ∧
        rankedPairs (sortPairs database sources value condition selection.parameters) =
          ranked := by
  show database.run _ (rankQuery (.verbatim expression) selection.filter selection.parameters) _
    >>= _ = _ ↔ _
  rw [Except.bind_eq_ok_iff]
  simp only [run_eq_ok_iff, expand_rank_query_eq_ok_iff]
  constructor
  · intro h
    obtain ⟨_, ⟨_, ⟨value, hvalue, condition, hcondition, rfl⟩, sources, hsources, haccepted, rfl⟩,
      hranked⟩ := h
    refine ⟨value, condition, sources, ⟨hvalue, hcondition, hsources, haccepted⟩, ?_⟩
    rw [listed_rank_query] at hranked
    rw [← Except.ok.inj hranked]
    exact ranked_rows_congr rfl _
  · intro h
    obtain ⟨value, condition, sources, hprepared, rfl⟩ := h
    refine ⟨_, ⟨_, ⟨value, hprepared.read, condition, hprepared.filter, rfl⟩, sources,
      hprepared.tables, hprepared.accepted, rfl⟩, ?_⟩
    rw [listed_rank_query]
    exact congrArg Except.ok (ranked_rows_congr rfl _)

/-- A sort table can be created exactly when its name is free and the query for its rows is
prepared, and it holds the sort values of cards. -/
theorem create_sort_table_eq_ok_iff {written : String} {next : Database} :
    database.execute (.createTable written (.verbatim expression) selection) = .ok next ↔
      ∃ name, newNameOfText written = .ok name ∧
        (isInternal name = false ∧ named? database.temporary name = none) ∧
        ∃ value condition sources,
          database.Prepares valueQuery selection expression value condition sources ∧
          database.withSortTable name
            (sortPairs database sources value condition selection.parameters) = next := by
  have hrows : ∀ pairs : List (Value × Value),
      (pairs.map fun pair => [pair.1, pair.2]).map sortTableColumns.zip =
        (sortSource pairs).rows := by
    intro pairs
    rw [List.map_map]
    rfl
  rw [execute_create_eq_ok_iff]
  -- What is left is the query for the rows.
  refine exists_congr fun name => and_congr_right fun _ => and_congr_right fun _ => ?_
  unfold runSelection
  simp only [run_eq_ok_iff]
  show (∃ rows, (∃ read, (valueQuery (.verbatim expression) selection.filter
    selection.parameters).expand = .ok read ∧ _) ∧ _) ↔ _
  simp only [expand_value_query_eq_ok_iff]
  constructor
  · intro h
    obtain ⟨_, ⟨_, ⟨value, hvalue, condition, hcondition, rfl⟩, sources, hsources, haccepted, rfl⟩,
      rfl⟩ := h
    refine ⟨value, condition, sources, ⟨hvalue, hcondition, hsources, haccepted⟩, ?_⟩
    rw [listed_value_query, hrows]
    rfl
  · intro h
    obtain ⟨value, condition, sources, hprepared, rfl⟩ := h
    refine ⟨_, ⟨_, ⟨value, hprepared.read, condition, hprepared.filter, rfl⟩, sources,
      hprepared.tables, hprepared.accepted, rfl⟩, ?_⟩
    rw [listed_value_query, hrows]
    rfl

/-! ## An earlier sort table -/

/-- If there is a temporary table of the name, it is none that searches read. -/
def SparesSearch (database : Database) (name : String) : Prop :=
  (named? database.temporary name).isSome = true →
    sameName name "cards" = false ∧ sameName name "notes" = false

/-- Cards and notes mean the same tables after the temporary table of another name is gone. -/
theorem SparesSearch.tables_without {name table : String} (h : database.SparesSearch name)
    (htable : sameName table "cards" = true ∨ sameName table "notes" = true) :
    (database.without name).tables table = database.tables table := by
  apply Database.tables_without
  intro hstale
  obtain ⟨hcards, hnotes⟩ := h hstale
  rcases htable with htable | htable
  · rw [same_name_trans htable, same_name_comm]
    exact hcards
  · rw [same_name_trans htable, same_name_comm]
    exact hnotes

/-- A selection reads the same tables after the temporary table of another name is gone. -/
theorem SparesSearch.sources_without {name : String} (h : database.SparesSearch name)
    (selection : Selection) :
    (database.without name).sources selection.sources = database.sources selection.sources := by
  have hcards := h.tables_without (Or.inl (@same_name_self "cards"))
  have hnotes := h.tables_without (Or.inr (@same_name_self "notes"))
  unfold Selection.sources Database.sources
  split <;> simp only [List.mapM_cons, List.mapM_nil, hcards, hnotes]

/-- Sort values are listed alike after the temporary table of another name is gone. -/
theorem SparesSearch.accepted_value_query {name : String} {names : List String}
    (h : database.SparesSearch name) (hcondition : condition.readsOnly names = true)
    (hvalue : ∀ table ∈ value.tables,
      sameName table "cards" = true ∨ sameName table "notes" = true) :
    ((valueQuery value condition parameters).Accepted (database.without name) sources ↔
        (valueQuery value condition parameters).Accepted database sources) ∧
      sortPairs (database.without name) sources value condition parameters =
        sortPairs database sources value condition parameters := by
  -- Only the sort value can hold a subquery, so only its tables could have changed.
  have hnone : condition.tables = [] := Expr.tables_of_reads_only hcondition
  have hagree : ∀ expr ∈ (valueQuery value condition parameters).exprs, ∀ table ∈ expr.tables,
      (database.without name).tables table = database.tables table := by
    refine forall_value_exprs.2 ⟨?_, fun table hmem => h.tables_without (hvalue table hmem), ?_⟩
    · exact fun _ hmem => absurd hmem List.not_mem_nil
    · rw [hnone]
      exact fun _ hmem => absurd hmem List.not_mem_nil
  obtain ⟨-, hvalue, hcondition⟩ := forall_value_exprs.1 hagree
  refine ⟨⟨Query.Accepted.congr hagree, Query.Accepted.congr fun expr hexpr table htable =>
    (hagree expr hexpr table htable).symm⟩, ?_⟩
  unfold sortPairs holds
  simp only [Expr.eval_congr hcondition, Expr.eval_congr hvalue]
  rfl

end CardBrowser.Database
