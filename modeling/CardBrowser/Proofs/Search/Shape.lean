import Mathlib
import CardBrowser.Proofs.Search.Condition
import CardBrowser.Proofs.Search.Grammar
import CardBrowser.Proofs.Sql.Lexing
import CardBrowser.Proofs.Text.Qualifiers

/-!
# The SQL of search texts

The SQL of a search text is put together from a few fixed conditions. What a word contributes is
its `Shape`, which knows of the word whether it is negated, what it asks for, and the numbers of its
ids; texts and tags are not in it. `HasShape` says which shape a word has, and `sql_of_text` that
the SQL is made of the shapes of the words, so that texts and tags leave no trace in it.
-/

namespace CardBrowser.Search

open CardBrowser.Sql CardBrowser.Text

variable {today : Int} {next : Nat} {word other value : List Char} {term : Term} {clause : Clause}

/-- What the SQL shows of a condition beside the number of its placeholder. -/
inductive Kind where
  | text
  | tag
  | notes (ids : List Int)
  | cards (ids : List Int)
  | deck
  | ordinal
  | state (wanted : CardState)
deriving DecidableEq

namespace Kind

/-- The SQL of a condition whose placeholder has the number `k`. -/
def sql (k : Nat) : Kind → String
  | text =>
    "(n.sfld LIKE ?" ++ toString k ++ " ESCAPE '\\' OR n.flds LIKE ?" ++ toString k ++
      " ESCAPE '\\')"
  | tag => "n.tags LIKE ?" ++ toString k ++ " ESCAPE '\\'"
  | notes ids => "c.nid IN (" ++ ", ".intercalate (ids.map toString) ++ ")"
  | cards ids => "c.id IN (" ++ ", ".intercalate (ids.map toString) ++ ")"
  | deck => "c.did = ?" ++ toString k
  | ordinal => "c.ord = ?" ++ toString k
  | state .new => "c.type = 0"
  | state .learn => "c.queue IN (1, 3)"
  | state .review => "c.type = 2"
  | state .suspended => "c.queue = -1"
  | state .due => "(c.queue IN (2, 3) AND c.due <= ?" ++ toString k ++ ")"

/-- Whether a condition has a placeholder. -/
def hasPlaceholder : Kind → Bool
  | text | tag | deck | ordinal | state .due => true
  | _ => false

/-- Whether a condition is about the note. -/
def asksNote : Kind → Bool
  | text | tag => true
  | _ => false

/-- The ids that stand in the SQL of a condition. -/
def ids : Kind → List Int
  | notes ids | cards ids => ids
  | _ => []

end Kind

/-- What the SQL shows of a word beside the number of its placeholder. -/
structure Shape where
  negated : Bool
  kind : Kind
deriving DecidableEq

/-- The SQL of a word whose placeholder has the number `k`. -/
def Shape.sql (k : Nat) (shape : Shape) : String :=
  if shape.negated then "NOT (" ++ shape.kind.sql k ++ ")" else shape.kind.sql k

/-- How many shapes have a placeholder. -/
def placeholderCount (shapes : List Shape) : Nat :=
  shapes.countP (·.kind.hasPlaceholder)

/-- The SQL of the words of a text: each placeholder is numbered by how many words with a
placeholder there are up to it. -/
def shapesSql (shapes : List Shape) : String :=
  if shapes = [] then "1"
  else " AND ".intercalate
    (shapes.mapIdx fun i shape => shape.sql (placeholderCount (shapes.take i) + 1))

/-! ## The shape of a word -/

/-- A word without its dash has no known qualifier. -/
def Unqualified (word : List Char) : Prop :=
  ∀ name ∈ qualifierNames, ∀ value, ¬ HasQualifier name value word

/-- A word without a colon has no qualifier. -/
theorem unqualified_of_no_colon (h : ':' ∉ word) : Unqualified word := by
  rintro name - value ⟨written, rfl, -⟩
  exact h (by simp)

/-- What a word without its dash asks for, texts and tags apart. -/
inductive HasKind (word : List Char) : Kind → Prop
  | text (h : Unqualified word) : HasKind word .text
  | tag {value : List Char} (h : HasQualifier "tag" value word) : HasKind word .tag
  | notes {value : List Char} {ids : List Int} (h : HasQualifier "nid" value word)
      (hids : List.Forall₂ WritesInt64 (value.splitOn ',') ids) : HasKind word (.notes ids)
  | cards {value : List Char} {ids : List Int} (h : HasQualifier "cid" value word)
      (hids : List.Forall₂ WritesInt64 (value.splitOn ',') ids) : HasKind word (.cards ids)
  | deck {value : List Char} (h : HasQualifier "deck" value word) : HasKind word .deck
  | ordinal {value : List Char} (h : HasQualifier "card" value word) : HasKind word .ordinal
  | state {value : List Char} {wanted : CardState} (h : HasQualifier "is" value word)
      (hstate : value.map foldCase = wanted.name.toList) : HasKind word (.state wanted)

/-- What a word has to do with its part of the SQL. -/
def HasShape (word : List Char) (shape : Shape) : Prop :=
  isNegated word = shape.negated ∧ HasKind (undashed word) shape.kind

/-- A word asks for a text or a tag. -/
def AsksNote (word : List Char) : Prop :=
  Unqualified (undashed word) ∨ ∃ value, HasQualifier "tag" value (undashed word)

/-- Two words differ at most in the text or the tag that they ask for. -/
inductive SameButValue (word other : List Char) : Prop
  | text (hnegated : isNegated word = isNegated other) (h : Unqualified (undashed word))
      (hother : Unqualified (undashed other))
  | tag {value otherValue : List Char} (hnegated : isNegated word = isNegated other)
      (h : HasQualifier "tag" value (undashed word))
      (hother : HasQualifier "tag" otherValue (undashed other))
  | same (h : word = other)

/-- The kind of a term. -/
def Term.kind : Term → Kind
  | text _ => .text
  | tag _ => .tag
  | notes ids => .notes ids
  | cards ids => .cards ids
  | deck _ => .deck
  | ordinal _ => .ordinal
  | state wanted => .state wanted

/-- The shape of a clause. -/
def Clause.shape (clause : Clause) : Shape :=
  ⟨clause.negated, clause.term.kind⟩

/-- Numbers are read from the parts that write them. -/
theorem read_numbers_iff {ids : List Int} :
    readNumbers value = .ok ids ↔ List.Forall₂ WritesInt64 (value.splitOn ',') ids := by
  unfold readNumbers
  simp only [Except.map_m_eq_ok_iff, read_number_iff_writes]

/-- The term of a qualifier and its value is of the kind that the qualifier asks for. -/
theorem Qualifier.Reads.has_kind {qualifier : Qualifier} (h : qualifier.Reads value term)
    (hword : HasQualifier qualifier.name value word) : HasKind word term.kind := by
  cases h with
  | tag => exact .tag hword
  | notes hids => exact .notes hword (read_numbers_iff.1 hids)
  | cards hids => exact .cards hword (read_numbers_iff.1 hids)
  | deck => exact .deck hword
  | ordinal => exact .ordinal hword
  | state hname => exact .state hword hname.symm

/-- A word has the shape of the clause that it is read as. -/
theorem has_shape_of_word (h : Clause.ofWord word = .ok clause) : HasShape word clause.shape := by
  rw [of_word_eq] at h
  obtain ⟨term, hterm, rfl⟩ := Except.map_eq_ok_iff.1 h
  refine ⟨rfl, ?_⟩
  show HasKind (undashed word) term.kind
  rcases of_word_cases hterm with ⟨hunqualified, rfl⟩ | ⟨qualifier, value, hword, hreads⟩
  · exact .text hunqualified
  · exact hreads.has_kind hword

/-- A word with another qualifier than `tag` asks for no text and no tag. -/
theorem not_asks_note {qualifier : Qualifier} (h : HasQualifier qualifier.name value word)
    (hother : qualifier ≠ .tag) :
    ¬ (Unqualified word ∨ ∃ tag, HasQualifier "tag" tag word) := by
  rintro (hunqualified | ⟨tag, htag⟩)
  · exact hunqualified _ (name_mem_names qualifier) _ h
  · exact hother (h.unique (show HasQualifier Qualifier.tag.name tag word from htag)).1

/-- A condition is about the note exactly when its word asks for a text or a tag. -/
theorem HasKind.asks_note_iff {kind : Kind} (h : HasKind word kind) :
    kind.asksNote = true ↔ Unqualified word ∨ ∃ tag, HasQualifier "tag" tag word := by
  have hnot : ∀ {qualifier : Qualifier} {value : List Char}, qualifier ≠ .tag →
      HasQualifier qualifier.name value word →
      (false = true ↔ Unqualified word ∨ ∃ tag, HasQualifier "tag" tag word) :=
    fun hother hword => iff_of_false Bool.false_ne_true (not_asks_note hword hother)
  cases h with
  | text h => exact iff_of_true rfl (Or.inl h)
  | tag h => exact iff_of_true rfl (Or.inr ⟨_, h⟩)
  | notes h => exact hnot (show Qualifier.note ≠ .tag by decide) h
  | cards h => exact hnot (show Qualifier.card ≠ .tag by decide) h
  | deck h => exact hnot (show Qualifier.deck ≠ .tag by decide) h
  | ordinal h => exact hnot (show Qualifier.ordinal ≠ .tag by decide) h
  | state h => exact hnot (show Qualifier.state ≠ .tag by decide) h

/-- Words that differ at most in a text or a tag are read as clauses of one shape. -/
theorem SameButValue.shape_eq {otherClause : Clause} (hsame : SameButValue word other)
    (h : Clause.ofWord word = .ok clause) (hother : Clause.ofWord other = .ok otherClause) :
    otherClause.shape = clause.shape := by
  cases hsame with
  | text hnegated hword hotherWord =>
      rw [of_word_eq, of_word_of_unqualified hword] at h
      rw [of_word_eq, of_word_of_unqualified hotherWord] at hother
      cases h
      cases hother
      rw [hnegated]
      rfl
  | tag hnegated hword hotherWord =>
      rw [of_word_eq,
        of_word_of_qualifier (show HasQualifier Qualifier.tag.name _ _ from hword)] at h
      rw [of_word_eq,
        of_word_of_qualifier (show HasQualifier Qualifier.tag.name _ _ from hotherWord)] at hother
      split at h
      · cases h
      · split at hother
        · cases hother
        · cases h
          cases hother
          rw [hnegated]
          rfl
  | same hsame =>
      subst hsame
      rw [Except.ok.inj (hother.symm.trans h)]

/-! ## The SQL of clauses -/

/-- The SQL of the condition of a state. -/
theorem text_state (wanted : CardState) :
    (wanted.condition today next).1.text = (Kind.state wanted).sql next := by
  cases wanted with
  | due =>
      have hbefore : "(c.queue IN (2, 3) AND c.due <= ?" =
          "(" ++ "c.queue IN (2, 3)" ++ " " ++ "AND" ++ " " ++ "c.due" ++ " " ++ "<=" ++ " " ++
            "?" := by decide
      show "(" ++ ("c.queue IN (2, 3)" ++ " " ++ "AND" ++ " " ++
        ("c.due" ++ " " ++ "<=" ++ " " ++ ("?" ++ toString next))) ++ ")" =
          _ ++ toString next ++ ")"
      rw [hbefore]
      simp only [String.append_assoc]
  | _ => rfl

/-- The SQL of the condition of a term. -/
theorem text_term (term : Term) :
    (term.condition today next).1.text = term.kind.sql next := by
  cases term with
  | text value =>
      have hfirst : "(n.sfld LIKE ?" = "(" ++ "n" ++ "." ++ "sfld" ++ " LIKE " ++ "?" := by decide
      have hsecond : " ESCAPE '\\' OR n.flds LIKE ?" = " ESCAPE '\\'" ++ " " ++ "OR" ++ " " ++
        "n" ++ "." ++ "flds" ++ " LIKE " ++ "?" := by decide
      have hlast : " ESCAPE '\\')" = " ESCAPE '\\'" ++ ")" := by decide
      show "(" ++ ("n" ++ "." ++ "sfld" ++ " LIKE " ++ ("?" ++ toString next) ++ " ESCAPE '\\'" ++
        " " ++ "OR" ++ " " ++ ("n" ++ "." ++ "flds" ++ " LIKE " ++ ("?" ++ toString next) ++
          " ESCAPE '\\'")) ++ ")" = _ ++ toString next ++ _ ++ toString next ++ _
      rw [hfirst, hsecond, hlast]
      simp only [String.append_assoc]
  | tag value =>
      have hfirst : "n.tags LIKE ?" = "n" ++ "." ++ "tags" ++ " LIKE " ++ "?" := by decide
      show "n" ++ "." ++ "tags" ++ " LIKE " ++ ("?" ++ toString next) ++ " ESCAPE '\\'" =
        _ ++ toString next ++ _
      rw [hfirst]
      simp only [String.append_assoc]
  | notes ids =>
      have hbefore : "c.nid IN (" = "c" ++ "." ++ "nid" ++ " IN (" := by decide
      show "c" ++ "." ++ "nid" ++ " IN (" ++ _ ++ ")" = _ ++ _ ++ ")"
      rw [hbefore]
  | cards ids =>
      have hbefore : "c.id IN (" = "c" ++ "." ++ "id" ++ " IN (" := by decide
      show "c" ++ "." ++ "id" ++ " IN (" ++ _ ++ ")" = _ ++ _ ++ ")"
      rw [hbefore]
  | deck id =>
      have hbefore : "c.did = ?" = "c" ++ "." ++ "did" ++ " " ++ "=" ++ " " ++ "?" := by decide
      show "c" ++ "." ++ "did" ++ " " ++ "=" ++ " " ++ ("?" ++ toString next) = _ ++ toString next
      rw [hbefore]
      simp only [String.append_assoc]
  | ordinal n =>
      have hbefore : "c.ord = ?" = "c" ++ "." ++ "ord" ++ " " ++ "=" ++ " " ++ "?" := by decide
      show "c" ++ "." ++ "ord" ++ " " ++ "=" ++ " " ++ ("?" ++ toString next) = _ ++ toString next
      rw [hbefore]
      simp only [String.append_assoc]
  | state wanted => exact text_state wanted

/-- The SQL of the condition of a clause. -/
theorem text_clause (clause : Clause) :
    (clause.condition today next).1.text = clause.shape.sql next := by
  have hterm : (clause.term.condition today next).1.text = clause.term.kind.sql next :=
    text_term clause.term
  unfold Clause.condition Shape.sql Clause.shape
  dsimp only
  split
  · have hbefore : "NOT (" = "NOT " ++ "(" := by decide
    show "NOT " ++ ("(" ++ (clause.term.condition today next).1.text ++ ")") = _
    rw [hterm, hbefore]
    simp only [String.append_assoc]
  · exact hterm

/-- A clause has a value exactly when its condition has a placeholder. -/
theorem length_parameters (clause : Clause) :
    (clause.condition today next).2.length =
      if clause.shape.kind.hasPlaceholder then 1 else 0 := by
  obtain ⟨negated, term⟩ := clause
  cases term with
  | state wanted => cases wanted <;> rfl
  | _ => rfl

/-- The conditions of clauses are numbered in the order of their placeholders. -/
theorem texts_conditions (clauses : List Clause) :
    (conditions today next clauses).1.map Expr.text =
        (clauses.map Clause.shape).mapIdx
          (fun i shape => shape.sql (placeholderCount ((clauses.map Clause.shape).take i) + next)) ∧
      (conditions today next clauses).2.length = placeholderCount (clauses.map Clause.shape) := by
  induction clauses generalizing next with
  | nil => exact ⟨rfl, rfl⟩
  | cons clause clauses ih =>
      obtain ⟨htexts, hlength⟩ := @ih (next + (clause.condition today next).2.length)
      rw [length_parameters] at htexts hlength
      have hlater : ∀ i,
          placeholderCount ((clause.shape :: clauses.map Clause.shape).take (i + 1)) + next =
            placeholderCount ((clauses.map Clause.shape).take i) +
              (next + if clause.shape.kind.hasPlaceholder then 1 else 0) := by
        intro i
        rw [List.take_succ_cons]
        simp only [placeholderCount, List.countP_cons]
        omega
      have hfirst : placeholderCount ((clause.shape :: clauses.map Clause.shape).take 0) + next =
          next := Nat.zero_add next
      rw [conditions_cons, length_parameters]
      constructor
      · simp only [List.map_cons, List.mapIdx_cons, htexts, text_clause, hlater, hfirst]
      · rw [List.length_append, hlength, length_parameters]
        simp only [placeholderCount, List.map_cons, List.countP_cons]
        omega

/-- The SQL of a conjunction joins the conditions. -/
theorem text_conjunction (conditions : List Expr) :
    (conjunction conditions).text =
      if conditions = [] then "1" else " AND ".intercalate (conditions.map Expr.text) := by
  have hand : " AND " = " " ++ "AND" ++ " " := by decide
  have hjoin : ∀ (left right : String) (others : List String),
      " AND ".intercalate ((left ++ " AND " ++ right) :: others) =
        " AND ".intercalate (left :: right :: others) := by
    intro left right others
    cases others with
    | nil => rw [String.intercalate_cons_cons, String.intercalate_singleton,
        String.intercalate_singleton]
    | cons other others => simp only [String.intercalate_cons_cons, String.append_assoc]
  -- The conjunction is built from the left, so what is built so far is generalized.
  have key : ∀ (others : List Expr) (first : Expr),
      (others.foldl (.binary .and) first).text =
        " AND ".intercalate (first.text :: others.map Expr.text) := by
    intro others
    induction others with
    | nil => exact fun first => String.intercalate_singleton.symm
    | cons other others ih =>
        intro first
        rw [List.foldl_cons, ih, List.map_cons, ← hjoin]
        show " AND ".intercalate ((first.text ++ " " ++ "AND" ++ " " ++ other.text) :: _) = _
        rw [hand]
        simp only [String.append_assoc]
  cases conditions with
  | nil => rfl
  | cons first others => exact key others first

/-- The SQL of clauses is made of their shapes. -/
theorem sql_of_clauses (clauses : List Clause) :
    (Predicate.ofClauses today clauses).sql = shapesSql (clauses.map Clause.shape) ∧
      (Predicate.ofClauses today clauses).parameters.length =
        placeholderCount (clauses.map Clause.shape) := by
  obtain ⟨htexts, hlength⟩ := @texts_conditions today 1 clauses
  refine ⟨?_, hlength⟩
  show (conjunction (conditions today 1 clauses).1).text = _
  rw [text_conjunction, htexts]
  unfold shapesSql
  cases clauses <;> rfl

/-! ## The short name of the note -/

/-- The text of a natural number has no dot. -/
theorem dot_not_mem_natural (n : Nat) : '.' ∉ (toString n).toList := by
  intro hmem
  rw [Nat.toString_eq_repr, Nat.toList_repr] at hmem
  exact absurd (Text.digits_of_natural n '.' hmem) (by decide)

/-- The text of an integer has no dot. -/
theorem dot_not_mem_integer (n : Int) : '.' ∉ (toString n).toList := by
  rw [Int.toString_eq_repr, Int.repr_eq_if]
  split_ifs
  · exact dot_not_mem_natural _
  · rw [String.toList_append, List.mem_append]
    rintro (hmem | hmem)
    · exact absurd hmem (by decide)
    · exact dot_not_mem_natural _ hmem

/-- The text of a list of integers has no dot. -/
theorem dot_not_mem_integers (ids : List Int) :
    '.' ∉ (", ".intercalate (ids.map toString)).toList := by
  induction ids with
  | nil => exact List.not_mem_nil
  | cons id ids ih =>
      cases ids with
      | nil =>
          rw [List.map_singleton, String.intercalate_singleton]
          exact dot_not_mem_integer id
      | cons other ids =>
          rw [List.map_cons, List.map_cons, String.intercalate_cons_cons, ← List.map_cons]
          simp only [String.toList_append, List.mem_append, not_or]
          exact ⟨⟨dot_not_mem_integer id, by decide⟩, ih⟩

/-- A parenthesis at the end is no dot. -/
theorem dot_not_mem_closed {text : String} (h : '.' ∉ text.toList) :
    '.' ∉ (text ++ ")").toList := by
  rw [String.toList_append, List.mem_append, not_or]
  exact ⟨h, by decide⟩

/-- A condition does not mention the note if it begins with what does not and has no dot after
that. -/
theorem not_mentions_note_append (before after : String)
    (hlast : (before.toList.getLast?.all fun c => isNamePart c || c == '.') = false)
    (hbefore : mentionsAlias before "n" = false) (hafter : '.' ∉ after.toList) :
    mentionsAlias (before ++ after) "n" = false := by
  rw [mentions_alias_append_of_no_dot hlast hafter, hbefore]

/-- A condition mentions the note exactly when it is about it. -/
theorem mentions_kind (kind : Kind) (k : Nat) :
    mentionsAlias (kind.sql k) "n" = kind.asksNote := by
  -- What follows the first dot of a condition on the card has no dot.
  cases kind with
  | text =>
      iterate 4 apply mentions_alias_append_left
      decide
  | tag =>
      iterate 2 apply mentions_alias_append_left
      decide
  | notes ids =>
      show mentionsAlias ("c.nid IN (" ++ _ ++ ")") "n" = false
      rw [String.append_assoc]
      refine not_mentions_note_append _ _ (by decide) (by decide) ?_
      exact dot_not_mem_closed (dot_not_mem_integers ids)
  | cards ids =>
      show mentionsAlias ("c.id IN (" ++ _ ++ ")") "n" = false
      rw [String.append_assoc]
      refine not_mentions_note_append _ _ (by decide) (by decide) ?_
      exact dot_not_mem_closed (dot_not_mem_integers ids)
  | deck => exact not_mentions_note_append _ _ (by decide) (by decide) (dot_not_mem_natural k)
  | ordinal => exact not_mentions_note_append _ _ (by decide) (by decide) (dot_not_mem_natural k)
  | state wanted =>
      cases wanted with
      | due =>
          show mentionsAlias ("(c.queue IN (2, 3) AND c.due <= ?" ++ toString k ++ ")") "n" = false
          rw [String.append_assoc]
          refine not_mentions_note_append _ _ (by decide) (by decide) ?_
          exact dot_not_mem_closed (dot_not_mem_natural k)
      | new =>
          show mentionsAlias "c.type = 0" "n" = false
          decide
      | learn =>
          show mentionsAlias "c.queue IN (1, 3)" "n" = false
          decide
      | review =>
          show mentionsAlias "c.type = 2" "n" = false
          decide
      | suspended =>
          show mentionsAlias "c.queue = -1" "n" = false
          decide

/-- The SQL of a word mentions the note exactly when its condition is about it. -/
theorem mentions_shape (shape : Shape) (k : Nat) :
    mentionsAlias (shape.sql k) "n" = shape.kind.asksNote := by
  unfold Shape.sql
  split
  · rw [mentions_alias_not_paren, mentions_kind]
  · exact mentions_kind shape.kind k

/-- The SQL of a text mentions the note exactly when a condition is about it. -/
theorem mentions_shapes_sql (shapes : List Shape) :
    mentionsAlias (shapesSql shapes) "n" = true ↔ ∃ shape ∈ shapes, shape.kind.asksNote = true := by
  unfold shapesSql
  split
  · rename_i hempty
    subst hempty
    exact iff_of_false (by decide) (by simp)
  · rename_i hnonempty
    rw [mentions_alias_intercalate (by simpa using hnonempty)]
    simp only [List.mem_mapIdx]
    constructor
    · rintro ⟨_, ⟨i, hi, rfl⟩, hmentions⟩
      rw [mentions_shape] at hmentions
      exact ⟨shapes[i], List.getElem_mem hi, hmentions⟩
    · rintro ⟨shape, hmem, hasks⟩
      obtain ⟨i, hi, rfl⟩ := List.getElem_of_mem hmem
      exact ⟨_, ⟨i, hi, rfl⟩, by rw [mentions_shape, hasks]⟩

/-! ## Texts -/

/-- A text that is read has one clause for each word, and its SQL is made of their shapes. -/
theorem clauses_of_text {text : String} {predicate : Predicate}
    (h : Predicate.ofText today text = .ok predicate) :
    ∃ found, List.Forall₂ (fun word clause => Clause.ofWord word = .ok clause)
        (words text.toList) found ∧
      predicate = Predicate.ofClauses today found := by
  obtain ⟨found, hfound, hpredicate⟩ := of_text_eq_ok_iff.1 h
  exact ⟨found, Except.map_m_eq_ok_iff.1 (clauses_eq_ok_iff.1 hfound).2, hpredicate⟩

/-- The ids in the shape of a word that is read fit in 64 bits. -/
theorem is_int64_of_mem_ids (h : Clause.ofWord word = .ok clause) :
    ∀ id ∈ clause.shape.kind.ids, isInt64 id = true := by
  rw [of_word_eq] at h
  obtain ⟨term, hterm, rfl⟩ := Except.map_eq_ok_iff.1 h
  have hfits : term.Fits := fits_of_word hterm
  show ∀ id ∈ term.kind.ids, isInt64 id = true
  cases term with
  | notes ids => exact hfits
  | cards ids => exact hfits
  | _ => exact fun id hmem => absurd hmem List.not_mem_nil

/-- The words of a text and their shapes: the text asks for the note exactly when a shape does. -/
theorem asks_note_iff_of_shapes {words : List (List Char)} {shapes : List Shape}
    (h : List.Forall₂ HasShape words shapes) :
    (∃ shape ∈ shapes, shape.kind.asksNote = true) ↔ ∃ word ∈ words, AsksNote word := by
  induction h with
  | nil => simp
  | cons hshape _ ih =>
      rw [List.exists_mem_cons_iff, List.exists_mem_cons_iff, ih]
      exact or_congr_left hshape.2.asks_note_iff

/-- Words that differ at most in their texts and tags are read as clauses of the same shapes. -/
theorem shapes_eq_of_same {words others : List (List Char)} {found otherFound : List Clause}
    (h : List.Forall₂ (fun word clause => Clause.ofWord word = .ok clause) words found)
    (hother : List.Forall₂ (fun word clause => Clause.ofWord word = .ok clause) others otherFound)
    (hsame : List.Forall₂ SameButValue words others) :
    otherFound.map Clause.shape = found.map Clause.shape := by
  induction hsame generalizing found otherFound with
  | nil =>
      cases h
      cases hother
      rfl
  | cons hword _ ih =>
      cases h with
      | cons hclause hclauses =>
        cases hother with
        | cons hotherClause hotherClauses =>
          rw [List.map_cons, List.map_cons, hword.shape_eq hclause hotherClause,
            ih hclauses hotherClauses]

/-- The SQL of a text that is read is made of the shapes of its words: it has as many values as
placeholders, its ids fit in 64 bits, and it mentions the note exactly when a word asks for a text
or a tag. Texts whose words differ at most in their texts and tags have the same SQL. -/
theorem sql_of_text (today : Int) (text : String) (predicate : Predicate)
    (h : Predicate.ofText today text = .ok predicate) :
    (∃ shapes, List.Forall₂ HasShape (words text.toList) shapes ∧
      predicate.sql = shapesSql shapes ∧
      predicate.parameters.length = placeholderCount shapes ∧
      ∀ shape ∈ shapes, ∀ id ∈ shape.kind.ids, isInt64 id = true) ∧
    (predicate.mentions "n" = true ↔ ∃ word ∈ words text.toList, AsksNote word) ∧
    ∀ otherDay otherText otherPredicate,
      Predicate.ofText otherDay otherText = .ok otherPredicate →
      List.Forall₂ SameButValue (words text.toList) (words otherText.toList) →
        otherPredicate.sql = predicate.sql := by
  obtain ⟨found, hfound, rfl⟩ := clauses_of_text h
  obtain ⟨hsql, hlength⟩ := @sql_of_clauses today found
  have hshapes : List.Forall₂ HasShape (words text.toList) (found.map Clause.shape) :=
    List.forall₂_map_right_iff.2 (hfound.imp fun _ _ => has_shape_of_word)
  refine ⟨⟨found.map Clause.shape, hshapes, hsql, hlength, ?_⟩, ?_, ?_⟩
  · intro shape hmem
    obtain ⟨clause, hclause, rfl⟩ := List.mem_map.1 hmem
    have hfits := List.forall₂_and_left _ _ |>.1 <| hfound.flip.imp fun _ _ hword =>
      And.intro (is_int64_of_mem_ids hword) hword
    exact hfits.1 clause hclause
  · unfold Predicate.mentions
    rw [hsql, mentions_shapes_sql, asks_note_iff_of_shapes hshapes]
  · intro otherDay otherText otherPredicate hother hsame
    obtain ⟨otherFound, hotherFound, rfl⟩ := clauses_of_text hother
    rw [(sql_of_clauses otherFound).1, hsql, shapes_eq_of_same hfound hotherFound hsame]

/-- Quotes, question marks and whole conditions that a text asks for leave no trace in its SQL. -/
theorem sql_of_text_quoted : ∃ predicate other,
    Predicate.ofText 0 "it's? -TAG:\"a:b' OR 1=1\" nid:+7" = .ok predicate ∧
    Predicate.ofText 1 "?2 -tag:x nid:+7" = .ok other ∧
    other.sql = predicate.sql ∧ predicate.mentions "n" = true := by
  have hread : ∃ predicate,
      Predicate.ofText 0 "it's? -TAG:\"a:b' OR 1=1\" nid:+7" = .ok predicate :=
    Except.eq_ok_of_is_some (by decide)
  have hother : ∃ other, Predicate.ofText 1 "?2 -tag:x nid:+7" = .ok other :=
    Except.eq_ok_of_is_some (by decide)
  obtain ⟨predicate, hpredicate⟩ := hread
  obtain ⟨other, hotherPredicate⟩ := hother
  obtain ⟨-, hmentions, hsame⟩ := sql_of_text 0 _ predicate hpredicate
  have hwords : words "it's? -TAG:\"a:b' OR 1=1\" nid:+7".toList =
      ["it's?".toList, "-TAG:a:b' OR 1=1".toList, "nid:+7".toList] := by decide
  have hotherWords : words "?2 -tag:x nid:+7".toList =
      ["?2".toList, "-tag:x".toList, "nid:+7".toList] := by decide
  have htext : Unqualified (undashed "it's?".toList) := unqualified_of_no_colon (by decide)
  have htag : HasQualifier "tag" "a:b' OR 1=1".toList (undashed "-TAG:a:b' OR 1=1".toList) :=
    ⟨"TAG".toList, by decide, by decide⟩
  have hotherTag : HasQualifier "tag" "x".toList (undashed "-tag:x".toList) :=
    ⟨"tag".toList, by decide, by decide⟩
  refine ⟨predicate, other, hpredicate, hotherPredicate, hsame 1 _ other hotherPredicate ?_, ?_⟩
  · rw [hwords, hotherWords]
    exact .cons (.text (by decide) htext (unqualified_of_no_colon (by decide)))
      (.cons (.tag (by decide) htag hotherTag)
        (.cons (.same rfl) .nil))
  · exact hmentions.2 ⟨_, by rw [hwords]; exact List.mem_cons_self, Or.inl htext⟩

end CardBrowser.Search
