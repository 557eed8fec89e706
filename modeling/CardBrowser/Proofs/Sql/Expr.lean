import Mathlib
import CardBrowser.Proofs.Outcome
import CardBrowser.Sql.Eval

/-!
# What an expression depends on

An expression depends on the tables that its nested selects read and on nothing else of the
database: `eval_congr` and `check_congr`. `readsOnly` holds of expressions whose columns are all
qualified by given names, as they are in the conditions of searches: they need no reading and no
table, and of a frame they see the rows of these names only.
-/

namespace CardBrowser.Sql.Expr

variable {tables other : Tables} {expr : Expr}

/-! ## Tables -/

/-- Names are resolved alike where the nested selects find the same tables. -/
theorem check_congr (h : ∀ table ∈ expr.tables, tables table = other table) (scope : Scope) :
    expr.check tables scope = expr.check other scope := by
  induction expr generalizing scope with
  | select aggregate result table shortName condition hresult hcondition =>
      have htable : tables table = other table := h table List.mem_cons_self
      have hinner : ∀ scope, result.check tables scope = result.check other scope ∧
          condition.check tables scope = condition.check other scope := fun scope =>
        ⟨hresult (fun name hmem => h name (by simp [Expr.tables, hmem])) scope,
          hcondition (fun name hmem => h name (by simp [Expr.tables, hmem])) scope⟩
      unfold check
      rw [htable]
      cases other table with
      | none => rfl
      | some source => simp only [(hinner _).1, (hinner _).2]
  | _ => simp_all [check, Expr.tables]

/-- The value is the same where the nested selects find the same tables. -/
theorem eval_congr (h : ∀ table ∈ expr.tables, tables table = other table)
    (parameters : List Value) (scope : Scope) :
    expr.eval tables parameters scope = expr.eval other parameters scope := by
  induction expr generalizing scope with
  | select aggregate result table shortName condition hresult hcondition =>
      have hrows : Tables.rows tables table = Tables.rows other table := by
        unfold Tables.rows
        rw [h table List.mem_cons_self]
      have hresult := hresult fun name hmem => h name (by simp [Expr.tables, hmem])
      have hcondition := hcondition fun name hmem => h name (by simp [Expr.tables, hmem])
      simp only [eval, hrows, hresult, hcondition]
  | _ => simp_all [eval, Expr.tables]

/-! ## Columns -/

/-- Whether an expression reads no columns but those that it qualifies by the given names; such an
expression holds neither verbatim text nor a nested select. -/
def readsOnly (names : List String) : Expr → Bool
  | column (some qualifier) _ => names.contains qualifier
  | column none _ => false
  | verbatim _ => false
  | paren inner => inner.readsOnly names
  | negate operand => operand.readsOnly names
  | not operand => operand.readsOnly names
  | binary _ left right => left.readsOnly names && right.readsOnly names
  | inList operand _ => operand.readsOnly names
  | like operand pattern => operand.readsOnly names && pattern.readsOnly names
  | glob operand pattern => operand.readsOnly names && pattern.readsOnly names
  | choose condition first second =>
    condition.readsOnly names && first.readsOnly names && second.readsOnly names
  | castReal operand => operand.readsOnly names
  | noCase operand => operand.readsOnly names
  | call _ argument => argument.readsOnly names
  | nullIf first second => first.readsOnly names && second.readsOnly names
  | select .. => false
  | _ => true

variable {names : List String}

/-- Reading such an expression leaves it as it is. -/
theorem expand_of_reads_only (h : expr.readsOnly names = true) : expr.expand = .ok expr := by
  induction expr with
  | verbatim sql => simp [readsOnly] at h
  | select => simp [readsOnly] at h
  | _ => simp_all [readsOnly, expand]

/-- Reading such an expression gives nothing but the expression. -/
theorem eq_of_expand (h : expr.readsOnly names = true) {other : Expr}
    (hexpand : expr.expand = .ok other) : other = expr :=
  Except.ok.inj (hexpand.symm.trans (expand_of_reads_only h))

/-- Such an expression reads no table. -/
theorem tables_of_reads_only (h : expr.readsOnly names = true) : expr.tables = [] := by
  induction expr with
  | select => simp [readsOnly] at h
  | _ => simp_all [readsOnly, Expr.tables]

/-- Such an expression has the same value in frames that have the same columns under the names. -/
theorem eval_frame_congr {frame other : Frame} (h : expr.readsOnly names = true)
    (hframe : ∀ qualifier ∈ names, ∀ column,
      frame.candidates (some qualifier) column = other.candidates (some qualifier) column)
    (parameters : List Value) :
    expr.eval tables parameters [frame] = expr.eval tables parameters [other] := by
  induction expr with
  | column qualifier column =>
      cases qualifier with
      | none => simp [readsOnly] at h
      | some qualifier =>
          have hmem : qualifier ∈ names := by simpa [readsOnly] using h
          simp only [eval, Scope.resolve, hframe qualifier hmem column]
  | select => simp [readsOnly] at h
  | _ => simp_all [readsOnly, eval]

end CardBrowser.Sql.Expr
