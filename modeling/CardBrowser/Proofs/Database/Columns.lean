import Mathlib
import CardBrowser.Proofs.Database.SortTable
import CardBrowser.Proofs.Sql.Expr
import CardBrowser.Proofs.Sql.Scope

/-!
# Columns of cards and notes

The columns of a card have different names, and so have those of a note. Where the rows of a frame
have different short names too, a qualified name means one column: `resolve_of_mem`. An expression
whose names all mean something passes the check of its names, as `check_of_columns` says. In a
database without other tables every table has the `schemaColumns`.
-/

namespace CardBrowser.Sql.Expr

/-- The columns that an expression reads under their qualifiers, nested selects aside. -/
def columns : Expr → List (String × String)
  | column (some qualifier) name => [(qualifier, name)]
  | paren inner => inner.columns
  | negate operand => operand.columns
  | not operand => operand.columns
  | binary _ left right => left.columns ++ right.columns
  | inList operand _ => operand.columns
  | like operand pattern => operand.columns ++ pattern.columns
  | glob operand pattern => operand.columns ++ pattern.columns
  | choose condition first second => condition.columns ++ (first.columns ++ second.columns)
  | castReal operand => operand.columns
  | noCase operand => operand.columns
  | call _ argument => argument.columns
  | nullIf first second => first.columns ++ second.columns
  | _ => []

variable {tables : Tables} {expr : Expr} {names : List String} {scope : Scope}

/-- The columns of an expression have the qualifiers that it reads columns by. -/
theorem qualifier_of_mem_columns (h : expr.readsOnly names = true) :
    ∀ column ∈ expr.columns, column.1 ∈ names := by
  induction expr with
  | column qualifier name =>
      cases qualifier with
      | none => cases h
      | some qualifier =>
          rintro column hmem
          obtain rfl := List.mem_singleton.1 hmem
          exact List.contains_iff_mem.1 h
  | binary _ left right hleft hright | like left right hleft hright | glob left right hleft hright
  | nullIf left right hleft hright =>
      obtain ⟨hl, hr⟩ := Bool.and_eq_true_iff.1 h
      exact List.forall_mem_append.2 ⟨hleft hl, hright hr⟩
  | choose condition first second hcondition hfirst hsecond =>
      obtain ⟨hboth, hs⟩ := Bool.and_eq_true_iff.1 h
      obtain ⟨hc, hf⟩ := Bool.and_eq_true_iff.1 hboth
      exact List.forall_mem_append.2
        ⟨hcondition hc, List.forall_mem_append.2 ⟨hfirst hf, hsecond hs⟩⟩
  | paren _ ih | negate _ ih | not _ ih | inList _ _ ih | castReal _ ih | noCase _ ih
  | call _ _ ih => exact ih h
  | _ => exact fun _ hmem => nomatch hmem

/-- Names are resolved if every column is found. -/
theorem check_of_columns (h : expr.readsOnly names = true)
    (hcolumns : ∀ column ∈ expr.columns,
      ∃ value, scope.resolve (some column.1) column.2 = .ok value) :
    expr.check tables scope = .ok () := by
  induction expr with
  | column qualifier name =>
      cases qualifier with
      | none => cases h
      | some qualifier =>
          obtain ⟨value, hvalue⟩ := hcolumns (qualifier, name) List.mem_cons_self
          exact check_of_resolve hvalue
  | binary _ left right hleft hright | like left right hleft hright | glob left right hleft hright
  | nullIf left right hleft hright =>
      obtain ⟨hl, hr⟩ := Bool.and_eq_true_iff.1 h
      obtain ⟨hcl, hcr⟩ := List.forall_mem_append.1 hcolumns
      rw [check, hleft hl hcl, hright hr hcr]
      rfl
  | choose condition first second hcondition hfirst hsecond =>
      obtain ⟨hboth, hs⟩ := Bool.and_eq_true_iff.1 h
      obtain ⟨hc, hf⟩ := Bool.and_eq_true_iff.1 hboth
      obtain ⟨hcc, hothers⟩ := List.forall_mem_append.1 hcolumns
      obtain ⟨hcf, hcs⟩ := List.forall_mem_append.1 hothers
      rw [check, hcondition hc hcc, hfirst hf hcf, hsecond hs hcs]
      rfl
  | paren _ ih | negate _ ih | not _ ih | inList _ _ ih | castReal _ ih | noCase _ ih
  | call _ _ ih => exact ih h hcolumns
  | select => cases h
  | verbatim => cases h
  | _ => rfl

end CardBrowser.Sql.Expr

namespace CardBrowser.Database

open CardBrowser.Sql

variable {row : Row} {name shortName : String} {value : Value}

/-- A row whose columns have different names has the value of each of them. -/
theorem get_of_mem (hnames : (row.map Prod.fst).Pairwise fun a b => sameName a b = false)
    (hmem : (name, value) ∈ row) : row.get? name = some value := by
  induction row with
  | nil => cases hmem
  | cons column row ih =>
      rw [List.map_cons, List.pairwise_cons] at hnames
      unfold Row.get?
      rcases List.mem_cons.1 hmem with rfl | hmem
      · simp [same_name_self]
      · have hother : sameName column.1 name = false :=
          hnames.1 name (List.mem_map.2 ⟨(name, value), hmem, rfl⟩)
        rw [List.find?_cons_of_neg (by simp [hother])]
        exact ih hnames.2 hmem

/-- A qualified name means a column of the one row of that short name. -/
theorem resolve_of_mem {frame : Frame}
    (hframe : (frame.filter fun entry => sameName entry.1 shortName) = [(shortName, row)])
    (hnames : (row.map Prod.fst).Pairwise fun a b => sameName a b = false)
    (hmem : (name, value) ∈ row) : Scope.resolve (some shortName) name [frame] = .ok value := by
  have hcandidates : frame.candidates (some shortName) name =
      (frame.filter fun entry => sameName entry.1 shortName).filterMap
        fun entry => entry.2.get? name := by
    rw [List.filterMap_filter]
    rfl
  have hvalue : frame.candidates (some shortName) name = [value] := by
    simp [hcandidates, hframe, get_of_mem hnames hmem]
  unfold Scope.resolve
  rw [hvalue]

/-- The columns of a card have different names. -/
theorem card_names (card : Card) :
    (card.row.map Prod.fst).Pairwise fun a b => sameName a b = false := by
  show List.Pairwise _ ["id", "nid", "did", "ord", "mod", "type", "queue", "due", "ivl", "factor",
    "reps", "lapses"]
  decide

/-- The columns of a note have different names. -/
theorem note_names (note : StoredNote) :
    (note.row.map Prod.fst).Pairwise fun a b => sameName a b = false := by
  show List.Pairwise _ ["id", "mid", "mod", "tags", "flds", "sfld"]
  decide

end CardBrowser.Database
