import Mathlib
import CardBrowser.Proofs.Session.Offer

/-!
# Taking columns away in place

`Offer.hide` gives no columns at all where there is nothing to hide. Here the lists are changed in
place, one after the other, and whether anything was there is known afterwards: `Offer.discard`.
`Offer.discard_eq` says that it comes to the same, so that a column that is not there leaves the
lists as they are. `Shelves` are the two lists of built-in columns, those on offer and those that
were hidden, and `Offer.shelves_hide` says what hiding does to them.
-/

namespace CardBrowser

namespace Registry

variable {registry next : Registry} {column : CustomColumn} {type : String}

/-- Takes the column of a type away and tells whether there was one. -/
def discard (registry : Registry) (type : String) : Bool × Registry :=
  (registry.contains type, ⟨registry.columns.filter (·.type != type)⟩)

/-- Taking a column away that is not registered changes nothing. -/
theorem discard_of_error {error : RegistryError} (h : registry.unregister type = .error error) :
    registry.discard type = (false, registry) ∧ error = .notFound type := by
  unfold unregister at h
  split at h
  · rename_i hlookup
    cases h
    have hnot : type ∉ registry.types := lookup_eq_none_iff.1 hlookup
    refine ⟨Prod.ext ?_ ?_, rfl⟩
    · exact Bool.eq_false_iff.2 fun hcontains => hnot (contains_iff.1 hcontains)
    · show Registry.mk (registry.columns.filter (·.type != type)) = registry
      rw [filter_eq_self hnot]
  · cases h

/-- Taking a registered column away unregisters it. -/
theorem discard_of_ok (h : registry.unregister type = .ok (column, next)) :
    registry.discard type = (true, next) := by
  have hmem : type ∈ registry.types := unregister_ok_iff.1 ⟨_, h⟩
  unfold unregister at h
  split at h
  · cases h
  · cases h
    exact Prod.ext (contains_iff.2 hmem) rfl

end Registry

namespace BuiltinColumns

variable {builtins : BuiltinColumns} {type : String}

/-- Takes the first column of a type away and tells which one it was. -/
def discard (builtins : BuiltinColumns) (type : String) : Option BuiltinColumn × BuiltinColumns :=
  (builtins.get? type, ⟨builtins.columns.eraseP (·.type == type)⟩)

/-- Taking a column away takes it out of the list, or changes nothing if it is not there. -/
theorem discard_eq (builtins : BuiltinColumns) (type : String) :
    builtins.discard type =
      ((builtins.remove type).map Prod.fst,
        ((builtins.remove type).map Prod.snd).getD builtins) := by
  unfold discard remove
  cases hget : builtins.get? type with
  | some column => rfl
  | none =>
      have hkeep : builtins.columns.eraseP (·.type == type) = builtins.columns :=
        List.eraseP_of_forall_not (by simpa [get?] using hget)
      rw [hkeep]
      rfl

/-- What is taken away and what is left are all the columns. -/
theorem perm_discard (builtins : BuiltinColumns) (type : String) :
    ((builtins.discard type).2.columns ++ (builtins.discard type).1.toList).Perm
      builtins.columns := by
  show (builtins.columns.eraseP (·.type == type) ++
    (builtins.columns.find? (·.type == type)).toList).Perm builtins.columns
  induction builtins.columns with
  | nil => exact .nil
  | cons first columns ih =>
      by_cases hfirst : first.type = type
      · rw [List.eraseP_cons_of_pos (by simpa using hfirst),
          List.find?_cons_of_pos (by simpa using hfirst)]
        exact List.perm_append_singleton first columns
      · rw [List.eraseP_cons_of_neg (by simpa using hfirst),
          List.find?_cons_of_neg (by simpa using hfirst)]
        exact ih.cons first

/-- Where types are distinct, taking away the first column of a type takes away all of them. -/
theorem discard_eq_filter (h : builtins.types.Nodup) :
    (builtins.discard type).2.columns = builtins.columns.filter (·.type != type) := by
  unfold types at h
  show builtins.columns.eraseP (·.type == type) = _
  generalize builtins.columns = columns at h ⊢
  induction columns with
  | nil => rfl
  | cons first columns ih =>
      rw [List.map_cons, List.nodup_cons] at h
      by_cases hfirst : first.type = type
      · have hkeep : columns.filter (·.type != type) = columns := by
          rw [List.filter_eq_self]
          intro other hmem
          rw [bne_iff_ne]
          rintro heq
          exact h.1 (hfirst ▸ heq ▸ List.mem_map_of_mem hmem)
        rw [List.eraseP_cons_of_pos (by simpa using hfirst),
          List.filter_cons_of_neg (by simpa using hfirst), hkeep]
      · rw [List.eraseP_cons_of_neg (by simpa using hfirst),
          List.filter_cons_of_pos (by simpa using hfirst), ih h.2]

end BuiltinColumns

namespace Offer

/-- Takes the custom and the built-in column of a type away and tells whether there was either. -/
def discard (offer : Offer) (type : String) : Bool × Offer :=
  let (custom, registry) := offer.registry.discard type
  let (builtin, builtins) := offer.builtins.discard type
  (custom || builtin.isSome, ⟨registry, builtins, offer.removed ++ builtin.toList⟩)

/-- Taking columns away hides them, or changes nothing if there are none. -/
theorem discard_eq (offer : Offer) (type : String) :
    offer.discard type = ((offer.hide type).isSome, (offer.hide type).getD offer) := by
  unfold discard
  rw [BuiltinColumns.discard_eq]
  unfold hide
  cases hregistry : offer.registry.unregister type with
  | error error =>
      rw [(Registry.discard_of_error hregistry).1]
      cases offer.builtins.remove type with
      | none => simp [Except.toOption]
      | some removed => simp [Except.toOption]
  | ok removed =>
      rw [Registry.discard_of_ok hregistry]
      simp [Except.toOption]

end Offer

/-! ## Built-in columns on offer and hidden -/

/-- The built-in columns on offer and the hidden ones, the earliest hidden first. -/
structure Shelves where
  offered : BuiltinColumns
  hidden : List BuiltinColumn

namespace Shelves

variable {shelves : Shelves} {type other : String}

/-- All columns, hidden or not. -/
def columns (shelves : Shelves) : List BuiltinColumn :=
  shelves.offered.columns ++ shelves.hidden

/-- Hides the first column of a type, if there is one. -/
def hide (shelves : Shelves) (type : String) : Shelves :=
  let (column, rest) := shelves.offered.discard type
  ⟨rest, shelves.hidden ++ column.toList⟩

/-- Hiding a column brings no other one on offer. -/
theorem mem_of_mem_hide (h : other ∈ (shelves.hide type).offered.types) :
    other ∈ shelves.offered.types := by
  obtain ⟨column, hcolumn, rfl⟩ := List.mem_map.1 h
  exact List.mem_map_of_mem (List.mem_of_mem_eraseP hcolumn)

end Shelves

namespace Offer

/-- The built-in columns on offer and the hidden ones. -/
def shelves (offer : Offer) : Shelves :=
  ⟨offer.builtins, offer.removed⟩

/-- Hiding a column hides the built-in column of its type, or changes nothing if it is not there. -/
theorem shelves_hide (offer : Offer) (type : String) :
    ((offer.hide type).getD offer).shelves = offer.shelves.hide type := by
  have hdiscard : (offer.discard type).2 = (offer.hide type).getD offer :=
    congrArg Prod.snd (discard_eq offer type)
  rw [← hdiscard]
  rfl

end Offer

end CardBrowser
