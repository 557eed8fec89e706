import Mathlib
import CardBrowser.Column.Index
import CardBrowser.Proofs.Column.SortKey

/-!
# A registry after many calls

What a registry holds after a sequence of calls can be read off the calls. `RegisteredAt` finds the
registrations of a type since its last removal: a type is registered if there is one
(`mem_types_run_iff`), and the types stand in the order of the first ones (`types_run_pairwise`).
`IsLatest` finds the last word about a type, which is what a look-up gives
(`lookup_run_eq_some_iff`).
-/

namespace CardBrowser.Registry

/-! ## Positions among the calls -/

/-- The type that a call is about. -/
def Call.type : Call → String
  | .register column => column.type
  | .unregister type => type

/-- The call registers a column of the type and is not refused. -/
def Call.Registers (type : String) (call : Call) : Prop :=
  ∃ column, call = .register column ∧ column.type = type ∧ type ≠ ""

/-- The call at the position has made something, and no later call has ended it. -/
def Since (made ended : Call → Prop) (calls : List Call) (n : Nat) : Prop :=
  (∃ call ∈ calls[n]?, made call) ∧ ∀ later ∈ calls.drop (n + 1), ¬ ended later

/-- The call at the position is one of the registrations of the type since its last removal. -/
def RegisteredAt (type : String) : List Call → Nat → Prop :=
  Since (Call.Registers type) (· = .unregister type)

/-- The call at the position is the first registration of the type since its last removal. -/
def FirstRegisteredAt (type : String) (calls : List Call) (n : Nat) : Prop :=
  RegisteredAt type calls n ∧ ∀ m < n, ¬ RegisteredAt type calls m

/-- Since their last removals the first type was registered before the second one. -/
def RegisteredBefore (calls : List Call) (first second : String) : Prop :=
  ∃ m n, m < n ∧ FirstRegisteredAt first calls m ∧ FirstRegisteredAt second calls n

/-- The column was registered, and no later call is about its type. -/
def IsLatest (column : CustomColumn) (calls : List Call) : Prop :=
  ∃ n, Since (fun call => call = .register column ∧ column.type ≠ "") (·.type = column.type) calls n

variable {calls : List Call} {call : Call} {type other : String} {column : CustomColumn} {n : Nat}
  {registry : Registry}

/-- One more call ends something, or it makes it itself. -/
theorem since_append_iff {made ended : Call → Prop} :
    Since made ended (calls ++ [call]) n ↔
      Since made ended calls n ∧ ¬ ended call ∨ n = calls.length ∧ made call := by
  unfold Since
  rcases lt_trichotomy n calls.length with hlt | rfl | hgt
  · rw [List.getElem?_append_left hlt, List.drop_append_of_le_length (by omega),
      List.forall_mem_append, List.forall_mem_singleton, and_assoc]
    simp [hlt.ne]
  · simp
  · have hnone : (calls ++ [call])[n]? = none := List.getElem?_eq_none (by simp; omega)
    have hbefore : calls[n]? = none := List.getElem?_eq_none (by omega)
    simp [hnone, hbefore, hgt.ne']

/-- A position is one of a call. -/
theorem Since.lt_length {made ended : Call → Prop} (h : Since made ended calls n) :
    n < calls.length := by
  obtain ⟨call, hcall, -⟩ := h.1
  exact (List.getElem?_eq_some_iff.1 hcall).1

/-- If a type has been registered since its last removal, one registration is the first. -/
theorem exists_first_registered_at :
    (∃ n, FirstRegisteredAt type calls n) ↔ ∃ n, RegisteredAt type calls n := by
  classical
  constructor
  · rintro ⟨n, h⟩
    exact ⟨n, h.1⟩
  · intro h
    exact ⟨Nat.find h, Nat.find_spec h, fun m hm => Nat.find_min h hm⟩

/-- One more call leaves the first registration where it is, unless it removes the type. -/
theorem FirstRegisteredAt.append (h : FirstRegisteredAt type calls n)
    (hcall : call ≠ .unregister type) : FirstRegisteredAt type (calls ++ [call]) n := by
  refine ⟨since_append_iff.2 (Or.inl ⟨h.1, hcall⟩), fun m hm hmade => ?_⟩
  rcases since_append_iff.1 hmade with ⟨hbefore, -⟩ | ⟨rfl, -⟩
  · exact h.2 m hm hbefore
  · exact hm.not_gt h.1.lt_length

/-- Types that are not removed stay in their order. -/
theorem RegisteredBefore.append (h : RegisteredBefore calls type other)
    (htype : call ≠ .unregister type) (hother : call ≠ .unregister other) :
    RegisteredBefore (calls ++ [call]) type other := by
  obtain ⟨m, n, hlt, hm, hn⟩ := h
  exact ⟨m, n, hlt, hm.append htype, hn.append hother⟩

/-- A registration is the first one if there is none before it since the last removal. -/
theorem first_registered_at_append (h : ∀ m, ¬ RegisteredAt type calls m)
    (hcall : call.Registers type) : FirstRegisteredAt type (calls ++ [call]) calls.length := by
  refine ⟨since_append_iff.2 (Or.inr ⟨rfl, hcall⟩), fun m hm hmade => ?_⟩
  rcases since_append_iff.1 hmade with ⟨hbefore, -⟩ | ⟨rfl, -⟩
  · exact h m hbefore
  · exact hm.false

/-! ## One call -/

/-- A call that does not fail gives the registry after it. -/
theorem step_of_answer {next : Registry} (h : registry.answer call = .ok (column, next)) :
    registry.step call = next := by
  rw [step, h]
  rfl

/-- A registration puts the column into the list, unless it has no type. -/
theorem step_register :
    registry.step (.register column) =
      if column.type = "" then registry else ⟨put column registry.columns⟩ := by
  simp only [step, answer, register]
  split <;> rfl

/-- A removal takes the type out of the list; where nothing is found there is nothing to take. -/
theorem step_unregister :
    registry.step (.unregister type) = ⟨registry.columns.filter (·.type != type)⟩ := by
  simp only [step, answer, unregister]
  cases hlookup : registry.lookup type with
  | some column => rfl
  | none =>
      rw [filter_eq_self (lookup_eq_none_iff.1 hlookup)]
      rfl

/-- A removal keeps a registry fixed. -/
theorem IsFixed.step_unregister (h : registry.IsFixed) (type : String) :
    (registry.step (.unregister type)).IsFixed := by
  rw [Registry.step_unregister]
  exact fun member hmem => h member (List.mem_of_mem_filter hmem)

/-- The types after a registration. -/
theorem types_step_register :
    (registry.step (.register column)).types =
      if column.type = "" ∨ column.type ∈ registry.types then registry.types
      else registry.types ++ [column.type] := by
  rw [step_register]
  by_cases hempty : column.type = ""
  · rw [if_pos hempty, if_pos (Or.inl hempty)]
  · rw [if_neg hempty]
    simp only [hempty, false_or]
    exact types_put registry.columns

/-- The types after a removal. -/
theorem types_step_unregister :
    (registry.step (.unregister type)).types = registry.types.filter (· != type) := by
  rw [step_unregister, types, types, List.filter_map]
  rfl

/-- A type is registered after a call if it was before and is not removed, or if the call registers
it. -/
theorem mem_types_step :
    other ∈ (registry.step call).types ↔
      other ∈ registry.types ∧ call ≠ .unregister other ∨ call.Registers other := by
  cases call with
  | register column =>
      have hregisters : (Call.register column).Registers other ↔
          column.type = other ∧ other ≠ "" := by
        simp [Call.Registers]
      rw [types_step_register, hregisters]
      by_cases heq : column.type = other
      · subst heq
        by_cases hempty : column.type = ""
        · simp [hempty]
        · by_cases hmem : column.type ∈ registry.types <;> simp [hempty, hmem]
      · have hne : ¬ other = column.type := fun h => heq h.symm
        split <;> simp [heq, hne]
  | unregister type =>
      rw [types_step_unregister, List.mem_filter, bne_iff_ne]
      have hregisters : ¬ (Call.unregister type).Registers other := by
        rintro ⟨column, hcall, -⟩
        cases hcall
      simp [hregisters, eq_comm]

/-- No call registers a type twice. -/
theorem nodup_types_step (h : registry.types.Nodup) : (registry.step call).types.Nodup := by
  cases call with
  | register column =>
      rw [types_step_register]
      split
      · exact h
      · rename_i hnew
        exact List.concat_eq_append ▸ h.concat fun hmem => hnew (Or.inr hmem)
  | unregister type =>
      rw [types_step_unregister]
      exact h.filter _

/-- What is found after a registration. -/
theorem lookup_step_register :
    (registry.step (.register column)).lookup other =
      if column.type = other ∧ other ≠ "" then some column else registry.lookup other := by
  rw [step_register]
  by_cases hempty : column.type = ""
  · rw [if_pos hempty, if_neg fun h => h.2 (h.1 ▸ hempty)]
  · rw [if_neg hempty]
    refine (find_put registry.columns).trans (if_congr ?_ rfl rfl)
    exact (and_iff_left_of_imp fun h => h ▸ hempty).symm

/-- What is found after a removal. -/
theorem lookup_step_unregister :
    (registry.step (.unregister type)).lookup other =
      if type = other then none else registry.lookup other := by
  rw [step_unregister]
  split
  · rename_i heq
    rw [lookup_eq_none_iff, heq, types, List.mem_map]
    rintro ⟨column, hcolumn, htype⟩
    simp [htype] at hcolumn
  · rename_i hne
    refine (List.find?_filter ..).trans (List.find?_congr fun column _ => ?_)
    by_cases heq : column.type = other
    · simp [heq, Ne.symm hne]
    · simp [heq]

/-- A column is found after a call if it was before and the call is about another type, or if it has
just been registered. -/
theorem lookup_step_eq_some_iff (h : "" ∉ registry.types) :
    (registry.step call).lookup column.type = some column ↔
      registry.lookup column.type = some column ∧ call.type ≠ column.type ∨
        call = .register column ∧ column.type ≠ "" := by
  have hnone : registry.lookup "" = none := lookup_eq_none_iff.2 h
  cases call with
  | register new =>
      rw [lookup_step_register, Call.register.injEq]
      by_cases hempty : column.type = ""
      · simp [hempty, hnone]
      · by_cases heq : new.type = column.type
        · simp [Call.type, heq, hempty]
        · have hnew : new ≠ column := fun h => heq (congrArg _ h)
          simp [Call.type, heq, hnew]
  | unregister type =>
      rw [lookup_step_unregister]
      by_cases heq : type = column.type <;> simp [Call.type, heq]

/-! ## All calls -/

/-- The last call comes after the others. -/
theorem run_append : registry.run (calls ++ [call]) = (registry.run calls).step call := by
  simp [run]

/-- A host program that registers columns makes one call for each of them. -/
theorem of_columns_eq_run (columns : List CustomColumn) :
    ofColumns columns = run {} (columns.map .register) := by
  rw [ofColumns, run, List.foldl_map]
  congr 1
  funext registry column
  rw [step_register, register]
  split <;> rfl

/-- A registry has no type twice and no column without a type. -/
theorem types_run_well_formed (calls : List Call) :
    (run {} calls).types.Nodup ∧ "" ∉ (run {} calls).types := by
  induction calls using List.reverseRecOn with
  | nil => exact ⟨List.nodup_nil, List.not_mem_nil⟩
  | append_singleton calls call ih =>
      rw [run_append]
      refine ⟨nodup_types_step ih.1, fun hmem => ?_⟩
      rcases mem_types_step.1 hmem with ⟨hbefore, -⟩ | ⟨-, -, -, hne⟩
      · exact ih.2 hbefore
      · exact hne rfl

/-- A type is registered if it has been registered since its last removal. -/
theorem mem_types_run_iff :
    type ∈ (run {} calls).types ↔ ∃ n, RegisteredAt type calls n := by
  induction calls using List.reverseRecOn with
  | nil => simp [run, types, RegisteredAt, Since]
  | append_singleton calls call ih =>
      rw [run_append, mem_types_step, ih]
      simp [RegisteredAt, since_append_iff, exists_or]

/-- The types stand in the order of their first registrations since their last removals. -/
theorem types_run_pairwise (calls : List Call) :
    (run {} calls).types.Pairwise (RegisteredBefore calls) := by
  induction calls using List.reverseRecOn with
  | nil => exact List.Pairwise.nil
  | append_singleton calls call ih =>
      rw [run_append]
      cases call with
      | unregister type =>
          rw [types_step_unregister]
          have hother : ∀ other ∈ (run {} calls).types.filter (· != type),
              Call.unregister type ≠ .unregister other := by
            intro other hmem heq
            exact bne_iff_ne.1 (List.mem_filter.1 hmem).2 (Call.unregister.inj heq).symm
          exact (ih.filter _).imp_of_mem fun hfirst hsecond h =>
            h.append (hother _ hfirst) (hother _ hsecond)
      | register column =>
          have hcall : ∀ type, Call.register column ≠ .unregister type := fun _ h => nomatch h
          have hkept := ih.imp fun h => RegisteredBefore.append h (hcall _) (hcall _)
          rw [types_step_register]
          split
          · exact hkept
          · rename_i hnew
            rw [not_or] at hnew
            have hnone : ∀ m, ¬ RegisteredAt column.type calls m :=
              fun m hm => hnew.2 (mem_types_run_iff.2 ⟨m, hm⟩)
            refine List.pairwise_append.2 ⟨hkept, List.pairwise_singleton .., ?_⟩
            intro first hfirst second hsecond
            obtain rfl := List.mem_singleton.1 hsecond
            -- The types that are there have been registered by some call before this one.
            obtain ⟨m, hm⟩ := exists_first_registered_at.2 (mem_types_run_iff.1 hfirst)
            exact ⟨m, calls.length, hm.1.lt_length, hm.append (hcall _),
              first_registered_at_append hnone ⟨column, rfl, rfl, hnew.1⟩⟩

/-- A look-up finds the last column of the type that was registered and not removed. -/
theorem lookup_run_eq_some_iff :
    (run {} calls).lookup type = some column ↔ column.type = type ∧ IsLatest column calls := by
  have key : (run {} calls).lookup column.type = some column ↔ IsLatest column calls := by
    induction calls using List.reverseRecOn with
    | nil => simp [run, lookup, IsLatest, Since]
    | append_singleton calls call ih =>
        rw [run_append, lookup_step_eq_some_iff (types_run_well_formed calls).2, ih]
        simp [IsLatest, since_append_iff, exists_or]
  constructor
  · intro h
    obtain rfl := type_of_lookup h
    exact ⟨rfl, key.1 h⟩
  · rintro ⟨rfl, h⟩
    exact key.2 h

end CardBrowser.Registry
