import Mathlib
import CardBrowser.Proofs.Column.Calls
import CardBrowser.Proofs.Outcome
import CardBrowser.Proofs.Session.Discard
import CardBrowser.Session.History

/-!
# What an operation does to a session

For every operation that can be refused, when it is not refused and which session it gives. An
operation that is not refused does one of four things, which `Outcome` lists: the theorems about
histories go through these (`outcome_of_apply`) and do not look into the operations again.
`SameColumns` says which part of a session a search leaves alone, and `offer_of_apply` what becomes
of the columns on offer. What every operation keeps that is not refused, a history keeps:
`run_induction`.
-/

namespace CardBrowser.Operation

/-- The type of the column that an operation hides. -/
def hides? : Operation → Option String
  | removeColumn type => some type
  | _ => none

/-- An operation registers a column of a type. The empty type is never registered. -/
def Registers (type : String) : Operation → Prop
  | registerColumn column => column.type = type ∧ column.type ≠ ""
  | _ => False

/-- An operation changes what is searched for or how it is sorted, and nothing else. -/
def AsksAnew : Operation → Prop
  | search _ | setSortColumn _ | setSortDirection _ | toggleUniqueNotes => True
  | _ => False

/-- The call of the registry that an operation makes. -/
def call? : Operation → Option Registry.Call
  | registerColumn column => some (.register column)
  | unregisterColumn type | removeColumn type => some (.unregister type)
  | _ => none

variable {operation : Operation} {type : String}

/-- An operation that asks anew hides no column. -/
theorem AsksAnew.hides_eq_none (h : operation.AsksAnew) : operation.hides? = none := by
  cases operation <;> first | rfl | cases h

/-- An operation that asks anew makes no call of the registry. -/
theorem AsksAnew.call_eq_none (h : operation.AsksAnew) : operation.call? = none := by
  cases operation <;> first | rfl | cases h

/-- The call of an operation registers what the operation registers. -/
theorem registers_of_call {call : Registry.Call} (hcall : operation.call? = some call)
    (h : call.Registers type) : operation.Registers type := by
  obtain ⟨column, rfl, rfl, hne⟩ := h
  cases operation <;> cases hcall
  exact ⟨rfl, hne⟩

end CardBrowser.Operation

namespace CardBrowser.Session

open CardBrowser.Search

variable {σ : Type} {session other next : Session σ} {type : String}

/-- A session knows its built-in and its registered columns. -/
theorem knows_iff :
    session.knows type = true ↔ type ∈ session.builtins.types ∨ type ∈ session.registry.types :=
  Offer.knows_iff

/-! ## Refusals -/

/-- A column can be shown or hidden exactly when it is known. -/
theorem toggle_column_eq_ok_iff {shown : Bool} :
    session.toggleColumn type = .ok (shown, next) ↔
      session.knows type = true ∧ shown = (session.active.toggle type).1 ∧
        next = session.bracketed fun session =>
          { session with active := (session.active.toggle type).2 } := by
  unfold toggleColumn
  split
  · rename_i hknows
    simp [hknows, eq_comm, bracketed]
  · rename_i hknows
    simp [hknows]

/-- A column can be registered exactly when the registry takes it. -/
theorem register_column_eq_ok_iff {column : CustomColumn} :
    session.registerColumn column = .ok next ↔
      ∃ registry, session.registry.register column = .ok registry ∧
        { session with registry } = next :=
  Except.map_eq_ok_iff

section Searching

variable [Store σ]

/-- A session can sort by a column exactly when the column is known. -/
theorem set_sort_column_eq_ok_iff :
    session.setSortColumn type = .ok next ↔
      session.knows type = true ∧
        next = session.bracketed fun session => runSearch { session with sortType := type } := by
  unfold setSortColumn
  split
  · rename_i hknows
    simp [hknows, eq_comm]
  · rename_i hknows
    simp [hknows]

/-- A column can be unregistered exactly when it is registered and, if it is the default sort
column, a built-in column of its type stands in for it. -/
theorem unregister_column_eq_ok_iff {column : CustomColumn} :
    session.unregisterColumn type = .ok (column, next) ↔
      (type = session.config.defaultSortType → type ∈ session.builtins.types) ∧
        ∃ registry, session.registry.unregister type = .ok (column, registry) ∧
          next = dropColumn type
            (session.withOffer ⟨registry, session.builtins, session.removed⟩) := by
  unfold unregisterColumn
  rw [← BuiltinColumns.contains_iff]
  constructor
  · intro h
    split at h
    · cases h
    · rename_i hallowed
      split at h
      · cases h
      · rename_i found registry hregistry
        cases h
        exact ⟨by simpa using hallowed, registry, hregistry, rfl⟩
  · intro h
    obtain ⟨hstands, registry, hregistry, rfl⟩ := h
    have hallowed : ¬ (type = session.config.defaultSortType ∧
        (!session.builtins.contains type) = true) := by
      simpa using hstands
    rw [if_neg hallowed, hregistry]
    rfl

/-- A column can be hidden exactly when it is not the default sort column and is on offer. -/
theorem remove_column_eq_ok_iff :
    session.removeColumn type = .ok next ↔
      type ≠ session.config.defaultSortType ∧
        ∃ offer, session.offer.hide type = some offer ∧
          next = dropColumn type (session.withOffer offer) := by
  unfold removeColumn
  split
  · rename_i hdefault
    simp [hdefault]
  · rename_i hother
    cases session.offer.hide type <;> simp [hother, eq_comm]

end Searching

/-! ## What a search leaves alone -/

/-- Two sessions agree on the columns: what is there, what is displayed, and what they sort by. -/
structure SameColumns (session other : Session σ) : Prop where
  config : other.config = session.config
  registered : other.registry.types = session.registry.types
  builtins : other.builtins = session.builtins
  active : other.active = session.active
  sortType : other.sortType = session.sortType

/-- Sessions that agree on the columns know the same columns. -/
theorem SameColumns.knows (h : SameColumns session other) (type : String) :
    other.knows type = session.knows type := by
  rw [Bool.eq_iff_iff, knows_iff, knows_iff, h.builtins, h.registered]

/-- The events that the display is told of are no part of the columns. -/
theorem bracketed_same_columns (change : Session σ → Session σ) (session : Session σ) :
    SameColumns (change { session with display := session.display ++ [.beginReset] })
      (session.bracketed change) :=
  ⟨rfl, rfl, rfl, rfl, rfl⟩

section Searching

variable [Store σ]

/-- Searching for a predicate asks the sort column and the store, and changes nothing else. -/
theorem find_same_columns (session : Session σ) (predicate : Predicate) :
    SameColumns session (session.find predicate).2 := by
  have htypes : (planFor session.registry session.planOptions predicate
      session.sortType).2.types = session.registry.types := Registry.types_sort_key
  exact ⟨rfl, htypes, rfl, rfl, rfl⟩

/-- Running the last search again leaves the columns alone. -/
theorem run_search_same_columns (session : Session σ) :
    SameColumns session session.runSearch := by
  unfold runSearch
  split
  · exact ⟨rfl, rfl, rfl, rfl, rfl⟩
  · rename_i predicate _
    have h := find_same_columns session predicate
    exact ⟨h.config, h.registered, h.builtins, h.active, h.sortType⟩

/-- A search after a change leaves the columns as the change has made them. -/
theorem searched_same_columns (change : Session σ → Session σ) (session : Session σ) :
    SameColumns (change { session with display := session.display ++ [.beginReset] })
      (session.bracketed fun session => runSearch (change session)) := by
  have h := run_search_same_columns
    (change { session with display := session.display ++ [.beginReset] })
  exact ⟨h.config, h.registered, h.builtins, h.active, h.sortType⟩

/-- Dropping a column changes the columns as forgetting it does, whether or not a search follows. -/
theorem drop_column_same_columns (type : String) (session : Session σ) :
    SameColumns (forgetColumn type session) (dropColumn type session) := by
  unfold dropColumn bracketed
  dsimp only
  split
  · have h := run_search_same_columns (forgetColumn type
      { session with display := session.display ++ [.beginReset] })
    exact ⟨h.config, h.registered, h.builtins, h.active, h.sortType⟩
  · exact ⟨rfl, rfl, rfl, rfl, rfl⟩

/-! ## What becomes of the columns on offer -/

/-- Two sessions have the same configuration, the same types of custom columns, and the same
built-in columns, hidden or not. -/
structure SameOffer (session other : Session σ) : Prop where
  config : other.config = session.config
  registered : other.registry.types = session.registry.types
  shelves : other.offer.shelves = session.offer.shelves

/-- Running the last search again hides nothing and puts nothing back. -/
theorem same_offer_run_search (session : Session σ) : SameOffer session session.runSearch := by
  have hsame := run_search_same_columns session
  refine ⟨hsame.config, hsame.registered, ?_⟩
  unfold runSearch
  cases session.parse session.lastSearch <;> rfl

/-- A search hides nothing and puts nothing back, whatever else is changed first beside the columns
on offer. -/
theorem same_offer_searched {change : Session σ → Session σ}
    (h : SameOffer session (change { session with display := session.display ++ [.beginReset] })) :
    SameOffer session (session.bracketed fun session => runSearch (change session)) := by
  have hsearch := same_offer_run_search
    (change { session with display := session.display ++ [.beginReset] })
  exact ⟨hsearch.config.trans h.config, hsearch.registered.trans h.registered,
    hsearch.shelves.trans h.shelves⟩

/-- Dropping a column that is gone hides no other one. -/
theorem same_offer_drop_column (type : String) (session : Session σ) :
    SameOffer session (dropColumn type session) := by
  unfold dropColumn bracketed
  dsimp only
  split
  · have h := same_offer_run_search (forgetColumn type
      { session with display := session.display ++ [.beginReset] })
    exact ⟨h.config, h.registered, h.shelves⟩
  · exact ⟨rfl, rfl, rfl⟩

/-! ## What an operation does -/

/-- What becomes of a session in an operation that is not refused. -/
inductive Outcome (session : Session σ) : Operation → Session σ → Prop
  /-- The session searches for something else or sorts in another way. -/
  | asked {operation : Operation} (lastSearch sortType : String) (direction : Direction)
      (uniqueNotes : Bool) (hasks : operation.AsksAnew)
      (hsort : sortType = session.sortType ∨ session.knows sortType = true) :
      Outcome session operation (session.bracketed fun session =>
        runSearch { session with lastSearch, sortType, direction, uniqueNotes })
  /-- A column that is known is displayed or hidden. -/
  | toggled {type : String} (hknows : session.knows type = true) :
      Outcome session (.toggleColumn type) (session.bracketed fun session =>
        { session with active := (session.active.toggle type).2 })
  /-- The registry has taken a column. -/
  | registered {column : CustomColumn} {registry : Registry}
      (hregister : session.registry.register column = .ok registry) :
      Outcome session (.registerColumn column) { session with registry }
  /-- A column goes away, while the others and the default column stay on offer. -/
  | dropped {operation : Operation} {type : String} {offer : Offer}
      (hcall : operation.call? = some (.unregister type))
      (hregistry : offer.registry = session.registry.step (.unregister type))
      (hshelves : offer.shelves =
        operation.hides?.elim session.offer.shelves session.offer.shelves.hide)
      (hkept : ∀ other, other ≠ type ∨ other = session.config.defaultSortType →
        session.knows other = true → offer.knows other = true) :
      Outcome session operation (dropColumn type (session.withOffer offer))

/-- An operation that is not refused has one of the outcomes. -/
theorem outcome_of_apply {operation : Operation} (h : session.apply operation = .ok next) :
    Outcome session operation next := by
  cases operation with
  | search text =>
      cases h
      exact .asked text session.sortType session.direction session.uniqueNotes trivial (Or.inl rfl)
  | toggleColumn type =>
      obtain ⟨⟨shown, toggled⟩, htoggle, rfl⟩ := Except.map_eq_ok_iff.1 h
      obtain ⟨hknows, -, rfl⟩ := toggle_column_eq_ok_iff.1 htoggle
      exact .toggled hknows
  | setSortColumn type =>
      obtain ⟨hknows, rfl⟩ := set_sort_column_eq_ok_iff.1 h
      exact .asked session.lastSearch type session.direction session.uniqueNotes trivial
        (Or.inr hknows)
  | setSortDirection direction =>
      cases h
      exact .asked session.lastSearch session.sortType direction session.uniqueNotes trivial
        (Or.inl rfl)
  | toggleUniqueNotes =>
      cases h
      exact .asked session.lastSearch session.sortType session.direction (!session.uniqueNotes)
        trivial (Or.inl rfl)
  | registerColumn column =>
      obtain ⟨registry, hregister, rfl⟩ := register_column_eq_ok_iff.1 h
      exact .registered hregister
  | unregisterColumn type =>
      obtain ⟨⟨column, dropped⟩, hunregister, rfl⟩ := Except.map_eq_ok_iff.1 h
      obtain ⟨hstands, registry, hregistry, rfl⟩ := unregister_column_eq_ok_iff.1 hunregister
      have hstep : session.registry.step (.unregister type) = registry :=
        Registry.step_of_answer hregistry
      refine .dropped rfl hstep.symm rfl fun other hother hknows => ?_
      -- The default column may lose its custom column, but then a built-in one is left.
      rw [Offer.knows_iff]
      by_cases hne : other = type
      · subst hne
        exact Or.inl (hstands (hother.resolve_left (not_not.2 rfl)))
      · exact (knows_iff.1 hknows).imp_right fun hmem =>
          (Registry.mem_unregister hregistry).2 ⟨hmem, hne⟩
  | removeColumn type =>
      obtain ⟨hdefault, offer, hhide, rfl⟩ := remove_column_eq_ok_iff.1 h
      have hshelves := session.offer.shelves_hide type
      rw [hhide] at hshelves
      refine .dropped rfl (Offer.registry_of_hide hhide) hshelves fun other hother => ?_
      exact Offer.knows_of_hide hhide (hother.elim id fun heq => heq ▸ Ne.symm hdefault)

/-- What an operation that is not refused does to the columns on offer: it hides at most one
built-in column, and it makes at most one call of the registry. -/
theorem offer_of_apply {operation : Operation} (h : session.apply operation = .ok next) :
    next.config = session.config ∧
      next.offer.shelves = operation.hides?.elim session.offer.shelves session.offer.shelves.hide ∧
      next.registry.types =
        (operation.call?.elim session.registry session.registry.step).types := by
  cases outcome_of_apply h with
  | asked lastSearch sortType direction uniqueNotes hasks =>
      have hsame : SameOffer session (session.bracketed fun session =>
          runSearch { session with lastSearch, sortType, direction, uniqueNotes }) :=
        same_offer_searched ⟨rfl, rfl, rfl⟩
      rw [hasks.hides_eq_none, hasks.call_eq_none]
      exact ⟨hsame.config, hsame.shelves, hsame.registered⟩
  | toggled => exact ⟨rfl, rfl, rfl⟩
  | @registered column registry hregister =>
      have hstep : session.registry.step (.register column) = registry :=
        Registry.step_of_answer (Except.map_eq_ok_iff.2 ⟨registry, hregister, rfl⟩)
      exact ⟨rfl, rfl, congrArg Registry.types hstep.symm⟩
  | @dropped _ type offer hcall hregistry hshelves =>
      have hdrop := same_offer_drop_column type (session.withOffer offer)
      rw [hcall]
      exact ⟨hdrop.config, hdrop.shelves.trans hshelves,
        hdrop.registered.trans (congrArg Registry.types hregistry)⟩

/-- Only a registration brings a custom column. -/
theorem mem_registered_of_apply {operation : Operation} (h : session.apply operation = .ok next)
    (hmem : type ∈ next.registry.types) :
    type ∈ session.registry.types ∨ operation.Registers type := by
  rw [(offer_of_apply h).2.2] at hmem
  cases hcall : operation.call? with
  | none =>
      rw [hcall] at hmem
      exact Or.inl hmem
  | some call =>
      rw [hcall] at hmem
      exact (Registry.mem_types_step.1 hmem).imp And.left (Operation.registers_of_call hcall)

/-- An operation that is not refused keeps the configuration and brings no built-in column. -/
theorem builtins_of_apply {operation : Operation} (h : session.apply operation = .ok next) :
    next.config = session.config ∧
      ∀ type ∈ next.builtins.types, type ∈ session.builtins.types := by
  obtain ⟨hconfig, hshelves, -⟩ := offer_of_apply h
  refine ⟨hconfig, fun type hmem => ?_⟩
  have hmem : type ∈ next.offer.shelves.offered.types := hmem
  rw [hshelves] at hmem
  cases hhides : operation.hides? with
  | none =>
      rw [hhides] at hmem
      exact hmem
  | some hidden =>
      rw [hhides] at hmem
      exact Shelves.mem_of_mem_hide hmem

/-! ## Histories -/

/-- An operation that is not refused is a step. -/
theorem step_of_ok {operation : Operation} (h : session.apply operation = .ok next) :
    session.step operation = next := by
  unfold step
  rw [h]
  rfl

/-- A refused operation leaves the session as it is. -/
theorem step_of_error {operation : Operation} {error : RegistryError}
    (h : session.apply operation = .error error) : session.step operation = session := by
  unfold step
  rw [h]
  rfl

/-- A step keeps what the operation keeps when it is not refused. -/
theorem step_of_apply {motive : Session σ → Prop} {operation : Operation} (h : motive session)
    (happly : ∀ next, session.apply operation = .ok next → motive next) :
    motive (session.step operation) := by
  cases hnext : session.apply operation with
  | error error =>
      rw [step_of_error hnext]
      exact h
  | ok next =>
      rw [step_of_ok hnext]
      exact happly next hnext

/-- A history around one of its steps. -/
theorem run_around (earlier later : List Operation) (operation : Operation) :
    session.run (earlier ++ operation :: later) =
      ((session.run earlier).step operation).run later := by
  unfold run
  rw [List.foldl_append, List.foldl_cons]

/-- What every operation keeps that is not refused, a history keeps. -/
theorem run_induction {motive : Session σ → Prop}
    (happly : ∀ (session next : Session σ) (operation : Operation), motive session →
      session.apply operation = .ok next → motive next)
    (h : motive session) (operations : List Operation) : motive (session.run operations) := by
  induction operations generalizing session with
  | nil => exact h
  | cons operation operations ih =>
      exact ih (step_of_apply h fun next => happly session next operation h)

/-- A history keeps the configuration and brings no built-in column. -/
theorem builtins_of_run (operations : List Operation) :
    (session.run operations).config = session.config ∧
      ∀ type ∈ (session.run operations).builtins.types, type ∈ session.builtins.types := by
  refine run_induction (motive := fun other => other.config = session.config ∧
      ∀ type ∈ other.builtins.types, type ∈ session.builtins.types)
    (fun earlier next operation hearlier happly => ?_) ⟨rfl, fun _ => id⟩ operations
  have hnext := builtins_of_apply happly
  exact ⟨hnext.1.trans hearlier.1, fun type hmem => hearlier.2 type (hnext.2 type hmem)⟩

end Searching

end CardBrowser.Session
