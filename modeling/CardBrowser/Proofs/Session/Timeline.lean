import Mathlib
import CardBrowser.Proofs.Session.Change
import CardBrowser.Proofs.Session.Discard
import CardBrowser.Store.Scripted

/-!
# What happens during an operation

`Session.apply` says how an operation ends. Here an operation is followed from moment to moment:
what it changes before it is known whether it is refused, the events that the display is told of,
and the change between the two. `perform_cases` says that it ends as `apply` says; an operation that
is refused leaves nothing behind, though it does not undo anything. `operations_bracketed` adds when
an operation is refused, what the display has been told after a history, and that what is shown
changes only while the display is in a reset.
-/

namespace CardBrowser

open CardBrowser.Search

/-! ## Moments -/

namespace Operation

variable {σ : Type} [Store σ]

/-- What an operation changes while the display is in a reset; none if the display is not told. -/
def change? : Operation → Option (Session σ → Session σ)
  | search text => some fun session => Session.runSearch { session with lastSearch := text }
  | toggleColumn type => some fun session =>
      { session with active := (session.active.toggle type).2 }
  | setSortColumn type => some fun session => Session.runSearch { session with sortType := type }
  | setSortDirection direction => some fun session => Session.runSearch { session with direction }
  | toggleUniqueNotes => some fun session =>
      Session.runSearch { session with uniqueNotes := !session.uniqueNotes }
  | registerColumn _ => none
  | unregisterColumn type | removeColumn type => some fun session =>
      if session.sortType = type then Session.runSearch (session.forgetColumn type)
      else session.forgetColumn type

/-- What the display is told by an operation that is not refused. -/
def events : Operation → List DisplayEvent
  | registerColumn _ => []
  | _ => [.beginReset, .endReset]

end Operation

namespace Session

variable {σ : Type}

/-- Tells the display of an event. -/
def tell (event : DisplayEvent) (session : Session σ) : Session σ :=
  { session with display := session.display ++ [event] }

/-- What an operation changes before it is known whether it is refused, and why it is refused. -/
def prepare (session : Session σ) : Operation → Option RegistryError × Session σ
  | .search _ | .setSortDirection _ | .toggleUniqueNotes => (none, session)
  | .toggleColumn type | .setSortColumn type =>
    (if session.knows type then none else some (.notFound type), session)
  | .registerColumn column =>
    if column.type = "" then (some (.invalidIdentifier column.type), session)
    else
      (none, { session with registry := ⟨Registry.put column session.registry.columns⟩ })
  | .unregisterColumn type =>
    if type = session.config.defaultSortType ∧ !session.builtins.contains type then
      (some (.isProtected type), session)
    else
      let (found, registry) := session.registry.discard type
      (if found then none else some (.notFound type), { session with registry })
  | .removeColumn type =>
    if type = session.config.defaultSortType then (some (.isProtected type), session)
    else
      let (found, offer) := session.offer.discard type
      (if found then none else some (.notFound type), session.withOffer offer)

/-- An operation can be carried out. -/
def Accepts (session : Session σ) : Operation → Prop
  | .search _ | .setSortDirection _ | .toggleUniqueNotes => True
  | .toggleColumn type | .setSortColumn type =>
    type ∈ session.builtins.types ∨ type ∈ session.registry.types
  | .registerColumn column => column.type ≠ ""
  | .unregisterColumn type =>
    type ∈ session.registry.types ∧
      ¬ (type = session.config.defaultSortType ∧ type ∉ session.builtins.types)
  | .removeColumn type =>
    (type ∈ session.builtins.types ∨ type ∈ session.registry.types) ∧
      type ≠ session.config.defaultSortType

/-- What a session shows. -/
def shown (session : Session σ) : ActiveColumns × String × Direction × Bool × List Int :=
  (session.active, session.sortType, session.direction, session.uniqueNotes, session.results)

/-- From one moment to the next nothing changes that is shown, or the display is in a reset and is
told of nothing. -/
def ChangesInReset (before after : Session σ) : Prop :=
  after.shown = before.shown ∨
    (before.display.getLast? = some .beginReset ∧ after.display = before.display)

section Searching

variable [Store σ] {session : Session σ} {operation : Operation}

/-- What a session becomes in an operation that is not refused, from moment to moment. -/
def moments (operation : Operation) (prepared : Session σ) : List (Session σ) :=
  match (operation.change? : Option (Session σ → Session σ)) with
  | none => [prepared]
  | some change =>
    let opened := prepared.tell .beginReset
    [prepared, opened, change opened, (change opened).tell .endReset]

/-- Why an operation is refused, if it is, and what a session becomes in it, from moment to
moment. -/
def perform (session : Session σ) (operation : Operation) :
    Option RegistryError × List (Session σ) :=
  match session.prepare operation with
  | (some error, prepared) => (some error, [prepared])
  | (none, prepared) => (none, prepared.moments operation)

/-- What is left of a session after an operation. -/
def left (session : Session σ) (operation : Operation) : Session σ :=
  (session.perform operation).2.getLastD session

/-- What a session becomes in a history, from moment to moment. -/
def timeline (session : Session σ) : List Operation → List (Session σ)
  | [] => []
  | operation :: operations =>
    (session.perform operation).2 ++ (session.left operation).timeline operations

/-- The operations of a history that are not refused. -/
def successes (session : Session σ) : List Operation → List Operation
  | [] => []
  | operation :: operations =>
    let later := (session.left operation).successes operations
    if (session.perform operation).1.isNone then operation :: later else later

/-! ## One operation -/

/-- What an operation that is not refused makes of a prepared session. -/
def finish (operation : Operation) (prepared : Session σ) : Session σ :=
  match (operation.change? : Option (Session σ → Session σ)) with
  | none => prepared
  | some change => prepared.bracketed change

/-- A refused operation has changed nothing until then. One that is not refused has changed nothing
that is shown, and what is left to do ends as the operation does. -/
theorem prepare_cases (session : Session σ) (operation : Operation) :
    (∃ error, session.prepare operation = (some error, session) ∧
        session.apply operation = .error error) ∨
      (∃ prepared, session.prepare operation = (none, prepared) ∧
        session.apply operation = .ok (prepared.finish operation) ∧
        prepared.shown = session.shown ∧ prepared.display = session.display) := by
  cases operation with
  | search | setSortDirection | toggleUniqueNotes => exact Or.inr ⟨session, rfl, rfl, rfl, rfl⟩
  | toggleColumn type =>
      unfold prepare apply toggleColumn
      dsimp only
      split
      · exact Or.inr ⟨session, rfl, rfl, rfl, rfl⟩
      · exact Or.inl ⟨_, rfl, rfl⟩
  | setSortColumn type =>
      unfold prepare apply setSortColumn
      dsimp only
      split
      · exact Or.inr ⟨session, rfl, rfl, rfl, rfl⟩
      · exact Or.inl ⟨_, rfl, rfl⟩
  | registerColumn column =>
      unfold prepare apply registerColumn Registry.register
      dsimp only
      split
      · exact Or.inl ⟨_, rfl, rfl⟩
      · exact Or.inr ⟨_, rfl, rfl, rfl, rfl⟩
  | unregisterColumn type =>
      unfold prepare apply unregisterColumn
      dsimp only
      split
      · exact Or.inl ⟨_, rfl, rfl⟩
      · cases hunregister : session.registry.unregister type with
        | error error =>
            obtain ⟨hdiscard, rfl⟩ := Registry.discard_of_error hunregister
            rw [hdiscard]
            exact Or.inl ⟨_, rfl, rfl⟩
        | ok removed =>
            rw [Registry.discard_of_ok hunregister]
            exact Or.inr ⟨_, rfl, rfl, rfl, rfl⟩
  | removeColumn type =>
      unfold prepare apply removeColumn
      dsimp only
      split
      · exact Or.inl ⟨_, rfl, rfl⟩
      · rw [Offer.discard_eq]
        cases session.offer.hide type with
        | none => exact Or.inl ⟨_, rfl, rfl⟩
        | some offer => exact Or.inr ⟨_, rfl, rfl, rfl, rfl⟩

/-- An operation that is refused ends where it began, and one that is not ends as `apply` says. -/
theorem perform_cases (session : Session σ) (operation : Operation) :
    (∃ error, session.apply operation = .error error ∧
        session.perform operation = (some error, [session]) ∧ session.left operation = session) ∨
      (∃ prepared : Session σ, session.apply operation = .ok (prepared.finish operation) ∧
        session.perform operation = (none, prepared.moments operation) ∧
        session.left operation = prepared.finish operation ∧
        prepared.shown = session.shown ∧ prepared.display = session.display) := by
  unfold left perform
  rcases prepare_cases session operation with ⟨error, hprepare, happly⟩ |
      ⟨prepared, hprepare, happly, hshown, hdisplay⟩
  · rw [hprepare]
    exact Or.inl ⟨error, happly, rfl, rfl⟩
  · rw [hprepare]
    refine Or.inr ⟨prepared, happly, rfl, ?_, hshown, hdisplay⟩
    dsimp only
    unfold moments finish
    cases (operation.change? : Option (Session σ → Session σ)) <;> rfl

/-- What an operation leaves is what a step gives. -/
theorem left_eq_step (session : Session σ) (operation : Operation) :
    session.left operation = session.step operation := by
  rcases perform_cases session operation with ⟨error, happly, -, hleft⟩ |
      ⟨prepared, happly, -, hleft, -⟩
  · rw [hleft, step_of_error happly]
  · rw [hleft, step_of_ok happly]

/-- An operation is carried out exactly when the session accepts it. -/
theorem accepts_iff (session : Session σ) (operation : Operation) :
    (∃ next, session.apply operation = .ok next) ↔ session.Accepts operation := by
  cases operation with
  | search | setSortDirection | toggleUniqueNotes => exact iff_of_true ⟨_, rfl⟩ trivial
  | toggleColumn type =>
      show (∃ next, (session.toggleColumn type).map Prod.snd = .ok next) ↔ _ ∨ _
      simp only [Except.map_eq_ok_iff, Prod.exists, toggle_column_eq_ok_iff, ← knows_iff]
      simp
  | setSortColumn type =>
      show (∃ next, session.setSortColumn type = .ok next) ↔ _ ∨ _
      simp only [set_sort_column_eq_ok_iff, ← knows_iff]
      simp
  | registerColumn column =>
      show (∃ next, session.registerColumn column = .ok next) ↔ column.type ≠ ""
      rw [← @Registry.register_ok_iff session.registry]
      simp only [register_column_eq_ok_iff]
      exact ⟨fun ⟨_, registry, hregister, _⟩ => ⟨registry, hregister⟩,
        fun ⟨registry, hregister⟩ => ⟨_, registry, hregister, rfl⟩⟩
  | unregisterColumn type =>
      show (∃ next, (session.unregisterColumn type).map Prod.snd = .ok next) ↔ _ ∧ ¬ (_ ∧ _)
      rw [← Registry.unregister_ok_iff, not_and, not_not]
      simp only [Except.map_eq_ok_iff, Prod.exists, unregister_column_eq_ok_iff]
      constructor
      · rintro ⟨-, column, -, ⟨hstands, registry, hregistry, -⟩, -⟩
        exact ⟨⟨column, registry, hregistry⟩, hstands⟩
      · rintro ⟨⟨column, registry, hregistry⟩, hstands⟩
        exact ⟨_, column, _, ⟨hstands, registry, hregistry, rfl⟩, rfl⟩
  | removeColumn type =>
      show (∃ next, session.removeColumn type = .ok next) ↔ (_ ∨ _) ∧ _
      simp only [remove_column_eq_ok_iff, ← knows_iff]
      have hknown : (∃ offer, session.offer.hide type = some offer) ↔
          session.knows type = true := by
        rw [← Option.ne_none_iff_exists', Ne, Offer.hide_eq_none_iff, Bool.not_eq_false]
        rfl
      rw [← hknown]
      constructor
      · rintro ⟨-, hother, offer, hhide, -⟩
        exact ⟨⟨offer, hhide⟩, hother⟩
      · rintro ⟨⟨offer, hhide⟩, hother⟩
        exact ⟨_, hother, offer, hhide, rfl⟩

/-! ## What the display is told -/

/-- Searching tells the display nothing. -/
theorem display_run_search (session : Session σ) :
    session.runSearch.display = session.display := by
  unfold runSearch
  cases session.parse session.lastSearch <;> rfl

/-- What is changed while the display is in a reset tells the display nothing. -/
theorem display_change {change : Session σ → Session σ} (h : operation.change? = some change)
    (session : Session σ) : (change session).display = session.display := by
  cases operation with
  | registerColumn column => cases h
  | toggleColumn type =>
      cases h
      rfl
  | search | setSortColumn | setSortDirection | toggleUniqueNotes =>
      cases h
      exact display_run_search _
  | unregisterColumn type | removeColumn type =>
      cases h
      dsimp only
      split
      · exact display_run_search _
      · rfl

/-- What the display is told by the rest of an operation. -/
theorem display_finish (operation : Operation) (prepared : Session σ) :
    (prepared.finish operation).display = prepared.display ++ operation.events := by
  have hregister : (operation.change? : Option (Session σ → Session σ)) = none →
      operation.events = [] := by
    intro h
    cases operation <;> first | rfl | cases h
  have hother : ∀ change : Session σ → Session σ, operation.change? = some change →
      operation.events = [.beginReset, .endReset] := by
    intro change h
    cases operation <;> first | rfl | cases h
  unfold finish
  split
  · rename_i h
    rw [hregister h, List.append_nil]
  · rename_i change h
    rw [hother change h]
    show (change (prepared.tell .beginReset)).display ++ [.endReset] = _
    rw [display_change h]
    show prepared.display ++ [.beginReset] ++ [.endReset] = _
    rw [List.append_assoc]
    rfl

/-- The display is told of what an operation does, and of nothing if it is refused. -/
theorem display_run (session : Session σ) (operations : List Operation) :
    (session.run operations).display =
      session.display ++ (session.successes operations).flatMap Operation.events := by
  induction operations generalizing session with
  | nil => exact (List.append_nil _).symm
  | cons operation operations ih =>
      show ((session.step operation).run operations).display = _
      have hcons : session.successes (operation :: operations) =
          if (session.perform operation).1.isNone then
            operation :: (session.left operation).successes operations
          else (session.left operation).successes operations := rfl
      rw [← left_eq_step, ih, hcons]
      rcases perform_cases session operation with ⟨error, -, hperform, hleft⟩ |
          ⟨prepared, -, hperform, hleft, -, hdisplay⟩
      · rw [hperform, hleft]
        rfl
      · rw [hperform, hleft, display_finish, hdisplay, List.append_assoc]
        rfl

/-! ## When something changes that is shown -/

/-- An operation changes what is shown only in a reset, and so do the moments that follow if they
begin with what it leaves. -/
theorem is_chain_perform {later : List (Session σ)}
    (h : (session.left operation :: later).IsChain ChangesInReset) :
    (session :: ((session.perform operation).2 ++ later)).IsChain ChangesInReset := by
  rcases perform_cases session operation with ⟨error, -, hperform, hleft⟩ |
      ⟨prepared, -, hperform, hleft, hshown, -⟩
  · rw [hperform]
    rw [hleft] at h
    exact .cons_cons (Or.inl rfl) h
  · rw [hperform]
    rw [hleft] at h
    dsimp only
    unfold moments finish at *
    cases hchange : (operation.change? : Option (Session σ → Session σ)) with
    | none =>
        rw [hchange] at h
        exact .cons_cons (Or.inl hshown) h
    | some change =>
        rw [hchange] at h
        have hchanged : ChangesInReset (prepared.tell .beginReset)
            (change (prepared.tell .beginReset)) :=
          Or.inr ⟨List.getLast?_concat, display_change hchange _⟩
        exact .cons_cons (Or.inl hshown) (.cons_cons (Or.inl rfl)
          (.cons_cons hchanged (.cons_cons (Or.inl rfl) h)))

/-- A history changes what is shown only in resets. -/
theorem is_chain_timeline (session : Session σ) (operations : List Operation) :
    (session :: session.timeline operations).IsChain ChangesInReset := by
  induction operations generalizing session with
  | nil => exact .singleton session
  | cons operation operations ih => exact is_chain_perform (ih (session.left operation))

/-- A history ends with the session that it gives. -/
theorem last_timeline (session : Session σ) (operations : List Operation) :
    (session.timeline operations).getLastD session = session.run operations := by
  induction operations generalizing session with
  | nil => rfl
  | cons operation operations ih =>
      show _ = (session.step operation).run operations
      rw [← left_eq_step, ← ih]
      have hcons : session.timeline (operation :: operations) =
          (session.perform operation).2 ++ (session.left operation).timeline operations := rfl
      rw [hcons]
      unfold left
      simp only [List.getLastD_eq_getLast?, List.getLast?_append, Option.getD_or]

/-! ## Histories -/

/-- In every session, an operation that is refused leaves everything as it was, whatever it had
changed before that was known; it is refused exactly where the session does not accept it. After
every history the display has been told of one reset for each operation of the history that was
carried out, registrations apart; and in between, from moment to moment, what is shown changes only
while the display is in a reset. -/
theorem operations_bracketed (session : Session σ) (operations : List Operation) :
    (∀ operation,
      (∀ error, session.apply operation = .error error →
        (session.perform operation).1 = some error ∧ session.left operation = session) ∧
      (∀ next, session.apply operation = .ok next →
        (session.perform operation).1 = none ∧ session.left operation = next) ∧
      ((∃ next, session.apply operation = .ok next) ↔ session.Accepts operation)) ∧
    (session.run operations).display =
      session.display ++ (session.successes operations).flatMap Operation.events ∧
    (session.timeline operations).getLastD session = session.run operations ∧
    (session :: session.timeline operations).IsChain ChangesInReset := by
  refine ⟨fun operation => ⟨?_, ?_, accepts_iff session operation⟩, display_run session operations,
    last_timeline session operations, is_chain_timeline session operations⟩
  · intro error herror
    rcases perform_cases session operation with ⟨found, happly, hperform, hleft⟩ |
        ⟨prepared, happly, -⟩
    · obtain rfl := Except.error.inj (happly.symm.trans herror)
      exact ⟨congrArg Prod.fst hperform, hleft⟩
    · cases happly.symm.trans herror
  · intro next hnext
    rcases perform_cases session operation with ⟨found, happly, -⟩ |
        ⟨prepared, happly, hperform, hleft, -⟩
    · cases happly.symm.trans hnext
    · obtain rfl := Except.ok.inj (happly.symm.trans hnext)
      exact ⟨congrArg Prod.fst hperform, hleft⟩

end Searching

/-- A custom column shadows the default sort column, and both types are asked to go away more than
once: the display is told of the two operations that are carried out. -/
theorem operations_bracketed_shadowed : ∃ session : Session Script,
    { ({} : Setup) with
      registry := Registry.ofColumns
        [{ type := "noteFld", label := "Again", value := fun _ _ => "" }] }.open? {}
      ({ rows := [] } : Script) = .ok session ∧
    (session.run [.removeColumn "noteFld", .unregisterColumn "noteFld",
      .unregisterColumn "noteFld", .removeColumn "deck", .removeColumn "deck",
      .toggleColumn "deck"]).display = [.beginReset, .endReset, .beginReset, .endReset] := by
  refine ⟨_, rfl, ?_⟩
  rw [(operations_bracketed _ _).2.1]
  decide

end Session

end CardBrowser
