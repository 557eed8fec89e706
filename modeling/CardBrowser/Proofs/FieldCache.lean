import Mathlib
import CardBrowser.FieldCache
import CardBrowser.Store.Scripted
import CardBrowser.Store.Traced

/-!
# What a field cache remembers

Questions are asked of a cache one after the other, each with a store of its own, so the stores may
answer as they like. The first question about a note type and a field name is answered by its store,
and every later one as the first: `Remembers` says what the cache is then, `Remembers.next` is the
step and `remembers_ask_all` the run. `questions_answered` sums up what comes of it.
-/

namespace CardBrowser.FieldCache

/-! ## Columns of fields -/

/-- What comes after a beginning. -/
theorem after_eq_some_iff {start text rest : List Char} :
    after? start text = some rest ↔ text = start ++ rest := by
  fun_induction after? start text with
  | case1 text => simp
  | case2 => simp
  | case3 c start text ih => simpa using ih
  | case4 c start d text hne => simp [Ne.symm hne]

/-- A column shows the field of a name that is not empty if its type is the mark and the name. -/
theorem field_name_eq_some_iff {cache : FieldCache} {columnType name : String} :
    cache.fieldName? columnType = some name ↔ name ≠ "" ∧ columnType = cache.mark ++ name := by
  have hafter : columnType = cache.mark ++ name ↔
      after? cache.mark.toList columnType.toList = some name.toList := by
    rw [after_eq_some_iff, ← String.toList_append, String.toList_inj]
  have hempty : name ≠ "" ↔ name.toList ≠ [] := by
    rw [← String.toList_inj.ne]
    rfl
  rw [hafter, hempty]
  unfold fieldName?
  split
  · rename_i c rest hrest
    rw [hrest, Option.some.injEq, Option.some.injEq, ← String.toList_inj, String.toList_ofList]
    constructor
    · intro h
      rw [← h]
      exact ⟨List.cons_ne_nil _ _, rfl⟩
    · exact And.right
  · rename_i hnone
    simp only [reduceCtorEq, false_iff, not_and]
    intro hname hrest
    obtain ⟨c, rest, hcons⟩ := List.exists_cons_of_ne_nil hname
    rw [hcons] at hrest
    exact hnone c rest hrest

/-! ## One call -/

section Descriptor

variable {σ : Type} [Store σ] {cache : FieldCache} {noteType : Int} {columnType name : String}
  {found : Option Field} {store : σ}

/-- A column that shows no field touches neither the cache nor the store. -/
theorem descriptor_of_no_name (hname : cache.fieldName? columnType = none) :
    cache.descriptor noteType columnType store = (none, cache, store) := by
  unfold descriptor
  rw [hname]

/-- What was looked up before is found in the cache. -/
theorem descriptor_of_entry (hname : cache.fieldName? columnType = some name)
    (hentry : cache.entry? (noteType, name) = some found) :
    cache.descriptor noteType columnType store =
      (found, { cache with hits := cache.hits + 1 }, store) := by
  unfold descriptor
  simp only [hname, hentry]

/-- What was not looked up before is looked up, and remembered even if there is no field. -/
theorem descriptor_of_no_entry (hname : cache.fieldName? columnType = some name)
    (hentry : cache.entry? (noteType, name) = none) :
    cache.descriptor noteType columnType store =
      (pick name (Store.fields noteType store).1,
        { cache with
          entries := cache.entries ++
            [((noteType, name), pick name (Store.fields noteType store).1)]
          lookups := cache.lookups + 1 },
        (Store.fields noteType store).2) := by
  unfold descriptor
  simp only [hname, hentry]

end Descriptor

/-! ## Questions -/

/-- A question to a cache: which field a column shows for a note type, or only whether that is
written from right to left. The store is that of the moment in which the question is asked. -/
structure Question (σ : Type) where
  noteType : Int
  columnType : String
  asksDirection : Bool
  store : σ

/-- The answer to a question of either kind. -/
inductive Answer where
  | field (found : Option Field)
  | rightToLeft (answer : Bool)
deriving DecidableEq

namespace Question

variable {σ : Type}

/-- The answer to a question whose column shows that field. -/
def answer (question : Question σ) (found : Option Field) : Answer :=
  if question.asksDirection then .rightToLeft (found.any (·.rightToLeft)) else .field found

/-- What a question is about, if its column shows a field: a note type and a field name. -/
def key? (mark : String) (question : Question σ) : Option (Int × String) :=
  (fieldName? { mark } question.columnType).map (question.noteType, ·)

variable [Store σ]

/-- The field of that name that the store of a question gives. -/
def found (question : Question σ) (name : String) : Option Field :=
  pick name (Store.fields question.noteType question.store).1

/-- Asks a cache. -/
def ask (question : Question σ) (cache : FieldCache) : Answer × FieldCache × σ :=
  if question.asksDirection then
    (cache.isRightToLeft question.noteType question.columnType question.store).map .rightToLeft id
  else (cache.descriptor question.noteType question.columnType question.store).map .field id

/-- Questions of both kinds are answered by the field. -/
theorem ask_eq (question : Question σ) (cache : FieldCache) :
    question.ask cache =
      (cache.descriptor question.noteType question.columnType question.store).map
        question.answer id := by
  unfold ask answer isRightToLeft
  cases question.asksDirection <;> rfl

omit [Store σ] in
/-- A question is about a field name if its column type is the mark and that name. -/
theorem key_eq_some_iff {mark : String} {question : Question σ} {key : Int × String} :
    question.key? mark = some key ↔
      key.1 = question.noteType ∧ key.2 ≠ "" ∧ question.columnType = mark ++ key.2 := by
  unfold key?
  rw [Option.map_eq_some_iff]
  constructor
  · rintro ⟨name, hname, rfl⟩
    exact ⟨rfl, field_name_eq_some_iff.1 hname⟩
  · rintro ⟨htype, hname⟩
    exact ⟨key.2, field_name_eq_some_iff.2 hname, Prod.ext htype.symm rfl⟩

end Question

/-! ## Questions one after the other -/

/-- The answers to questions, the cache after them and the calls that they made on the stores. -/
structure Asked where
  answers : List Answer := []
  cache : FieldCache
  calls : List Call := []

variable {σ : Type} [Store σ] {mark : String} {asked : Asked} {questions : List (Question σ)}
  {question : Question σ} {key : Int × String}

/-- Asks one more question. -/
def Asked.next (asked : Asked) (question : Question σ) : Asked :=
  let store : Traced σ := ⟨question.store, asked.calls⟩
  let (answer, cache, traced) := { question with store }.ask asked.cache
  { answers := asked.answers ++ [answer], cache, calls := traced.calls }

/-- Asks questions of a new cache. -/
def askAll (mark : String) (questions : List (Question σ)) : Asked :=
  questions.foldl Asked.next { cache := { mark } }

/-- What questions are about. -/
def keys (mark : String) (questions : List (Question σ)) : List (Int × String) :=
  questions.filterMap (Question.key? mark)

/-- What the first question about a key has found. -/
def firstFound (mark : String) (questions : List (Question σ)) (key : Int × String) :
    Option Field :=
  (questions.find? fun question => question.key? mark = some key).bind (Question.found · key.2)

omit [Store σ] in
/-- A key is among those of questions if one of them is about it. -/
theorem mem_keys :
    key ∈ keys mark questions ↔ ∃ question ∈ questions, question.key? mark = some key :=
  List.mem_filterMap

/-- Later questions do not change what was found first. -/
theorem first_found_append (h : key ∈ keys mark questions) (later : List (Question σ)) :
    firstFound mark (questions ++ later) key = firstFound mark questions key := by
  obtain ⟨question, hmem, hkey⟩ := mem_keys.1 h
  have hfound : (questions.find? fun question => question.key? mark = some key).isSome = true :=
    List.find?_isSome.2 ⟨question, hmem, by simpa using hkey⟩
  obtain ⟨first, hfirst⟩ := Option.isSome_iff_exists.1 hfound
  unfold firstFound
  rw [List.find?_append, hfirst, Option.some_or]

/-- The first question about a key is answered by its store. -/
theorem first_found_of_not_mem (h : key ∉ keys mark questions)
    (hkey : question.key? mark = some key) :
    firstFound mark (questions ++ [question]) key = question.found key.2 := by
  have hnone : (questions.find? fun question => question.key? mark = some key) = none := by
    rw [List.find?_eq_none]
    intro other hmem hother
    exact h (mem_keys.2 ⟨other, hmem, by simpa using hother⟩)
  unfold firstFound
  rw [List.find?_append, hnone, Option.none_or]
  simp [hkey]

/-! ### One more question -/

/-- The cache is asked with the trace so far. -/
theorem Asked.next_eq (asked : Asked) (question : Question σ) :
    asked.next question =
      let after := asked.cache.descriptor question.noteType question.columnType
        (⟨question.store, asked.calls⟩ : Traced σ)
      { answers := asked.answers ++ [question.answer after.1], cache := after.2.1,
        calls := after.2.2.calls } := by
  unfold next
  simp only [Question.ask_eq]
  rfl

/-- A question that is about no field changes nothing. -/
theorem Asked.next_of_no_key (hmark : asked.cache.mark = mark) (hkey : question.key? mark = none) :
    asked.next question = { asked with answers := asked.answers ++ [question.answer none] } := by
  subst hmark
  have hname : asked.cache.fieldName? question.columnType = none := Option.map_eq_none_iff.1 hkey
  rw [next_eq, descriptor_of_no_name hname]

/-- A question about a key that has an entry is a hit. -/
theorem Asked.next_of_entry {found : Option Field} (hmark : asked.cache.mark = mark)
    (hkey : question.key? mark = some key) (hentry : asked.cache.entry? key = some found) :
    asked.next question =
      { asked with
        answers := asked.answers ++ [question.answer found]
        cache := { asked.cache with hits := asked.cache.hits + 1 } } := by
  subst hmark
  obtain ⟨name, hname, rfl⟩ := Option.map_eq_some_iff.1 hkey
  have hname : asked.cache.fieldName? question.columnType = some name := hname
  rw [next_eq, descriptor_of_entry hname hentry]

/-- A question about a key that has no entry looks the fields of its note type up. -/
theorem Asked.next_of_no_entry (hmark : asked.cache.mark = mark)
    (hkey : question.key? mark = some key) (hentry : asked.cache.entry? key = none) :
    asked.next question =
      { answers := asked.answers ++ [question.answer (question.found key.2)]
        cache :=
          { asked.cache with
            entries := asked.cache.entries ++ [(key, question.found key.2)]
            lookups := asked.cache.lookups + 1 }
        calls := asked.calls ++ [.fields key.1] } := by
  subst hmark
  obtain ⟨name, hname, rfl⟩ := Option.map_eq_some_iff.1 hkey
  have hname : asked.cache.fieldName? question.columnType = some name := hname
  rw [next_eq, descriptor_of_no_entry hname hentry]
  rfl

/-! ### What is remembered -/

/-- What a cache remembers of questions: what was found first for every key, in the order in which
the keys came up. Every key was looked up once, and every other question about a key was a hit. -/
structure Remembers (mark : String) (questions : List (Question σ)) (asked : Asked) : Prop where
  marked : asked.cache.mark = mark
  answers : asked.answers = questions.map fun question =>
    question.answer ((question.key? mark).bind (firstFound mark questions))
  entries : asked.cache.entries =
    (keys mark questions).eraseDups.map fun key => (key, firstFound mark questions key)
  calls : asked.calls = (keys mark questions).eraseDups.map fun key => .fields key.1
  lookups : asked.cache.lookups = (keys mark questions).eraseDups.length
  hits : asked.cache.lookups + asked.cache.hits = (keys mark questions).length

/-- The entry of a key is what was found for it first. -/
theorem Remembers.entry_eq (h : Remembers mark questions asked) (key : Int × String) :
    asked.cache.entry? key =
      if key ∈ keys mark questions then some (firstFound mark questions key) else none := by
  have hfind : ((keys mark questions).eraseDups.find? fun other => other == key) =
      if key ∈ keys mark questions then some key else none := by
    split
    · rename_i hmem
      have hfound : ((keys mark questions).eraseDups.find? fun other => other == key).isSome :=
        List.find?_isSome.2 ⟨key, List.mem_eraseDups.2 hmem, beq_self_eq_true key⟩
      obtain ⟨first, hfirst⟩ := Option.isSome_iff_exists.1 hfound
      have hsame : (first == key) = true := List.find?_some (p := fun other => other == key) hfirst
      rw [hfirst, eq_of_beq hsame]
    · rename_i hmem
      rw [List.find?_eq_none]
      intro other hother hsame
      exact hmem (eq_of_beq hsame ▸ List.mem_eraseDups.1 hother)
  unfold entry?
  rw [h.entries, List.find?_map]
  show ((((keys mark questions).eraseDups.find? fun other => other == key).map _).map _) = _
  rw [hfind]
  split <;> rfl

/-- Answers given earlier are still right after more questions. -/
theorem answers_append (questions later : List (Question σ)) :
    (questions ++ later).map (fun question =>
        question.answer ((question.key? mark).bind (firstFound mark (questions ++ later)))) =
      questions.map (fun question =>
        question.answer ((question.key? mark).bind (firstFound mark questions))) ++
      later.map fun question =>
        question.answer ((question.key? mark).bind (firstFound mark (questions ++ later))) := by
  rw [List.map_append]
  congr 1
  refine List.map_congr_left fun question hmem => ?_
  cases hkey : question.key? mark with
  | none => rfl
  | some key =>
      have hfirst := first_found_append (mem_keys.2 ⟨question, hmem, hkey⟩) later
      exact congrArg question.answer hfirst

/-- Entries made earlier are still right after more questions. -/
theorem entries_append (questions later : List (Question σ)) :
    ((keys mark questions).eraseDups.map fun key =>
        (key, firstFound mark (questions ++ later) key)) =
      (keys mark questions).eraseDups.map fun key => (key, firstFound mark questions key) := by
  refine List.map_congr_left fun key hmem => ?_
  rw [first_found_append (List.mem_eraseDups.1 hmem)]

/-- A key that is there already adds no distinct one. -/
theorem erase_dups_append_of_mem {keys : List (Int × String)} (h : key ∈ keys) :
    (keys ++ [key]).eraseDups = keys.eraseDups := by
  rw [List.eraseDups_append]
  simp [List.removeAll, h]

/-- A new key comes last among the distinct ones. -/
theorem erase_dups_append_of_not_mem {keys : List (Int × String)} (h : key ∉ keys) :
    (keys ++ [key]).eraseDups = keys.eraseDups ++ [key] := by
  rw [List.eraseDups_append]
  simp [List.removeAll, h, List.eraseDups_cons]

/-- One more question about no field is remembered. -/
theorem Remembers.next_of_no_key (h : Remembers mark questions asked)
    (hkey : question.key? mark = none) :
    Remembers mark (questions ++ [question]) (asked.next question) := by
  have hkeys : keys mark (questions ++ [question]) = keys mark questions := by
    simp [keys, hkey]
  rw [Asked.next_of_no_key h.marked hkey]
  refine ⟨h.marked, ?_, ?_, ?_, ?_, ?_⟩
  · rw [answers_append, h.answers, List.map_singleton, hkey]
    rfl
  · rw [hkeys, entries_append, h.entries]
  · rw [hkeys, h.calls]
  · rw [hkeys, h.lookups]
  · rw [hkeys, h.hits]

omit [Store σ] in
/-- One more question about a key adds the key. -/
theorem keys_append (hkey : question.key? mark = some key) :
    keys mark (questions ++ [question]) = keys mark questions ++ [key] := by
  simp [keys, hkey]

/-- One more question about an earlier key is remembered as a hit. -/
theorem Remembers.next_of_mem (h : Remembers mark questions asked)
    (hkey : question.key? mark = some key) (hmem : key ∈ keys mark questions) :
    Remembers mark (questions ++ [question]) (asked.next question) := by
  have herased := erase_dups_append_of_mem hmem
  have hentry := h.entry_eq key
  rw [if_pos hmem] at hentry
  rw [Asked.next_of_entry h.marked hkey hentry]
  refine ⟨h.marked, ?_, ?_, ?_, ?_, ?_⟩
  · rw [answers_append, h.answers, List.map_singleton, hkey, Option.bind_some,
      first_found_append hmem]
  · rw [keys_append hkey, herased, entries_append, h.entries]
  · rw [keys_append hkey, herased, h.calls]
  · rw [keys_append hkey, herased, h.lookups]
  · rw [keys_append hkey, List.length_append, ← h.hits]
    rfl

/-- One more question about a new key is remembered as a look-up. -/
theorem Remembers.next_of_not_mem (h : Remembers mark questions asked)
    (hkey : question.key? mark = some key) (hmem : key ∉ keys mark questions) :
    Remembers mark (questions ++ [question]) (asked.next question) := by
  have herased := erase_dups_append_of_not_mem hmem
  have hfirst := first_found_of_not_mem hmem hkey
  have hentry := h.entry_eq key
  rw [if_neg hmem] at hentry
  rw [Asked.next_of_no_entry h.marked hkey hentry]
  refine ⟨h.marked, ?_, ?_, ?_, ?_, ?_⟩
  · rw [answers_append, h.answers, List.map_singleton, hkey, Option.bind_some, hfirst]
  · rw [keys_append hkey, herased, List.map_append, entries_append, h.entries,
      List.map_singleton, hfirst]
  · rw [keys_append hkey, herased, List.map_append, h.calls, List.map_singleton]
  · rw [keys_append hkey, herased, List.length_append, ← h.lookups]
    rfl
  · rw [keys_append hkey, List.length_append, ← h.hits]
    exact Nat.add_right_comm _ _ _

/-- One more question is remembered. -/
theorem Remembers.next (h : Remembers mark questions asked) (question : Question σ) :
    Remembers mark (questions ++ [question]) (asked.next question) := by
  cases hkey : question.key? mark with
  | none => exact h.next_of_no_key hkey
  | some key =>
      by_cases hmem : key ∈ keys mark questions
      · exact h.next_of_mem hkey hmem
      · exact h.next_of_not_mem hkey hmem

/-- Questions asked of a new cache are remembered. -/
theorem remembers_ask_all (mark : String) (questions : List (Question σ)) :
    Remembers mark questions (askAll mark questions) := by
  induction questions using List.reverseRecOn with
  | nil => exact ⟨rfl, rfl, rfl, rfl, rfl, rfl⟩
  | append_singleton questions question ih =>
      have hnext : askAll mark (questions ++ [question]) = (askAll mark questions).next question :=
        List.foldl_append
      rw [hnext]
      exact ih.next question

/-- What comes of questions to a new cache, whatever the stores answer. A question is about a key if
its column type is the mark followed by a name that is not empty. It is answered by what the first
question about the key has found, a field or none. The calls on the stores are one look-up for every
distinct key, in the order in which the keys came up, so there are as many look-ups as entries;
together with the hits there are as many as questions about keys. Any other question is answered by
nothing and leaves the cache and its store as they are. -/
theorem questions_answered (mark : String) (questions : List (Question σ)) :
    (∀ (question : Question σ) (key : Int × String), question.key? mark = some key ↔
      key.1 = question.noteType ∧ key.2 ≠ "" ∧ question.columnType = mark ++ key.2) ∧
    (askAll mark questions).answers = questions.map (fun question =>
      question.answer ((question.key? mark).bind (firstFound mark questions))) ∧
    (askAll mark questions).calls =
      (questions.filterMap (Question.key? mark)).eraseDups.map (fun key => .fields key.1) ∧
    (askAll mark questions).cache.entries.map Prod.fst =
      (questions.filterMap (Question.key? mark)).eraseDups ∧
    (askAll mark questions).cache.lookups = (askAll mark questions).cache.entries.length ∧
    (askAll mark questions).cache.lookups + (askAll mark questions).cache.hits =
      questions.countP (fun question => (question.key? mark).isSome) ∧
    ∀ other : Question σ, other.key? mark = none →
      other.ask (askAll mark questions).cache =
        (other.answer none, (askAll mark questions).cache, other.store) := by
  have h := remembers_ask_all mark questions
  refine ⟨fun question key => Question.key_eq_some_iff, h.answers, h.calls, ?_, ?_, ?_, ?_⟩
  · rw [h.entries, List.map_map]
    exact List.map_id _
  · rw [h.entries, List.length_map, h.lookups]
  · rw [h.hits, ← List.length_filterMap_eq_countP]
    rfl
  · intro other hkey
    have hname : fieldName? { mark } other.columnType = none := Option.map_eq_none_iff.1 hkey
    have hname : (askAll mark questions).cache.fieldName? other.columnType = none := by
      unfold fieldName? at hname ⊢
      rwa [h.marked]
    rw [Question.ask_eq, descriptor_of_no_name hname]
    rfl

/-- Questions about a field that cannot be looked up at first, and about a column of no field. -/
def sampleQuestions : List (Question Script) :=
  [{ noteType := 1, columnType := "_field_Back", asksDirection := false,
     store := { noteTypes := [(1, none)] } },
   { noteType := 1, columnType := "noteFld", asksDirection := false, store := {} },
   { noteType := 1, columnType := "_field_Back", asksDirection := true,
     store := { noteTypes := [(1, some [{ name := "Back", rightToLeft := true }])] } }]

/-- The failure is remembered: the field is not looked up again when it is there. -/
theorem questions_answered_failed :
    (askAll "_field_" sampleQuestions).answers = [.field none, .field none, .rightToLeft false] ∧
    (askAll "_field_" sampleQuestions).calls = [.fields 1] := by
  obtain ⟨-, hanswers, hcalls, -, -, -, -⟩ := questions_answered "_field_" sampleQuestions
  rw [hanswers, hcalls]
  decide

end CardBrowser.FieldCache
