import CardBrowser.Store.Basic

/-!
# The cache of field descriptors

A column whose type is a mark followed by a name shows the field of that name. The cache keeps the
descriptor of every field that was asked for, by note type and name, and also that there is none.
-/

namespace CardBrowser

/-- The descriptors that have been looked up. -/
structure FieldCache where
  /-- What the types of field columns begin with. -/
  mark : String
  entries : List ((Int × String) × Option Field) := []
  /-- How many times the store has been asked. -/
  lookups : Nat := 0
  /-- How many times an entry was there already. -/
  hits : Nat := 0

namespace FieldCache

/-- The characters after a beginning, if that is the beginning. -/
def after? : List Char → List Char → Option (List Char)
  | [], text => some text
  | _ :: _, [] => none
  | c :: start, d :: rest => if c = d then after? start rest else none

/-- The name of the field that a column shows. The mark alone names no field. -/
def fieldName? (cache : FieldCache) (columnType : String) : Option String :=
  match after? cache.mark.toList columnType.toList with
  | some (c :: rest) => some (String.ofList (c :: rest))
  | _ => none

/-- The entry of a key. -/
def entry? (cache : FieldCache) (key : Int × String) : Option (Option Field) :=
  (cache.entries.find? fun entry => entry.1 == key).map Prod.snd

/-- The field of that name in the answer of a store; a failure counts as no field. -/
def pick (name : String) : Except StoreError (Option (List Field)) → Option Field
  | .ok (some fields) => fields.find? fun field => field.name == name
  | _ => none

/-- The descriptor of the field that a column shows for a note type, from the cache or else from
the store. A column that shows no field touches neither. -/
def descriptor {σ : Type} [Store σ] (cache : FieldCache) (noteType : Int) (columnType : String)
    (store : σ) : Option Field × FieldCache × σ :=
  match cache.fieldName? columnType with
  | none => (none, cache, store)
  | some name =>
    match cache.entry? (noteType, name) with
    | some found => (found, { cache with hits := cache.hits + 1 }, store)
    | none =>
      let (answer, store) := Store.fields noteType store
      let found := pick name answer
      (found,
       { cache with
         entries := cache.entries ++ [((noteType, name), found)]
         lookups := cache.lookups + 1 },
       store)

/-- Whether the field that a column shows for a note type is written from right to left. -/
def isRightToLeft {σ : Type} [Store σ] (cache : FieldCache) (noteType : Int) (columnType : String)
    (store : σ) : Bool × FieldCache × σ :=
  let (field, cache, store) := cache.descriptor noteType columnType store
  (field.any (·.rightToLeft), cache, store)

end FieldCache

end CardBrowser
