import CardBrowser.Column.Builtin
import CardBrowser.Column.Registry

/-!
# Columns on offer

A browser offers built-in and custom columns, and a custom column hides the built-in one of its
type. A column can be hidden while the browser is open. Hidden built-in columns are kept, because
they belong to the host program, which gets them back; hidden custom columns are not.
-/

namespace CardBrowser

/-- The columns on offer, and the built-in ones that have been hidden, the earliest first. -/
structure Offer where
  registry : Registry
  builtins : BuiltinColumns
  removed : List BuiltinColumn := []

namespace Offer

/-- Whether there is a column of the type. -/
def knows (offer : Offer) (type : String) : Bool :=
  offer.builtins.contains type || offer.registry.contains type

/-- Hides the custom and the built-in column of a type; none if there is neither. -/
def hide (offer : Offer) (type : String) : Option Offer :=
  let registry := (offer.registry.unregister type).toOption.map Prod.snd
  let builtin := offer.builtins.remove type
  if registry.isNone && builtin.isNone then none
  else some
    { registry := registry.getD offer.registry
      builtins := (builtin.map Prod.snd).getD offer.builtins
      removed := offer.removed ++ (builtin.map Prod.fst).toList }

/-- Hides a list of columns. A column that is protected or not there is passed over. -/
def hideAll (isProtected : String) (types : List String) (offer : Offer) : Offer :=
  types.foldl
    (fun offer type => if type = isProtected then offer else (offer.hide type).getD offer) offer

end Offer

end CardBrowser
