import RecordFilter.Composer.Offer
import RecordFilter.Specification

set_option autoImplicit false

namespace RecordFilter

structure Composer where
  settings : Settings := {}
  predicates : List Predicate := []
  groups : List (Connector × Specification) := []

namespace Composer

def size (composer : Composer) : Nat := composer.predicates.length

def isEmpty (composer : Composer) : Bool := composer.predicates.isEmpty && composer.groups.isEmpty

def append (composer : Composer) (predicates : List Predicate) : Composer :=
  { composer with predicates := composer.predicates ++ predicates }

def accept (composer : Composer) (offer : Offer) : Composer := composer.append (offer.predicates composer.settings)

def setDistinct (composer : Composer) (distinct : Bool) : Composer :=
  { composer with settings := composer.settings.set (.distinct distinct) }

-- An absent group changes nothing; an unrestricted one is kept, though it will not restrict anything.
def addGroup (composer : Composer) (connector : Connector) : Option Specification → Composer
  | some group => { composer with groups := composer.groups ++ [(connector, group)] }
  | none => composer

def predicateUnits (composer : Composer) : List (Connector × Specification) :=
  composer.predicates.map fun predicate =>
    (predicate.options.connector, .ofPredicate (predicate.withDistinct composer.settings.distinct))

def groupUnits (composer : Composer) : List (Connector × Specification) :=
  composer.groups.map fun group => (group.1, group.2.grouped)

def build (composer : Composer) : Specification := .ofUnits (composer.predicateUnits ++ composer.groupUnits)

end Composer

end RecordFilter
