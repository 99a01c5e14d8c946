import PocketCalculator.Character.Alphanumeric
import PocketCalculator.Journal.Filter

/-!
# Levels for targets

The calculator does not depend on how settings are read.  The settings read here give levels
to targets, and other settings, with spans or fields, are refused.  A setting is a list of
directives separated by commas.  A directive sets the level of the targets that begin with a
text, or of every target.  Of the directives that apply to a target, the one with the longest
text decides, and of several such the last.

Main definitions:

- {lit}`Directive.read?` reads one directive.
- {lit}`Directive.readAll?` reads a setting.
- {lit}`Filter.ofDirectives` is the filter that follows directives.
- {lit}`Filter.read` reads a setting that may be absent.

Main results:

- Theorems {lit}`Filter.showsDetails_ofDirectives` and
  {lit}`Filter.hidesDetails_ofDirectives`: which directives show and hide details.
-/

namespace PocketCalculator

/-! ## Directives -/

/-- Sets the level of all targets that begin with a text; the empty text sets it for
every target. -/
structure Directive where
  target : Text
  level : Level
deriving DecidableEq, Repr

/-- The pieces of a text between the copies of a character. -/
def splitOnChar (separator : Char) : Text → List Text
  | [] => [[]]
  | c :: text =>
    if c = separator then [] :: splitOnChar separator text
    else match splitOnChar separator text with
      | [] => [[c]]
      | piece :: pieces => (c :: piece) :: pieces

namespace Directive

/-- Whether a directive can begin with a character. -/
def canBegin (c : Char) : Bool := isAlphanumeric c || c ∈ "-:_".toList

/-- Reads a directive: a level, a target, or both joined by an equals sign.  A
target without a level is shown entirely.  A bracket opens a span, which is not read. -/
def read? : Text → Option Directive
  | [] => none
  | first :: more =>
    let text := first :: more
    if !canBegin first || text.contains '[' then none
    else
      let target := text.takeWhile (· != '=')
      match text.dropWhile (· != '=') with
      | [] =>
        match Level.read? text with
        | some level => some ⟨[], level⟩
        | none => some ⟨text, .trace⟩
      | [_] => some ⟨target, .trace⟩
      | _ :: level => (Level.read? level).map fun level => ⟨target, level⟩

/-- Reads a setting.  One without any directive asks for errors only. -/
def readAll? (setting : Text) : Option (List Directive) :=
  (((splitOnChar ',' setting).filter (!·.isEmpty)).mapM read?).map fun directives =>
    if directives.isEmpty then [⟨[], .error⟩] else directives

/-- Whether a directive applies to a target. -/
def appliesTo (directive : Directive) (target : Text) : Bool :=
  directive.target.isPrefixOf target

/-- The more specific of two directives, the second one of two equally specific
ones. -/
def moreSpecific (first second : Directive) : Directive :=
  if first.target.length ≤ second.target.length then second else first

/-- The level up to which the records of a target are shown. -/
def levelOf (directives : List Directive) (target : Text) : Level :=
  ((directives.filter (·.appliesTo target)).foldl moreSpecific ⟨[], .off⟩).level

end Directive

/-! ## Filters of directives -/

namespace Filter

/-- The filter that follows directives. -/
def ofDirectives (directives : List Directive) : Filter where
  shows site := (Directive.levelOf directives site.target).shows site.level

/-- Reads a setting that may be absent. -/
def read (setting : Option Text) : Filter :=
  installed (fun text => (Directive.readAll? text).map ofDirectives) setting

variable {directives : List Directive}

@[simp] theorem shows_ofDirectives (site : CallSite) :
    (ofDirectives directives).shows site =
      (Directive.levelOf directives site.target).shows site.level := rfl

/-- Directives show details exactly if they set the level for both of their targets. -/
theorem showsDetails_ofDirectives :
    (ofDirectives directives).ShowsDetails ↔
      ∀ target ∈ detailTargets, (Directive.levelOf directives target).shows .debug = true := by
  constructor
  · intro h target htarget
    exact h ⟨target, .debug, []⟩ htarget rfl
  · intro h site htarget hlevel
    rw [shows_ofDirectives, hlevel]
    exact h site.target htarget

/-- Directives hide details exactly if they set a lower level for both of their targets. -/
theorem hidesDetails_ofDirectives :
    (ofDirectives directives).HidesDetails ↔
      ∀ target ∈ detailTargets, (Directive.levelOf directives target).shows .debug = false := by
  constructor
  · intro h target htarget
    exact h ⟨target, .debug, []⟩ htarget rfl
  · intro h site htarget hlevel
    rw [shows_ofDirectives, hlevel]
    exact h site.target htarget

end Filter

end PocketCalculator
