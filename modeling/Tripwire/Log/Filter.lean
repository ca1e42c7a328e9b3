/-
Which records are shown.

A filter is written as directives with commas between.  Of those that are about a
record, the highest decides about it; of two with the same target and field the
later one is kept.

A filter in the environment counts only if all of its parts are directives.  The
one in the settings does without the parts that are none, and there is a remark
about each of these.  If it has no directives at all, errors pass.
-/
import Tripwire.Log.Directive

namespace Tripwire

/-- The rules that decide about records, the highest first. -/
structure Filter where
  directives : List Directive
  deriving Repr

namespace Filter

/-- The filter of some directives. -/
def ofDirectives (ds : List Directive) : Filter :=
  ⟨(ds.filter (!·.inSpan)).foldl (fun sorted d => d.insert sorted) []⟩

/-- The filter that lets only errors pass. -/
def onlyErrors : Filter := ⟨[{ rank := Level.error.rank }]⟩

/-- The parts of a text that are directives or should be. -/
def parts (text : String) : List String := (text.splitOn ",").filter (· ≠ "")

/-- The filter that a text spells, if all of its parts are directives. -/
def read? (text : String) : Option Filter :=
  ((parts text).mapM fun part => (Directive.read part).toOption).map ofDirectives

/-- The filter that a text spells, without the parts that are no directives. -/
def readLenient (text : String) : Filter :=
  match (parts text).filterMap fun part => (Directive.read part).toOption with
  | [] => onlyErrors
  | ds => ofDirectives ds

/-- A remark about each part of a text that is no directive. -/
def remarks (text : String) : List String :=
  (parts text).filterMap fun part =>
    match Directive.read part with
    | .ok _ => none
    | .error e => some ("ignoring \x60" ++ part ++ "\x60: " ++ e.message)

/-- The filter that the environment names, or else the one of the settings, and what is remarked
about it. -/
def choose (environment : Option String) (settings : String) : Filter × List String :=
  match environment.bind read? with
  | some filter => (filter, [])
  | none => (readLenient settings, remarks settings)

/-- The record is shown. -/
def passes (f : Filter) (r : Record) : Bool :=
  match f.directives.find? (·.covers r) with
  | some d => r.level.rank ≤ d.rank
  | none => false

end Filter

end Tripwire
