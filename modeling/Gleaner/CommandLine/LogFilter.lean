import Gleaner.Session
import Gleaner.Text.Blank

set_option autoImplicit false

/-! # Filters for reports

A filter is a list of directives with commas between them. A directive gives a level, and perhaps the
sources that it is for: all whose names start like its own. For a report, the directive with the longest
such name decides, the last one of several for one name; the report is shown if its level matters at least
as much. Directives that are for certain stretches of a run only never apply here, as no such stretches are
marked. -/

namespace Gleaner

/-- One part of a filter. -/
structure LogFilter.Directive where
  /-- How the sources start; empty for all sources. -/
  source : List Char
  /-- The rank of the last level that is shown. -/
  rank : Nat
  /-- Holds only within marked stretches. -/
  isPartial : Bool := false
  deriving DecidableEq, Repr

/-- What is shown. -/
abbrev LogFilter := List LogFilter.Directive

namespace LogFilter

/-- The rank of a level, by its name in any letter case or by its number. -/
def rank? (cs : List Char) : Option Nat :=
  match Text.lower (String.ofList cs) with
  | "off" | "0" => some 0
  | "error" | "1" => some 1
  | "warn" | "2" => some 2
  | "info" | "3" => some 3
  | "debug" | "4" => some 4
  | "trace" | "5" => some 5
  | _ => none

/-- The rank of everything. -/
def allRanks : Nat := LogLevel.trace.rank

/-- The characters of sources. -/
def isSourceChar (c : Char) : Bool :=
  Text.isAsciiAlpha c || Text.isAsciiDigit c || "_:-".contains c || 0x7F < c.toNat

/-- The level at the end of a directive: everything, unless there is one. -/
def endRank? : List Char → Option Nat
  | [] | ['='] => some allRanks
  | '=' :: level => rank? level
  | _ => none

/-- The directive that a text is. -/
def directive? (cs : List Char) : Option Directive :=
  match rank? cs with
  | some rank => some ⟨[], rank, false⟩
  | none =>
    let source := cs.takeWhile isSourceChar
    match cs.dropWhile isSourceChar with
    | '[' :: stretch => do
      let (_, rest) ← Text.cut? ']' stretch
      some ⟨source, ← endRank? rest, true⟩
    | rest => if source.isEmpty then none else (endRank? rest).map fun rank => ⟨source, rank, false⟩

/-- The filter that a text is. A text without directives shows errors only. -/
def read? (s : String) : Option LogFilter := do
  let directives ← ((Text.pieces ',' s.toList).filter (· ≠ [])).mapM directive?
  some (if directives.isEmpty then [⟨[], LogLevel.error.rank, false⟩] else directives)

/-- The filter unless another one is set. -/
def default : LogFilter := [⟨"rule_crawler".toList, LogLevel.info.rank, false⟩]

/-- The filter that a variable sets. -/
def ofVariable (value : Option String) : LogFilter := (value.bind read?).getD default

/-- The directive that decides about a source. -/
def deciding? (filter : LogFilter) (source : List Char) : Option Directive :=
  filter.foldl (fun best d =>
    if d.isPartial || (Text.afterLead? d.source source).isNone then best
    else match best with
      | some b => if b.source.length ≤ d.source.length then some d else best
      | none => some d) none

/-- A report is shown. -/
def shows (filter : LogFilter) (e : LogEntry) : Bool :=
  match deciding? filter e.source.toList with
  | some d => e.level.rank ≤ d.rank
  | none => false

end LogFilter

end Gleaner
