import Charwise.CodeUnit.Widening
import Charwise.Parser

/-!
# Grammars

A grammar is a parser that is written down without an encoding. It uses only the classes that every
encoding has, so any encoding of its kind of units makes a parser of it, and its units may be moved
to a wider kind.
-/

namespace Charwise

/-- A matcher without an encoding. -/
inductive Pattern (kind : UnitKind) where
  /-- Every unit. -/
  | any
  /-- A single unit. -/
  | literal (unit : CodeUnit kind)
  /-- The units from the first to the last, both included. -/
  | range (first last : CodeUnit kind)
  /-- The units of a set, given by its definition. -/
  | set (definition : List (CodeUnit kind))
  /-- The units of a basic class, whatever the encoding takes it to be. -/
  | basic (c : BasicClass)
  /-- The units that another pattern rejects. -/
  | negated (subject : Pattern kind)

/-- A parser without an encoding. -/
inductive Grammar (kind : UnitKind) where
  /-- One unit of a pattern. -/
  | unit (pattern : Pattern kind)
  /-- A grammar after everything that a skipper takes. -/
  | skipping (subject skipper : Grammar kind)
  /-- A grammar that reports nothing. -/
  | omitting (subject : Grammar kind)
  /-- The grammar that consumes nothing. -/
  | nothing
  /-- The grammar that goes back to the start of the source. -/
  | restart
  /-- Two grammars in turn. -/
  | both (first second : Grammar kind)
  /-- A grammar, or another one from the same place if it fails. -/
  | either (first second : Grammar kind)

namespace Pattern

/-- The matcher that an encoding makes of a pattern. -/
def under (e : Encoding) : Pattern e.kind → Matcher e.kind
  | any => .any
  | literal unit => .literal unit
  | range first last => .range first last
  | set definition => .set definition
  | basic c => .ofClass (e.ofBasic c)
  | negated subject => .negated (subject.under e)

/-- The pattern with all its units in a wider kind. -/
def widen {kind wider : UnitKind} (within : kind.Within wider) : Pattern kind → Pattern wider
  | any => any
  | literal unit => literal (unit.widen within)
  | range first last => range (first.widen within) (last.widen within)
  | set definition => set (definition.map (CodeUnit.widen within))
  | basic c => basic c
  | negated subject => negated (subject.widen within)

end Pattern

namespace Grammar

/-- The parser that an encoding makes of a grammar. -/
def under (e : Encoding) : Grammar e.kind → Parser e.kind
  | unit pattern => .unit (pattern.under e)
  | skipping subject skipper => .skipping (subject.under e) (skipper.under e)
  | omitting subject => .omitting (subject.under e)
  | nothing => .nothing
  | restart => .restart
  | both first second => .both (first.under e) (second.under e)
  | either first second => .either (first.under e) (second.under e)

/-- The grammar with all its units in a wider kind. -/
def widen {kind wider : UnitKind} (within : kind.Within wider) : Grammar kind → Grammar wider
  | unit pattern => unit (pattern.widen within)
  | skipping subject skipper => skipping (subject.widen within) (skipper.widen within)
  | omitting subject => omitting (subject.widen within)
  | nothing => nothing
  | restart => restart
  | both first second => both (first.widen within) (second.widen within)
  | either first second => either (first.widen within) (second.widen within)

end Grammar

end Charwise
