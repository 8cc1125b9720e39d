import Charwise.Parser

/-!
# Sessions

A session moves a cursor about in one of two sources, step by step. Places can be saved and returned
to, and places are only comparable if they are in the same source, whatever the sources contain.
-/

namespace Charwise

variable {kind : UnitKind}

/-- The two sources of a session. -/
inductive Side where
  | first
  | second
  deriving DecidableEq

/-- A place in one of two sources. -/
structure Place (sources : Side → List (CodeUnit kind)) where
  /-- The source that the place is in. -/
  side : Side
  /-- The place in that source. -/
  cursor : Cursor (sources side)

namespace Place

variable {sources : Side → List (CodeUnit kind)}

/-- Whether two places are the same. Sources are told apart by address and length, and the two of a
session are taken to be distinct slices in this sense; two empty ones may not be. -/
def same (a b : Place sources) : Bool :=
  a.side == b.side && a.cursor.position == b.cursor.position

/-- The order of two places, if they are in the same source. As for `same`, the two sources are
taken to be distinct slices by address and length, which two empty ones may not be. -/
def order? (a b : Place sources) : Option Ordering :=
  if a.side = b.side then some (compare a.cursor.position b.cursor.position) else none

end Place

namespace Session

/-- A step of a session. -/
inductive Step (kind : UnitKind) where
  /-- Go to the start of a source. -/
  | start (side : Side)
  /-- Go one unit further. -/
  | next
  /-- Go one unit further unless that is the end. -/
  | tryNext
  /-- Read the unit at the place. -/
  | value
  /-- Read the units from the place on. -/
  | remaining
  /-- Read the whole source. -/
  | source
  /-- Ask for the length of the source and the position. -/
  | extent
  /-- Save the place in a slot. -/
  | save (slot : String)
  /-- Return to the place in a slot. -/
  | load (slot : String)
  /-- Compare the place with the one in a slot. -/
  | compare (slot : String)
  /-- Run a parser. -/
  | parse (parser : Parser kind)
  /-- Repeat a parser. -/
  | repeated (parser : Parser kind)
  /-- Skip what a parser takes. -/
  | skip (skipper : Parser kind)

/-- The answer to a step. -/
inductive Answer (kind : UnitKind) where
  | done
  | unit (unit : CodeUnit kind)
  | units (units : List (CodeUnit kind))
  | extent (length position : Nat)
  | comparison (same : Bool) (order : Option Ordering)
  | found (value : Attribute kind)
  | allFound (values : List (Attribute kind))
  | failed (error : ParseError kind)
  | emptySlot

/-- The state of a session: the current place and the saved ones, the latest first. -/
structure State (sources : Side → List (CodeUnit kind)) where
  /-- The current place. -/
  current : Place sources
  /-- The slots with their places. -/
  saved : List (String × Place sources)

namespace State

variable {sources : Side → List (CodeUnit kind)}

/-- A session begins at the start of the first source. -/
def initial (sources : Side → List (CodeUnit kind)) : State sources :=
  ⟨⟨.first, .start _⟩, []⟩

/-- The state with the cursor at another place of the current source. -/
def moved (state : State sources) (cursor : Cursor (sources state.current.side)) :
    State sources :=
  { state with current := ⟨state.current.side, cursor⟩ }

/-- Take a step. A step that fails leaves the state as it is. -/
def perform (state : State sources) : Step kind → Answer kind × State sources
  | .start side => (.done, { state with current := ⟨side, .start _⟩ })
  | .next => (.done, state.moved state.current.cursor.next)
  | .tryNext =>
    match state.current.cursor.tryNext with
    | .ok next => (.done, state.moved next)
    | .error error => (.failed error, state)
  | .value =>
    match state.current.cursor.value with
    | .ok unit => (.unit unit, state)
    | .error error => (.failed error, state)
  | .remaining => (.units state.current.cursor.remaining, state)
  | .source => (.units (sources state.current.side), state)
  | .extent =>
    (.extent (sources state.current.side).length state.current.cursor.position, state)
  | .save slot => (.done, { state with saved := (slot, state.current) :: state.saved })
  | .load slot =>
    match state.saved.lookup slot with
    | some place => (.done, { state with current := place })
    | none => (.emptySlot, state)
  | .compare slot =>
    match state.saved.lookup slot with
    | some place =>
      (.comparison (state.current.same place) (state.current.order? place), state)
    | none => (.emptySlot, state)
  | .parse parser =>
    match parser.parseAt state.current.cursor with
    | .ok (value, next) => (.found value, state.moved next)
    | .error error => (.failed error, state)
  | .repeated parser =>
    let (values, last) := parser.repeatAt state.current.cursor
    (.allFound values, state.moved last)
  | .skip skipper => (.done, state.moved (skipper.skip state.current.cursor))

/-- Take steps in order. Each answer comes with the state after its step. -/
def run (state : State sources) : List (Step kind) → List (Answer kind × State sources)
  | [] => []
  | step :: later =>
    let taken := state.perform step
    taken :: run taken.2 later

end State

end Session

end Charwise
