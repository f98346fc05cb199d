import BoxOffice.Snapshot.Rendering
import BoxOffice.Text.Blank
import BoxOffice.Text.Line

/-! # Reading a snapshot

A reader goes through the lines of any text and keeps the shows it can make out. It is lenient:
unknown lines, movie lines without a date, tokens that are no numbers and numbers that name no seat
are passed over. A show has every seat free until an availability line tells otherwise.
-/

namespace BoxOffice.Snapshot

/-- What has been made out so far. -/
structure Reader where
  /-- The theater of the lines to come; none before the first theater line and after a theater
      line with an empty name. -/
  theater : Option Text
  /-- Whether an availability line now speaks of the newest show. -/
  speaksOfNewest : Bool
  /-- The shows, newest first. -/
  shows : List Show
  deriving Repr, DecidableEq

/-- The title and the date of a movie line: the title ends at the first ` (`, the date at the first
    closing bracket after it. A date is not empty. -/
def titleAndDate? (rest : Text) : Option (Text × Text) :=
  match Text.cut? " (" rest with
  | none => none
  | some (title, dated) =>
      match Text.cut? ")" dated with
      | none => none
      | some (date, _) => if date.isEmpty then none else some (title, date)

/-- The tokens of an availability line: what stands between its first colon and the total, split at
    blanks and commas. -/
def seatTokens (line : Text) : List Text :=
  let list := match Text.cut? ":" line with
    | some (_, list) => list
    | none => []
  let list := match Text.cut? totalMark list with
    | some (list, _) => list
    | none => list
  Text.words (list.map fun c => if c = ',' then ' ' else c)

/-- The plan an availability line tells: every seat is booked but those it lists. -/
def planOfLine (line : Text) : SeatPlan :=
  SeatPlan.full.releaseAll
    ((seatTokens line).filterMap fun token => (Text.unsigned? 255 token).map UInt8.ofNat)

namespace Reader

def start : Reader := ⟨none, false, []⟩

def enterTheater (r : Reader) (theater : Text) : Reader :=
  { r with theater := if theater.isEmpty then none else some theater, speaksOfNewest := false }

/-- Take in a movie line. One that names no show leaves everything as it is. -/
def addShow (r : Reader) (rest : Text) : Reader :=
  match r.theater, titleAndDate? rest with
  | some theater, some (movie, date) =>
      { r with
        speaksOfNewest := true
        shows := ⟨theater, movie, date, .free⟩ :: r.shows }
  | _, _ => r

def setSeats (r : Reader) (line : Text) : Reader :=
  match r.speaksOfNewest, r.shows with
  | true, newest :: older => { r with shows := { newest with seats := planOfLine line } :: older }
  | _, _ => r

/-- Take in one line of whatever sort. -/
def readLine (r : Reader) (line : Text) : Reader :=
  match Text.after? theaterMark line with
  | some theater => r.enterTheater theater
  | none =>
      match Text.after? movieMark line with
      | some rest => r.addShow rest
      | none => if Text.has line seatsMark then r.setSeats line else r

def readLines (r : Reader) (lines : List Text) : Reader := lines.foldl readLine r

end Reader

/-- The shows a text tells of, in its order. -/
def parse (text : Text) : List Show := (Reader.start.readLines text.lines).shows.reverse

end BoxOffice.Snapshot
