import BoxOffice.Decimal.Shortest
import BoxOffice.Metrics.Tally

/-! # The exposition

The tally as a monitoring system scrapes it: a family of lines for each metric that was ever
recorded. A family is described only if the descriptions were made while a recorder was there to
take them.
-/

namespace BoxOffice.Metrics

inductive Kind where
  | counter
  | gauge
  | histogram
  deriving Repr, DecidableEq

def Kind.name : Kind → Text
  | .counter => "counter"
  | .gauge => "gauge"
  | .histogram => "histogram"

/-- One metric: what it is called and the lines of its values, each with the ending of the name. -/
structure Family where
  name : Text
  kind : Kind
  description : Text
  values : List (Text × Text)
  deriving Repr, DecidableEq

def Family.lines (described : Bool) (f : Family) : List Text :=
  (if described then ["# HELP ".toList ++ f.name ++ [' '] ++ f.description] else []) ++
    ("# TYPE " ++ f.name ++ [' '] ++ f.kind.name) ::
      f.values.map fun (ending, value) => f.name ++ ending ++ [' '] ++ value

/-- The upper bounds of the buckets for durations in seconds: their text and their value. -/
def bucketBounds : List (Text × Float) :=
  [("0.00001", 0.00001), ("0.00005", 0.00005), ("0.0001", 0.0001), ("0.0005", 0.0005),
    ("0.001", 0.001), ("0.005", 0.005), ("0.01", 0.01), ("0.05", 0.05), ("0.1", 0.1), ("0.5", 0.5)]

/-- Nanoseconds as seconds: the whole seconds plus the rest, each rounded to binary64. -/
def seconds (nanoseconds : Nat) : Float :=
  Float.ofNat (nanoseconds / 1000000000) + Float.ofNat (nanoseconds % 1000000000) / 1000000000.0

def batchSize : Nat := 64

/-- A list in batches, first to last. Only the last batch may be short. -/
def batches : List α → List (List α)
  | [] => []
  | first :: rest => (first :: rest.take (batchSize - 1)) :: batches (rest.drop (batchSize - 1))
termination_by items => items.length
decreasing_by simp only [List.length_drop, List.length_cons]; omega

/-- Batches neither lose nor reorder anything. -/
theorem flatten_batches (items : List α) : (batches items).flatten = items := by
  fun_induction batches items with
  | case1 => rfl
  | case2 first rest ih => rw [List.flatten_cons, ih, List.cons_append, List.take_append_drop]

def sum (durations : List Float) : Float := durations.foldl (· + ·) 0

/-- The sum of all durations: each batch is added up by itself, and the sums of the batches from the
    newest batch to the oldest. The order matters, for every sum is rounded. -/
def total (durations : List Float) : Float := sum ((batches durations).reverse.map sum)

/-- A family with one value, if the value was recorded. -/
def single (name : Text) (kind : Kind) (description : Text) (value : Option Text) : List Family :=
  match value with
  | some value => [⟨name, kind, description, [([], value)]⟩]
  | none => []

def counterText (n : Nat) : Text := Text.ofNat (n % UInt64.size)

/-- A counter that is recorded whenever it grows. -/
def counter (name description : Text) (n : Nat) : List Family :=
  single name .counter description (if n = 0 then none else some (counterText n))

/-- The buckets and the sum of the known durations. A bucket counts every duration up to its
    bound. -/
def timings (durations : List Nat) : List (Text × Text) :=
  let durations := durations.map seconds
  let bucket (bound : Text) (n : Nat) : Text × Text :=
    ("_bucket\x7ble=\"" ++ bound ++ "\"\x7d", Text.ofNat n)
  (bucketBounds.map fun (text, bound) => bucket text (durations.countP (· ≤ bound))) ++
    [bucket "+Inf" durations.length,
      ("_sum".toList, Decimal.shortest (total durations))]

/-- The durations of dispatches, with or without what depends on how long they were. -/
def dispatchFamily (t : Tally) (timed : Bool) : List Family :=
  if t.dispatches = 0 then []
  else
    [{ name := "cinema_dispatch_duration_seconds"
       kind := .histogram
       description := "Time taken to dispatch one inbound message"
       values :=
         (if timed then timings t.durations else []) ++
           [("_count".toList, counterText t.dispatches)] }]

def families (t : Tally) (timed : Bool) : List Family :=
  counter "cinema_bookings_rejected_total" "Total number of booking requests rejected" t.refused ++
  counter "cinema_bookings_succeeded_total"
    "Total number of booking requests that reserved seats" t.granted ++
  single "cinema_broadcast_recipients_total" .counter
    "Total number of update frames enqueued by broadcasts"
    (if t.broadcasts = 0 then none else some (counterText t.recipients)) ++
  counter "cinema_broadcasts_total" "Total number of update broadcasts" t.broadcasts ++
  dispatchFamily t timed ++
  counter "cinema_session_write_errors_total"
    "Total number of failed writes to a session transport" t.writeFailures ++
  single "cinema_sessions_active" .gauge "Number of sessions currently registered"
    (t.active.map fun n => Decimal.shortest (Float.ofNat n)) ++
  counter "cinema_sessions_connected_total"
    "Total number of sessions that became active" t.connected ++
  counter "cinema_sessions_disconnected_total"
    "Total number of sessions removed from the registry" t.disconnected

/-- The recorder that the whole process shares. -/
structure Recorder where
  installed : Bool
  /-- Whether the metrics were described while it was installed. -/
  described : Bool
  tally : Tally
  deriving Repr, DecidableEq

namespace Recorder

/-- No recorder is installed, and nothing is kept. -/
def absent : Recorder := ⟨false, false, .zero⟩

/-- Describe the metrics and install the recorder; whether this call installed it. Only the first
    one does, and its own descriptions come too early to be kept. -/
def start (r : Recorder) : Bool × Recorder :=
  if r.installed then (false, { r with described := true })
  else (true, { r with installed := true })

/-- Start so many times; what each start came to. -/
def startTimes (r : Recorder) : Nat → List Bool × Recorder
  | 0 => ([], r)
  | times + 1 =>
      let (first, r) := r.start
      let (rest, r) := r.startTimes times
      (first :: rest, r)

/-- Let the tally change. Without a recorder the change is lost. -/
def keep (r : Recorder) (tally : Tally) : Recorder := if r.installed then { r with tally } else r

/-- The blocks of lines that are served, one for each family. -/
def blocks (r : Recorder) (timed : Bool) : List (List Text) :=
  (families r.tally timed).map (Family.lines r.described)

end Recorder

end BoxOffice.Metrics
