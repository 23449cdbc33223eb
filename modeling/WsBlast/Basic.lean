import Mathlib

/-!
# Time, bytes and JSON

What every module of the model shares. A `Duration` and an `Instant` are
counts of nanoseconds, as `std::time` keeps them, and seconds are exact
rationals: the program divides durations as `f64` only to report rates and
to interpolate, never to decide what is counted where.

JSON values are the program's own type `Json`; the text form belongs to
`serde_json`, which is outside the program, so the functions that read and
write it are a parameter (`Serde`) of whatever uses them.

What is *not* shared is on purpose small. A quantity of the program that is a
machine integer is a natural number here, and the place that can overflow says
so: an operation that saturates applies `saturate`, one that wraps has its own
definition beside it.
-/

namespace WsBlast

/-- A length of time, in nanoseconds. `std::time::Duration` keeps seconds and
nanoseconds apart; the number is the same. -/
abbrev Duration := ℕ

/-- A moment of the monotonic clock, in nanoseconds since some moment that no
result depends on. The difference of two instants is a `Duration`. -/
abbrev Instant := ℕ

/-- A byte string: what is read from and written to a socket or a file. -/
abbrev Bytes := List UInt8

/-- The largest `usize`, on the 64-bit targets the program is built for. -/
def usizeMax : ℕ := 2 ^ 64 - 1

/-- The result of a saturating `usize` operation whose exact result is
`n`. -/
def saturate (n : ℕ) : ℕ := min n usizeMax

namespace Duration

/-- A whole number of seconds. -/
def ofSecs (n : ℕ) : Duration := n * 1000000000

/-- A whole number of milliseconds. -/
def ofMillis (n : ℕ) : Duration := n * 1000000

/-- The duration in seconds, exactly. The source takes it as an `f64`, whose
rounding the model leaves out. -/
def asSecs (d : Duration) : ℚ := (d : ℚ) / 1000000000

/-- The duration in whole microseconds, rounded down as `as_micros` does.
Latencies are recorded in this unit. -/
def asMicros (d : Duration) : ℕ := d / 1000

theorem asSecs_lt_asSecs {a b : Duration} : asSecs a < asSecs b ↔ a < b := by
  unfold asSecs
  rw [div_lt_div_iff_of_pos_right (by norm_num), Nat.cast_lt]

/-- Seconds divide as nanoseconds do. -/
theorem asSecs_div_asSecs (a b : Duration) : asSecs a / asSecs b = (a : ℚ) / b := by
  unfold asSecs
  rw [div_div_div_cancel_right₀ (by norm_num)]

end Duration

/-- A JSON value. A number is kept as the text it is written as, which is all
that the program needs of it; the fields of an object are in the order the
library iterates over them. -/
inductive Json where
  | null
  | bool (value : Bool)
  | number (text : String)
  | string (text : String)
  | array (items : List Json)
  | object (fields : List (String × Json))

/-- What the program uses of `serde_json`: reading a text, and the text of a
value. -/
structure Serde where
  /-- The value of a JSON text. -/
  fromStr : String → Option Json
  /-- The text of a value. -/
  toText : Json → String
  /-- Whether a text is JSON, read without keeping its value. -/
  isJson : String → Bool := fun text => (fromStr text).isSome

end WsBlast
