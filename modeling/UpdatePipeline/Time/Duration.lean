set_option autoImplicit false

/-!
# Time: spans

All times are whole milliseconds: a span is a number of them, and an instant is the
span since the clock's zero.
-/

namespace UpdatePipeline

/-- A span of time in milliseconds. -/
abbrev Duration := Nat

/-- An instant, as the milliseconds since the clock's zero. -/
abbrev Instant := Nat

namespace Duration

/-- A span of whole seconds. -/
def ofSeconds (n : Nat) : Duration := n * 1000

/-- The thousandths of a second behind the point, without closing zeros. -/
def fractionText (thousandths : Nat) : String :=
  if thousandths = 0 then ""
  else if thousandths % 100 = 0 then s!".{thousandths / 100}"
  else if thousandths % 10 = 0 then s!".{thousandths / 100}{thousandths / 10 % 10}"
  else s!".{thousandths / 100}{thousandths / 10 % 10}{thousandths % 10}"

/-- The span as it is shown: in seconds from one second on, else in milliseconds,
and nothing at all in nanoseconds. -/
def text (d : Duration) : String :=
  if d = 0 then "0ns"
  else if d < 1000 then s!"{d}ms"
  else s!"{d / 1000}{fractionText (d % 1000)}s"

end Duration

end UpdatePipeline
