import ReplDriver.Terminal.Control

/-!
# Captured output

While an exchange is open, every chunk of output is recorded, and the last terminal line is kept
up to date: the last line of the output that still shows something. A line from which the cursor
went up again shows nothing, and carriage returns at its end do not count.

* `Capture.output_feed`: the output grows by exactly the chunk.
-/

namespace ReplDriver

open Terminal

/-- A line as the terminal shows it: without carriage returns at its end, and empty if the cursor
has left it. -/
def Terminal.shownLine (line : Text) : Text :=
  let line := Text.dropRightWhile (· == '\r') line
  if endsWithCursorUp line then [] else line

/-- The later of two lines that shows something. -/
def Terminal.laterLine (earlier line : Text) : Text :=
  if (shownLine line).isEmpty then earlier else shownLine line

/-- What an exchange has recorded. `unfinished` is the line that has no end yet, `complete` the
last line before it that shows something. -/
structure Capture where
  chunks : List Text
  live : Bool
  unfinished : Text
  complete : Text
deriving DecidableEq, Repr

namespace Capture

/-- Nothing has been recorded. -/
def empty : Capture := ⟨[], false, [], []⟩

/-- Everything recorded. -/
def output (c : Capture) : Text := c.chunks.flatten

/-- The last line that shows something. -/
def lastLine (c : Capture) : Text := laterLine c.complete c.unfinished

/-- Records newly arrived output. -/
def feed (c : Capture) (chunk : Text) : Capture :=
  let lines := Text.splitOn '\n' (c.unfinished ++ chunk)
  { chunks := c.chunks ++ [chunk]
    live := true
    unfinished := lines.getLastD []
    complete := lines.dropLast.foldl laterLine c.complete }

/-- Forgets that output has arrived, so that the next arrival shows. -/
def quiet (c : Capture) : Capture := { c with live := false }

@[simp] theorem output_empty : empty.output = [] := rfl

@[simp] theorem output_feed (c : Capture) (chunk : Text) :
    (c.feed chunk).output = c.output ++ chunk := by
  simp [feed, output]

@[simp] theorem output_quiet (c : Capture) : c.quiet.output = c.output := rfl

end Capture

end ReplDriver
