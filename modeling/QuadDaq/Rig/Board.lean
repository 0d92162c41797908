import QuadDaq.Board.Scripted
import QuadDaq.Board.Simulated

/-!
# The rigged board

A scripted or simulated board whose next reads, selections and switches can be made
to fail one by one, and whose button follows a list of levels. It stands between
the driver and the board inside: an injected failure never reaches that board.
-/

namespace QuadDaq.Rig

/-- The board inside. -/
inductive Inner
  | scripted (s : Board.Scripted)
  | simulated (s : Board.Simulated)

/-- What the next read does. -/
inductive Action
  /-- It reads the board inside. -/
  | pass
  | fault (f : BoardFault)
  | crash

/-- A board that fails on demand. -/
structure RiggedBoard where
  inner : Inner
  /-- What the next reads do; without an entry they pass. -/
  actions : List Action := []
  /-- Failures of the next selections. -/
  selectFaults : List BoardFault := []
  /-- Failures of the next switches. -/
  measureFaults : List BoardFault := []
  /-- Levels of the button at the next polls. -/
  levels : List Bool := []
  /-- Level of the button. -/
  pressed : Bool := false

namespace Inner

/-- Switches conversions. -/
def setMeasuring (on : Bool) : Inner → Inner
  | scripted s => scripted (Board.setMeasuring on s).1
  | simulated s => simulated (s.setMeasuring on)

/-- Routes the bridge. -/
def selectBridge (b : Bridge) : Inner → Inner
  | scripted s => scripted (Board.selectBridge b s).1
  | simulated s => simulated (s.selectBridge b)

/-- Reads one row. -/
def read : Inner → Inner × ReadOutcome
  | scripted s => let (s, outcome) := s.read; (scripted s, outcome)
  | simulated s =>
    match s.read with
    | (s, .ok row) => (simulated s, .row row)
    | (s, .error f) => (simulated s, .fault f)

end Inner

namespace RiggedBoard

/-- Reads according to the next action. -/
def read (b : RiggedBoard) : RiggedBoard × ReadOutcome :=
  let pass (b : RiggedBoard) : RiggedBoard × ReadOutcome :=
    let (inner, outcome) := b.inner.read
    ({ b with inner := inner }, outcome)
  match b.actions with
  | [] => pass b
  | .pass :: rest => pass { b with actions := rest }
  | .fault f :: rest => ({ b with actions := rest }, .fault f)
  | .crash :: rest => ({ b with actions := rest }, .crash)

/-- Polls the button: the next level of the list, which stays. -/
def level (b : RiggedBoard) : RiggedBoard × Bool :=
  match b.levels with
  | [] => (b, b.pressed)
  | l :: rest => ({ b with levels := rest, pressed := l }, l)

instance : Board RiggedBoard where
  setMeasuring on b :=
    match b.measureFaults with
    | f :: rest => ({ b with measureFaults := rest }, .error f)
    | [] => ({ b with inner := b.inner.setMeasuring on }, .ok ())
  selectBridge bridge b :=
    match b.selectFaults with
    | f :: rest => ({ b with selectFaults := rest }, .error f)
    | [] => ({ b with inner := b.inner.selectBridge bridge }, .ok ())
  read _ b := b.read
  level b := b.level

end RiggedBoard

end QuadDaq.Rig
