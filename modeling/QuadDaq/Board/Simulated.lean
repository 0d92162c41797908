import QuadDaq.Board.Basic

/-!
# The simulated board

A board that computes its samples. **The signal is a function of the number of
successful reads so far**, not of time and not of all reads, so a fault never
shifts it. A read fails if conversions are off, if the board is stuck, or if an
injected fault is due, and the causes are looked at in this order: only the last
one uses up an injected fault.
-/

namespace QuadDaq.Board

/-- The shape of a simulated signal. -/
inductive Waveform
  /-- A whole number of counts around a midpoint; channel `c` has a frequency of
  `c + 1` periods per second. -/
  | sine (midpoint amplitude : Float)
  /-- The same row always. -/
  | constant (row : Row)

namespace Waveform

/-- What a routed bridge adds to every channel, in counts. -/
def bridgeCounts : Bridge → Float
  | .on => 100.0
  | .off => 0.0

/-- A full turn in radians. -/
def turn : Float := Float.ofBits 0x401921fb54442d18

/-- The sample with this index at so many samples per second. -/
def sample (w : Waveform) (rate index : Nat) (bridge : Bridge) : Row :=
  let bias := bridgeCounts bridge
  match w with
  | constant row => row.map (· + bias)
  | sine midpoint amplitude =>
    let t := index.toUInt64.toFloat / rate.toUInt64.toFloat
    Vector.ofFn fun ch =>
      (midpoint + amplitude * (turn * (ch.val + 1).toUInt64.toFloat * t).sin + bias).round

end Waveform

/-- A board without hardware. -/
structure Simulated where
  /-- Samples per second, at least one. -/
  rate : Nat
  waveform : Waveform
  /-- Index of the next sample. -/
  index : Nat := 0
  bridge : Bridge := .off
  measuring : Bool := false
  /-- Injected faults that are still due. -/
  failNext : Nat := 0
  /-- Every read times out. -/
  stuck : Bool := false
  /-- Number of reads, successful or not. -/
  reads : Nat := 0
  /-- Level of the button. -/
  pressed : Bool := false

namespace Simulated

/-- A board with so many samples per second. -/
def ofRate (rate : Nat) (waveform : Waveform) : Simulated where
  rate := max rate 1
  waveform := waveform

/-- A board that always delivers this row. -/
def constant (row : Row) : Simulated := ofRate 1 (.constant row)

/-- The cause for which the next read fails. -/
def obstacle? (s : Simulated) : Option BoardFault :=
  if !s.measuring then some (.simulated "measurement disabled")
  else if s.stuck then some .timeout
  else if 0 < s.failNext then some (.simulated "injected read fault")
  else none

/-- Reads the next sample. -/
def read (s : Simulated) : Simulated × Except BoardFault Row :=
  let s := { s with reads := s.reads + 1 }
  match s.obstacle? with
  | some fault =>
    if s.measuring && !s.stuck then ({ s with failNext := s.failNext - 1 }, .error fault)
    else (s, .error fault)
  | none => ({ s with index := s.index + 1 }, .ok (s.waveform.sample s.rate s.index s.bridge))

/-- Routes the bridge; this never fails. -/
def selectBridge (s : Simulated) (b : Bridge) : Simulated := { s with bridge := b }

/-- Switches conversions on or off; this never fails. -/
def setMeasuring (s : Simulated) (on : Bool) : Simulated := { s with measuring := on }

/-- The next reads, so many of them, fail as injected faults. -/
def injectFaults (s : Simulated) (n : Nat) : Simulated := { s with failNext := n }

/-- Reads time out from now on, or no longer. -/
def setStuck (s : Simulated) (on : Bool) : Simulated := { s with stuck := on }

/-- Presses or releases the button. -/
def setPressed (s : Simulated) (on : Bool) : Simulated := { s with pressed := on }

instance : Board Simulated where
  setMeasuring on s := (s.setMeasuring on, .ok ())
  selectBridge b s := (s.selectBridge b, .ok ())
  read _ s :=
    match s.read with
    | (s, .ok row) => (s, .row row)
    | (s, .error f) => (s, .fault f)
  level s := (s, s.pressed)

end Simulated

end QuadDaq.Board
