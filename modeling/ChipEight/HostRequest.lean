import ChipEight.Machine

/-!
# Requests of a host

The operations of a machine as data, so that what a host does over time is a list. A request that
fails is answered with its fault and leaves the machine as it was.
-/

namespace ChipEight

inductive HostRequest where
  | reset
  | load (program : List UInt8)
  | loadFrom (source : List Delivery)
  | press (key : UInt8) (down : Bool)
  | step
  | tick

/-- The answer to a request: the fault, if it failed, and whether it beeped. -/
structure HostReply where
  fault : Option Fault
  beeped : Bool
  deriving DecidableEq

namespace HostReply

def done : HostReply := ⟨none, false⟩

end HostReply

namespace Machine

/-- The machine after an operation that may have failed, with its answer. -/
def settle (m : Machine) : Except Fault Machine → Machine × HostReply
  | .ok next => (next, .done)
  | .error fault => (m, ⟨some fault, false⟩)

def perform (m : Machine) : HostRequest → Machine × HostReply
  | .reset => (m.reset, .done)
  | .load program => m.settle (m.load program)
  | .loadFrom source => m.settle (m.loadFrom source)
  | .press key down => m.settle (m.press key down)
  | .step => m.settle m.step
  | .tick => (m.tick, ⟨none, m.beeps⟩)

def performAll (m : Machine) : List HostRequest → Machine × List HostReply
  | [] => (m, [])
  | r :: rest =>
    let first := m.perform r
    let others := first.1.performAll rest
    (others.1, first.2 :: others.2)

end Machine
end ChipEight
