import ChipEight.Fault

/-!
# Sources of programs

A source hands out its bytes in deliveries. An interrupted delivery is asked for again, so it adds
nothing; an empty one marks the end; a failed one makes the whole source unreadable, whatever was
handed out before. How the bytes are divided into deliveries does not matter.
-/

namespace ChipEight

/-- The answer of a source to a request for more bytes. -/
inductive Delivery where
  | bytes (data : List UInt8)
  | interrupted
  | failed (reason : String)

namespace Delivery

/-- The bytes of a source up to its end. -/
def gather : List Delivery → Except Fault (List UInt8)
  | [] => .ok []
  | .bytes [] :: _ => .ok []
  | .bytes data :: rest => (gather rest).map (data ++ ·)
  | .interrupted :: rest => gather rest
  | .failed reason :: _ => .error (.unreadableRom reason)

end Delivery
end ChipEight
