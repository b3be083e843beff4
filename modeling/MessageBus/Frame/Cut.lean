import MessageBus.Message

namespace MessageBus

open Wire

/-!
# Cutting without looking

Whoever only wants to see what is on a stream cuts it into frames and believes
every length, however large.  A negative length counts as none.  What does not
make up a whole frame is left over and can be put in front of what comes next.
-/

namespace Frame

theorem size_pos (format : Format) : 0 < format.size := by
  cases format <;> decide

/-- The whole frames of a byte string, and the rest. -/
def cut (format : Format) (bytes : Bytes) : List Message × Bytes :=
  let (header, timecode) := format.decodeHead (bytes.take format.size)
  let size := format.size + header.payloadLength
  if _fits : size <= bytes.length then
    let payload := (bytes.take size).drop format.size
    let (messages, rest) := cut format (bytes.drop size)
    (⟨header, timecode, payload⟩ :: messages, rest)
  else ([], bytes)
termination_by bytes.length
decreasing_by
  have := size_pos format
  simp only [List.length_drop]
  omega

end Frame

end MessageBus
