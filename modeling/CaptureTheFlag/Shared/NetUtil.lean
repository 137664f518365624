import CaptureTheFlag.Library.Framing
import CaptureTheFlag.Shared.GameTypes

/-! # Socket helpers

The kernel's answers to `send` are given in advance, one for each call; when they are used up the socket is full.
-/
namespace CaptureTheFlag
set_option autoImplicit false
open Framing

inductive SendResult where
  | sent (n : Nat)
  | again
  | interrupted
  | failed
deriving DecidableEq, Repr

inductive SendStatus where
  | done
  | full
  | broken
deriving DecidableEq, Repr

structure SendLoop where
  sent : Nat
  status : SendStatus
  answers : List SendResult

/-- The loop that `send_all` and `flush_pending` share. -/
def sendLoop : List SendResult → List U8 → SendLoop
  | answers, [] => ⟨0, .done, answers⟩
  | [], _ => ⟨0, .full, []⟩
  | .again :: answers, _ => ⟨0, .full, answers⟩
  | .interrupted :: answers, buf => sendLoop answers buf
  | .failed :: answers, _ => ⟨0, .broken, answers⟩
  | .sent n :: answers, buf =>
    -- The kernel takes no more than it is offered; zero is an error of its own.
    if min n buf.length = 0 then ⟨0, .broken, answers⟩
    else
      let later := sendLoop answers (buf.drop (min n buf.length))
      { later with sent := min n buf.length + later.sent }

/-- The return value of `send_all`. -/
def SendLoop.result (l : SendLoop) : Int := if l.status = .broken ∧ l.sent = 0 then -1 else l.sent

def sendAll (answers : List SendResult) (buf : List U8) : Int × SendLoop :=
  ((sendLoop answers buf).result, sendLoop answers buf)

def recvFramed (buf : List U8) : Peek := peek kTcpFrameCapBytes buf

end CaptureTheFlag
