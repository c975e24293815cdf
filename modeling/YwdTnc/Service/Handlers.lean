import YwdTnc.Agw.Ingress
import YwdTnc.Service.TncRuntime

/-!
# The handlers of client connections

A connection speaks KISS or AGW. Its handler decodes what it receives and gives the
messages of a chunk to the backend one after the other, so between two of them other
threads take their turns. The events that a handler sends to its client are not part of
the model.
-/

namespace YwdTnc

open Interaction Prog

inductive ConnectionDecoder where
  | kiss (decoder : KISSStreamDecoder)
  | agw (decoder : AGWStreamDecoder)

/-- Where a handler stands: without a connection, in `recv`, before the messages that are
left of a chunk, or in `reject_client_message`. -/
inductive Handler where
  | closed
  | receiving (decoder : ConnectionDecoder)
  | delivering (decoder : ConnectionDecoder) (messages : List KISSMessage)
  | submitting (decoder : ConnectionDecoder) (messages : List KISSMessage)
      (submission : Submission)

namespace Handler

variable {R : Type}

def noteMalformedStreamFrames (count : ℕ) : PortProg R Tnc Unit :=
  modify fun s => { s with backend := { s.backend with
    session := s.backend.session.noteMalformedStreamFrames count } }

/-- What a handler makes of a chunk. -/
def receive (decoder : ConnectionDecoder) (data : Bytes) : PortProg R Tnc Handler :=
  match decoder with
  | .kiss d => do
      let (d', messages) := d.feed data
      noteMalformedStreamFrames (d'.discardedFrames - d.discardedFrames)
      return delivering (.kiss d') messages
  | .agw d =>
      match d.feed data with
      | (_, .error _) => return closed
      | (d, .ok frames) => return delivering (.agw d) (frames.filterMap AGWFrame.clientMessage)

/-- A turn. `accepted` is the decoder of a new connection, `data` what `recv` returns;
without it the connection is lost. -/
def turn (accepted : Option ConnectionDecoder) (data : Option Bytes) :
    Handler → PortProg R Tnc Handler
  | closed => return (accepted.map receiving).getD closed
  | receiving decoder =>
      match data with
      | none | some [] => return closed
      | some data => receive decoder data
  | delivering decoder [] => return receiving decoder
  | delivering decoder (message :: messages) =>
      return submitting decoder messages (.received message)
  | submitting decoder messages submission => do
      match ← submission.turn with
      | some submission => return submitting decoder messages submission
      | none => return delivering decoder messages

end Handler

end YwdTnc
