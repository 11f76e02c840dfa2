import Connector.Http.Exchange
import Connector.Site.Note
import Connector.Transfer.Codec

/-!
# Messages on the wire

A message goes as a document to the address of the other side.  A success says that it was taken;
a refusal that it never will be; everything else that it may be taken later.
-/

namespace Connector.Message

/-- What is noted of a message before it goes. -/
def dispatchNote (m : Message) : Note :=
  ⟨.debug, "Dispatching message",
    [("process_id", m.transferId), ("kind", m.kind.word), ("address", m.address)]⟩

/-- The request that carries a message. -/
def toRequest (m : Message) : Except Http.Failure Http.Request :=
  match Url.parse m.address with
  | .error _ => .error .noAddress
  | .ok url => Http.Request.to .post url (some m.toJson)

/-- What a reply to a message means. -/
def acknowledge (request : Http.Request) (reply : Http.Reply) : Except DispatchFault Unit :=
  match reply.response? request.url with
  | .error e => .error (.transient e.message)
  | .ok (status, body) =>
      if Http.isSuccess status then .ok ()
      else if Http.isRefusal status then .error (.rejected (Http.detail status body))
      else .error (.transient (Http.detail status body))

/-- Sends a message to somebody who replies as told. -/
def send (m : Message) (answer : Http.Request → Http.Reply) : Except DispatchFault Unit :=
  match m.toRequest with
  | .error e => .error (.transient e.message)
  | .ok request => acknowledge request (answer request)

end Connector.Message
