import Connector.Transfer.Codec

/-!
# Events

What the connector tells those who listen: the life of transfers and of data planes.
-/

namespace Connector

/-- What happened to a transfer. -/
inductive TransferEvent where
  | created (transferId : String) (role : Transfer.Role) (agreementId : String)
      (createdAt : Instant)
  | stateChanged (transferId : String) (prior next : Transfer.State) (stateCount : Nat)
      (changedAt : Instant)
  | suspended (transferId : String) (suspendedFrom : Transfer.State) (suspendedAt : Instant)
  | resumed (transferId : String) (resumedTo : Transfer.State) (resumedAt : Instant)
  | completed (transferId : String) (completedAt : Instant)
  | terminated (transferId : String) (errorDetail : Option String) (terminatedAt : Instant)
  deriving DecidableEq, Repr, Inhabited

/-- What happened to a data plane. -/
inductive DataPlaneEvent where
  | registered (dataPlaneId : String) (replaced : Bool) (registeredAt : Instant)
  | deregistered (dataPlaneId : String) (deregisteredAt : Instant)
  | evicted (dataPlaneId : String) (lastSeen evictedAt : Instant)
  deriving DecidableEq, Repr, Inhabited

/-- What happened. -/
inductive Event where
  | transfer (e : TransferEvent)
  | dataPlane (e : DataPlaneEvent)
  deriving DecidableEq, Repr, Inhabited

namespace TransferEvent

/-- The transfer of an event. -/
def transferId : TransferEvent → String
  | created id _ _ _ => id
  | stateChanged id _ _ _ _ => id
  | suspended id _ _ => id
  | resumed id _ _ => id
  | completed id _ => id
  | terminated id _ _ => id

/-- The cases by their names. -/
def cases : List (String × Fields TransferEvent) :=
  [("Created",
     TransferEvent.created <$> .required "process_id" .string
       <*> .required "process_type" Transfer.Role.decoder <*> .required "agreement_id" .string
       <*> .required "created_at" .instant),
   ("StateChanged",
     TransferEvent.stateChanged <$> .required "process_id" .string
       <*> .required "from" Transfer.State.decoder <*> .required "to" Transfer.State.decoder
       <*> .required "state_count" .nat32 <*> .required "changed_at" .instant),
   ("Suspended",
     TransferEvent.suspended <$> .required "process_id" .string
       <*> .required "suspended_from" Transfer.State.decoder
       <*> .required "suspended_at" .instant),
   ("Resumed",
     TransferEvent.resumed <$> .required "process_id" .string
       <*> .required "resumed_to" Transfer.State.decoder <*> .required "resumed_at" .instant),
   ("Completed",
     TransferEvent.completed <$> .required "process_id" .string
       <*> .required "completed_at" .instant),
   ("Terminated",
     TransferEvent.terminated <$> .required "process_id" .string
       <*> .optional "error_detail" .string <*> .required "terminated_at" .instant)]

/-- The case of an event and its members. -/
def toMember : TransferEvent → String × Json
  | created id role agreementId at' =>
      ("Created", .object [("process_id", .str id), ("process_type", role.toJson),
        ("agreement_id", .str agreementId), ("created_at", .instant at')])
  | stateChanged id prior next count at' =>
      ("StateChanged", .object [("process_id", .str id), ("from", prior.toJson),
        ("to", next.toJson), ("state_count", .nat count), ("changed_at", .instant at')])
  | suspended id prior at' =>
      ("Suspended", .object [("process_id", .str id), ("suspended_from", prior.toJson),
        ("suspended_at", .instant at')])
  | resumed id next at' =>
      ("Resumed", .object [("process_id", .str id), ("resumed_to", next.toJson),
        ("resumed_at", .instant at')])
  | completed id at' =>
      ("Completed", .object [("process_id", .str id), ("completed_at", .instant at')])
  | terminated id detail at' =>
      ("Terminated", .object [("process_id", .str id), ("error_detail", .text detail),
        ("terminated_at", .instant at')])

/-- An event as a document, without the mark of its sort. -/
def toJson (e : TransferEvent) : Json := .object [e.toMember]

end TransferEvent

namespace DataPlaneEvent

/-- The cases by their names. -/
def cases : List (String × Fields DataPlaneEvent) :=
  [("Registered",
     DataPlaneEvent.registered <$> .required "instance_id" .string
       <*> .required "replaced" .boolean <*> .required "registered_at" .instant),
   ("Deregistered",
     DataPlaneEvent.deregistered <$> .required "instance_id" .string
       <*> .required "deregistered_at" .instant),
   ("Evicted",
     DataPlaneEvent.evicted <$> .required "instance_id" .string
       <*> .required "last_seen" .instant <*> .required "evicted_at" .instant)]

/-- The case of an event and its members. -/
def toMember : DataPlaneEvent → String × Json
  | registered id replaced at' =>
      ("Registered", .object [("instance_id", .str id), ("replaced", .bool replaced),
        ("registered_at", .instant at')])
  | deregistered id at' =>
      ("Deregistered", .object [("instance_id", .str id), ("deregistered_at", .instant at')])
  | evicted id lastSeen at' =>
      ("Evicted", .object [("instance_id", .str id), ("last_seen", .instant lastSeen),
        ("evicted_at", .instant at')])

end DataPlaneEvent

namespace Event

/-- An event of a document. -/
def decoder : Decoder Event :=
  .tagged "DomainEvent" "type"
    [("transfer", .inner fun aside j =>
       (Decoder.keyed "TransferProcessEvent" TransferEvent.cases aside j).map .transfer),
     ("data_plane", .inner fun aside j =>
       (Decoder.keyed "DataPlaneEvent" DataPlaneEvent.cases aside j).map .dataPlane)]

/-- An event as a document. -/
def toJson : Event → Json
  | transfer e => .object [("type", .str "transfer"), e.toMember]
  | dataPlane e => .object [("type", .str "data_plane"), e.toMember]

/-- The event of a transfer, if this is one of that transfer. -/
def concerns (id : String) : Event → Option TransferEvent
  | transfer e => if e.transferId = id then some e else none
  | dataPlane _ => none

end Event
end Connector
