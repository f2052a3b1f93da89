import MessageBroker.Broker
/-!
# Sending dispositions

A disposition goes to the sender over its link, and the link remembers the delivery until it is
settled.  Dispositions also go out for links that were torn down in the meantime.
-/
namespace MessageBroker.Broker

/-- Hands a disposition to whoever takes those of the link. -/
def dispatch (b : Broker) (l : LinkId) (link : Link) (d : Disposition) : Broker :=
  if link.receiverOpen then { b with outbox := b.outbox ++ [(l, d)] }
  else b.note (.dispositionDropped d.tag.hex)

/-- What a disposition leaves of the unsettled deliveries. -/
def settleOrRecord (u : Unsettled) (d : Disposition) : Unsettled :=
  if d.settled then u.remove d.tag else u.record d.tag d.state

def sendDisposition (b : Broker) (l : LinkId) (d : Disposition) : Broker :=
  match b.link? l with
  | none => b
  | some link =>
    let b := b.modifyLink l fun x => { x with unsettled := settleOrRecord x.unsettled d }
    let b := b.note
      (.dispositionSent link.name d.tag.hex (DeliveryState.displayOf d.state) d.settled)
    b.dispatch l link d

def fire (b : Broker) (actions : List SettlementAction) : Broker :=
  actions.foldl (fun b a => b.sendDisposition a.link a.disposition) b

end MessageBroker.Broker
