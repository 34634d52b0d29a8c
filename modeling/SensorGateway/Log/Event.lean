import SensorGateway.Config

set_option autoImplicit false

/-! # Log events

The events that the connection manager and the data manager report to the log process. -/

namespace SensorGateway

/-- A log event, with the sensor node id and the running average that its message shows. -/
inductive LogEvent (V : Type) where
  | connectionOpened (id : UInt16)
  | connectionClosed (id : UInt16)
  | tooCold (id : UInt16) (average : V)
  | tooHot (id : UInt16) (average : V)
  | invalidId (id : UInt16)
deriving DecidableEq, Repr

end SensorGateway
