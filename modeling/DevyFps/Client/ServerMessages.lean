import DevyFps.Client.EventReading
import DevyFps.Client.GuardedConsumers
import DevyFps.Shared.Net.ProtocolGrammar

/-! Which messages of the server the client can take. The events of a snapshot are outside
the schemas, and only the event feed converts fields of them unseen. -/

namespace DevyFps.Client

open Foundations Net

variable {F : Type} [SingleFloat F]

end DevyFps.Client
