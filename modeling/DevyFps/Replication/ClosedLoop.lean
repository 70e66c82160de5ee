import DevyFps.Replication.Deployment

/-! What the server makes of the commands of its clients, in any run of both. No packet of a client
is dropped, and no command is refused for what it says. -/

namespace DevyFps.Replication

open Foundations FloatFormat Net Client Server
open Server.MainLoop (LoopEvent LoopStep)
open Server.ServerHost (HostStep)
open Voxel (KeepsFinite)

variable {F : Type} [SingleFloat F]

namespace Deployment

variable {settings : OutboundSettings F} {setup : ServerSetup F} {s t : Deployment F}

/-- What a client that is in touch has under way passes the parser. -/
theorem Sendable.carried {client : ClientLoop F} {packet : Net.Packet (SingleFloat.Double F)}
    (h : Sendable client packet) :
    Net.carried packet = .ok { packet with payload := arrived packet.payload } := by
  cases h with
  | joinRequest hPacket =>
      rw [hPacket]
      exact understood_joinRequestPacket.carried
  | command message hJoined hRead hNamed => exact hRead.carried

end Deployment

end DevyFps.Replication
