import DevyFps.Server.SessionAdmission
import DevyFps.Server.ProjectileLife
import DevyFps.Server.TreasureConservation
import DevyFps.Server.ConnectedPlayers
import DevyFps.Server.MatchPhases
import DevyFps.Server.MatchOpponents
import DevyFps.Server.RespawnBudget
import DevyFps.Shared.Voxel.SeamlessChunks
import DevyFps.Shared.Voxel.GatheredCandidates
import DevyFps.Shared.Voxel.MeshFaces
import DevyFps.Shared.Voxel.PoiSpacing
import DevyFps.Shared.Voxel.WorldAddressing
import DevyFps.Shared.Voxel.ProfileArithmetic
import DevyFps.Replication.ReplicaContent
import DevyFps.Server.PickupAnswers
import DevyFps.Server.MovementTicks
import DevyFps.Server.RaycastOrder
import DevyFps.Server.FreshIdentity
import DevyFps.Server.DeathBinding
import DevyFps.Shared.Net.ProtocolGrammar
import DevyFps.Server.Impersonation
import DevyFps.Server.ShotPace
import DevyFps.Server.ConfigArithmetic
import DevyFps.Client.ServerMessages
import DevyFps.Replication.PredictionAgreement
import DevyFps.Replication.HitsShownOnce
import DevyFps.Replication.IntegerReaders
import DevyFps.Replication.PhaseAnnouncements
import DevyFps.Replication.CommandSequences
import DevyFps.Replication.WorldHandshake
import DevyFps.Server.TickSchedule
import DevyFps.Server.MatchClock
import DevyFps.Server.MatchCountdown
import DevyFps.Server.InventoryLimits
import DevyFps.Server.LootOrder
import DevyFps.Server.InventoryDeltas
import DevyFps.Server.LootSums
import DevyFps.Server.TreasurePool
import DevyFps.Server.FinalScores
import DevyFps.Server.PhaseChanges
import DevyFps.Server.SnapshotEvents
import DevyFps.Server.MatchOrder
import DevyFps.Server.BlockEdits
import DevyFps.Server.SnapshotAssembly
import DevyFps.Shared.Game.Jumps
import DevyFps.Server.TelemetryReports
import DevyFps.Replication.EventDelivery
import DevyFps.Replication.Reception
import DevyFps.Server.SnapshotContent
import DevyFps.Replication.HudMirror
import DevyFps.Replication.PatientClients
import DevyFps.Server.HealthFile
import DevyFps.Replication.EndpointDiscovery
