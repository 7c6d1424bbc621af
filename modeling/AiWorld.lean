import AiWorld.Api.Announcements
import AiWorld.Api.ArtifactRace
import AiWorld.Api.ClosureOnce
import AiWorld.Api.HookLossRate
import AiWorld.Api.Interference
import AiWorld.Api.MissionRuns
import AiWorld.Api.MissionStart
import AiWorld.Api.Permanence
import AiWorld.Api.PersonaSlots
import AiWorld.Api.ReaperSweep
import AiWorld.Api.Recovery
import AiWorld.Api.Registration
import AiWorld.Api.RoomAllocation
import AiWorld.Api.SessionEnds
import AiWorld.Api.SessionParents
import AiWorld.Api.SubagentSights
import AiWorld.Api.TaskRuns
import AiWorld.Executor.Checkpoints
import AiWorld.Executor.Poison
import AiWorld.Executor.RawResponse
import AiWorld.Executor.SingleRepair
import AiWorld.Gateway.BreakerHistory
import AiWorld.Hook.Clock
import AiWorld.Hook.Extraction
import AiWorld.Hook.Recovery
import AiWorld.Lease.Heartbeat
import AiWorld.Lease.Ownership
import AiWorld.Projects.Cap
import AiWorld.Projects.Standing
import AiWorld.World.Collision
import AiWorld.World.CommuteRuns
import AiWorld.World.Explorer
import AiWorld.World.IdleSchedule
