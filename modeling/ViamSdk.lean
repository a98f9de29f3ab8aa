import ViamSdk.StepTrace
import ViamSdk.UnorderedMap
import ViamSdk.Regex
import ViamSdk.ByteOrder
import ViamSdk.WrappingProduct
import ViamSdk.OwnedTokens
import ViamSdk.KeyedList
import ViamSdk.BidiStream
import ViamSdk.SerialChain
import ViamSdk.Cxx
import ViamSdk.Grpc
import ViamSdk.FloatingPoint
import ViamSdk.ResourceApi
import ViamSdk.NameParsing
import ViamSdk.ResourceConfig
import ViamSdk.ResourceManager
import ViamSdk.ShortcutIndex
import ViamSdk.ManagerRuns
import ViamSdk.Registry
import ViamSdk.RegistryRuns
import ViamSdk.ModuleService
import ViamSdk.ModuleHandlers
import ViamSdk.ModuleRuns
import ViamSdk.LogManager
import ViamSdk.ResourceLogLevels
import ViamSdk.ParentConnection
import ViamSdk.Dial
import ViamSdk.RobotClient
import ViamSdk.ReconnectPhase
import ViamSdk.CheckConnection
import ViamSdk.CheckThread
import ViamSdk.ClientLifecycle
import ViamSdk.LogForwarding
import ViamSdk.LogRouting
import ViamSdk.TraceExport
import ViamSdk.Redial
import ViamSdk.StaleClients
import ViamSdk.ResourceLookup
import ViamSdk.DepthMap
import ViamSdk.Trajectory
import ViamSdk.ArmServer
import ViamSdk.TrajectoryGate
import ViamSdk.ArmClient
import ViamSdk.StreamOutcome
import ViamSdk.StreamedTrajectory
import ViamSdk.ProtoValue
import ViamSdk.ServiceHelper
import ViamSdk.ClientContexts
import ViamSdk.AudioStream
import ViamSdk.HandlerFailures
import ViamSdk.FlatTensor
import ViamSdk.MLModelMetadata
import ViamSdk.MLModelInference
import ViamSdk.Spatialmath
import ViamSdk.Kinematics
import ViamSdk.UrdfChain
import ViamSdk.ConfigCodec
import ViamSdk.HandlerMap
import ViamSdk.Chrono
import ViamSdk.MotionPlan
import ViamSdk.MotionQueries
import ViamSdk.DoubleArithmetic
import ViamSdk.WorldState
import ViamSdk.KeyedEncoding
import ViamSdk.ValueEquality
import ViamSdk.WireEquality
import ViamSdk.Bson
import ViamSdk.DataConsumerQuery
import ViamSdk.MotionMoves
import ViamSdk.CheckedArithmetic
import ViamSdk.TimeConversion
import ViamSdk.InferGate
import ViamSdk.InvokeStream
import ViamSdk.NameCodec
import ViamSdk.ReplaceAll
import ViamSdk.ModelTable
import ViamSdk.KinematicsData
import ViamSdk.ServerLifecycle
import ViamSdk.ClientClose
import ViamSdk.DebugKeys
import ViamSdk.InitialDial
import ViamSdk.PlayStream
import ViamSdk.PlayStreamRuns
import ViamSdk.RiffWave
import ViamSdk.WavFile
import ViamSdk.ArmMotion
import ViamSdk.CameraQueries
import ViamSdk.PoseTracker
import ViamSdk.Lifetimes
import ViamSdk.ProtoStorage
import ViamSdk.ProtoVariables
import ViamSdk.WireCodec
import ViamSdk.RemoteCalls
import ViamSdk.MethodCodecs
import ViamSdk.MovingComponents
import ViamSdk.SensingComponents
import ViamSdk.OtherComponents
import ViamSdk.RemoteResources
import ViamSdk.HandlerScope
import ViamSdk.TraceTree
import ViamSdk.SharedTraces
import ViamSdk.UrdfTable
import ViamSdk.ModuleAnnouncement
import ViamSdk.AnnouncedModels
import ViamSdk.Spending
import ViamSdk.KinematicsRelay
import ViamSdk.ServedResources
import ViamSdk.LinkedChain
import ViamSdk.TickStream
import ViamSdk.TickRelay
import ViamSdk.InstanceLifetime
import ViamSdk.InstanceRuns
