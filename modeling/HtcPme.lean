import HtcPme.Foundation.Adjacency
import HtcPme.Foundation.HeapList
import HtcPme.Foundation.Ledger
import HtcPme.Foundation.Chain
import HtcPme.Foundation.ChainedTable
import HtcPme.Foundation.Halfword
import HtcPme.IpaNat.WellFormed
import HtcPme.IpaNat.Lookup
import HtcPme.IpaNat.TableLifecycle
import HtcPme.IpaNat.RuleHandles
import HtcPme.Foundation.SlotLoop
import HtcPme.Ipacm.NatAppHandles
import HtcPme.Ipacm.NatDriverCalls
import HtcPme.Ipacm.NatAppTable
import HtcPme.Ipacm.ConntrackListener
import HtcPme.Ipacm.StaClient
import HtcPme.Ipacm.NatAppPowerSave
import HtcPme.Ipacm.CtTeardown
import HtcPme.Ipacm.LanToLanPowerSave
import HtcPme.Ipacm.IfaceManager
import HtcPme.Ipacm.WlanAp
import HtcPme.Ipacm.WlanClientRemove
import HtcPme.Ipacm.RmDepend
import HtcPme.Ipacm.UplinkRun
import HtcPme.Ipacm.UplinkXlat
import HtcPme.Ipacm.WanStaRun
import HtcPme.Ipacm.WanUpFlag
import HtcPme.Ipacm.TetherList
import HtcPme.Ipacm.EthClientRun
import HtcPme.Ipacm.EthBridgeRun
import HtcPme.Ipacm.WanFirewall
import HtcPme.Gps.LocHeap
import HtcPme.Gps.LinkedList
import HtcPme.Gps.MsgQ
import HtcPme.Gps.MsgQWake
import HtcPme.Gps.SyncReqInd
import HtcPme.Gps.LocTimerExpiry
import HtcPme.Gps.LocTimerKernel
import HtcPme.Gps.AgpsAnswer
import HtcPme.Gps.DsRun
import HtcPme.Gps.LocEng
import HtcPme.Gps.LocEngNiRun
import HtcPme.Gps.LocApiRun
import HtcPme.Gps.LocApiSession
import HtcPme.Gps.SyncCallRun
import HtcPme.Ipacm.WanSta
import HtcPme.Foundation.RuleGroups
import HtcPme.Ipacm.LanPipe
import HtcPme.Ipacm.LanPipeRules
import HtcPme.Ipacm.LanPipeRun
import HtcPme.IpaNat.Cksum
import HtcPme.IpaNat.TableSizes
import HtcPme.IpaNat.DmaOffsets
import HtcPme.IpaNat.AddFailures
import HtcPme.IpaNat.LinkBounds
import HtcPme.IpaNat.HandleChecks
import HtcPme.Foundation.KeyedList
import HtcPme.Ipacm.Neighbor
import HtcPme.Ipacm.NeighborRun
import HtcPme.Ipacm.NeighborAddr
import HtcPme.Foundation.ByteMemory
import HtcPme.Foundation.LengthWalk
import HtcPme.Ipacm.Netlink
import HtcPme.Ipacm.NetlinkBounds
import HtcPme.Ipacm.NetlinkEncode
import HtcPme.Ipacm.NetlinkBatch
import HtcPme.Ipacm.NetlinkAlone
import HtcPme.Ipacm.NetlinkRoutes
import HtcPme.Foundation.SlotCount
import HtcPme.Ipacm.NatAppCount
import HtcPme.Ipacm.NatIfaces
import HtcPme.Ipacm.PrivateSubnet
import HtcPme.Ipacm.EthFltRun
import HtcPme.Ipacm.Lan2lanSlotsRun
import HtcPme.Ipacm.FirewallBounds
import HtcPme.Ipacm.StaFirewallRun
import HtcPme.Ipacm.HeaderNames
import HtcPme.Ipacm.StaRoutesRun
import HtcPme.Ipacm.NatAppPromote
import HtcPme.Ipacm.TempPromotion
import HtcPme.Ipacm.CmdQueue
import HtcPme.Ipacm.ConntrackClient
import HtcPme.Gps.LocCfgRun
import HtcPme.Gps.AgpsObjectsView
import HtcPme.Gps.LocTimerDelegates
import HtcPme.Ipacm.XmlBounds
import HtcPme.Ipacm.FirewallXmlFile
import HtcPme.Ipacm.LanToLanCacheRun
import HtcPme.Gps.AidingData
import HtcPme.Gps.LocAdapters
import HtcPme.Gps.SvMeasurement
import HtcPme.Gps.XtraData
import HtcPme.Gps.SupportedMsgs
import HtcPme.Gps.XtraUserAgent
import HtcPme.Gps.GnssClock
import HtcPme.Gps.FixRestart
import HtcPme.Gps.AgpsEngineUp
import HtcPme.Gps.Nmea
import HtcPme.Gps.NmeaUsed
import HtcPme.Gps.DmnConnMsg
import HtcPme.Gps.LocMiscUtils
import HtcPme.Gps.LocThread
