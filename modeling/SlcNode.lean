import SlcNode.Durability
import SlcNode.UploadPeriod
import SlcNode.ScheduleStore
import SlcNode.DimCommand
import SlcNode.FwUpdate
import SlcNode.KeepOnline
import SlcNode.Reregistration
import SlcNode.ThresholdStore
import SlcNode.MeterRead
import SlcNode.ScheduleClock
import SlcNode.ConfigPayload
import SlcNode.SpiReceiver
import SlcNode.FreshTimeout
import SlcNode.WakeUp
import SlcNode.CustomAtCmd
import SlcNode.PauseBookkeeping
import SlcNode.Subscription
import SlcNode.AtOwnership
import SlcNode.StoredFile
import SlcNode.FileDiscipline
import SlcNode.BandMask
import SlcNode.SignalField
import SlcNode.Setting
import SlcNode.ConfigResource
import SlcNode.RepeatedUpdate
import SlcNode.TimerPeriod
import SlcNode.CommandText
import SlcNode.ConfigText
import SlcNode.BandCommand
import SlcNode.BandCheck
import SlcNode.MeterSign
import SlcNode.MeterWrite
import SlcNode.NtpClient
import SlcNode.TimeSync
import SlcNode.ConnectLoop
import SlcNode.ConfigPrint
import SlcNode.SignalPower
import SlcNode.LightDimUpdate
import SlcNode.DimRamp
import SlcNode.DateTimePattern
import SlcNode.ScheduleRepeat
import SlcNode.MasterFrame
import SlcNode.ChunkedRead
import SlcNode.LaunchFlags
import SlcNode.Online
import SlcNode.Handover
import SlcNode.Waits
import SlcNode.ModemUse
import SlcNode.SpiSlave
import SlcNode.DeltaUpdate
import SlcNode.AtDialogue
import SlcNode.ModuleDetection
import SlcNode.PatchMemory
import SlcNode.PatchNumbers
