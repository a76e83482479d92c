import MatterTimeCtl.TzRefine
import MatterTimeCtl.Storage.Bootstrap
import MatterTimeCtl.Storage.NodeIds
import MatterTimeCtl.Storage.Refusal
import MatterTimeCtl.Storage.Directory
import MatterTimeCtl.Storage.Interleaving
import MatterTimeCtl.Storage.Membership
import MatterTimeCtl.Storage.Exclusive
import MatterTimeCtl.Storage.Leftover
import MatterTimeCtl.Storage.KeyValue
import MatterTimeCtl.Storage.Prediction
import MatterTimeCtl.Conversion
import MatterTimeCtl.Duration
import MatterTimeCtl.NextTransition
import MatterTimeCtl.Batch.Isolation
import MatterTimeCtl.Device.Upkeep
import MatterTimeCtl.Pairing
import MatterTimeCtl.WallClockGrammar
import MatterTimeCtl.ClockArithmetic
import MatterTimeCtl.Host
import MatterTimeCtl.Controller.HexKey
import MatterTimeCtl.StandardOffset
import MatterTimeCtl.Controller.PickInterface
import MatterTimeCtl.Configuration
import MatterTimeCtl.JsonMode
import MatterTimeCtl.Terminal
import MatterTimeCtl.Wire.Exchange
import MatterTimeCtl.Wire.Targets
